import StaticInjection.Code.Constructor

namespace StaticInjection.Code

/-! All code generated for a module: the type of its inputs, its own type, and the functions on it. -/

structure Field where
  name : String
  type : ValueType
deriving DecidableEq, Repr

inductive Accessor where
  | singleton (bean type : String)
  /-- A new value for each call. -/
  | perRequest (bean type : String)
  | provider (bean type : String)
  | child (name path moduleType : String)
deriving DecidableEq, Repr

inductive ShutdownStep where
  | hook (bean method : String)
  /-- Call the hooks on every value that has been given out and is still in use. -/
  | issued (bean : String) (methods : List String)
  | child (name : String)
deriving DecidableEq, Repr

structure ModuleCode where
  header : String
  path : String
  moduleType : String
  inputsType : String
  inputs : List Field
  fields : List Field
  /-- The types that can be had from outside, with their qualifiers. -/
  exposed : List (String × Option String)
  constructor : Constructor
  accessors : List Accessor
  shutdown : List ShutdownStep
deriving DecidableEq, Repr

namespace Accessor

/-- The name of the function. -/
def name : Accessor → String
  | singleton bean _ => bean
  | perRequest bean _ => bean
  | provider bean _ => bean ++ "_provider"
  | child name _ _ => name ++ "_module"

end Accessor

namespace ModuleCode

/-- The names of the items on the module's type. -/
def itemNames (code : ModuleCode) : List String :=
  ["EXPOSED", "new"] ++ code.accessors.map (·.name) ++ ["shutdown"]

end ModuleCode

end StaticInjection.Code
