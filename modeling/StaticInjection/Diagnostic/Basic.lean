import StaticInjection.Declaration.Basic
import StaticInjection.Model.Id

namespace StaticInjection

/-! What is reported about declarations that cannot be built. -/

inductive DiagnosticKind where
  | duplicateBean
  | unsatisfiedDependency
  | ambiguousDependency
  | cyclicDependency
  | invalidDeclaration
  | failedReliance
deriving DecidableEq, Repr, Inhabited

namespace DiagnosticKind

def all : List DiagnosticKind :=
  [duplicateBean, unsatisfiedDependency, ambiguousDependency, cyclicDependency, invalidDeclaration,
    failedReliance]

def word : DiagnosticKind → String
  | duplicateBean => "DuplicateBeanError"
  | unsatisfiedDependency => "UnsatisfiedDependencyError"
  | ambiguousDependency => "AmbiguousDependencyError"
  | cyclicDependency => "CyclicDependencyError"
  | invalidDeclaration => "InvalidDeclarationError"
  | failedReliance => "UpstreamResolutionError"

def ofWord? (word : String) : Option DiagnosticKind :=
  all.find? (·.word == word)

/-- The place of a kind in a sorted report. -/
def rank : DiagnosticKind → Nat
  | duplicateBean => 0
  | unsatisfiedDependency => 1
  | ambiguousDependency => 2
  | cyclicDependency => 3
  | invalidDeclaration => 4
  | failedReliance => 5

/-- A derived diagnostic only repeats that another module failed. -/
def isDerived (kind : DiagnosticKind) : Bool :=
  kind == failedReliance

end DiagnosticKind

structure Location where
  module : String
  bean : Option String := none
  socket : Option String := none
  position : Option SourcePosition := none
deriving DecidableEq, Inhabited

namespace Location

/-- `module:bean#socket (file:line:column)`, without the parts that are missing. -/
def text (location : Location) : String :=
  let bean := match location.bean with
    | none => ""
    | some name => s!":{name}"
  let socket := match location.socket with
    | none => ""
    | some name => s!"#{name}"
  let position := match location.position with
    | none => ""
    | some position => s!" ({position.text})"
  location.module ++ bean ++ socket ++ position

end Location

structure Diagnostic where
  kind : DiagnosticKind
  location : Location
  message : String
  /-- Qualified names of the providers concerned. -/
  implicated : List String := []
  /-- Paths of the modules whose failure caused this one. -/
  rootCauses : List String := []
  /-- The module that fails because of this diagnostic. -/
  scope : Option ModuleId := none
deriving DecidableEq, Inhabited

namespace Diagnostic

def text (diagnostic : Diagnostic) : String :=
  let implicated :=
    if diagnostic.implicated.isEmpty then ""
    else " [" ++ ", ".intercalate diagnostic.implicated ++ "]"
  let rootCauses :=
    if diagnostic.rootCauses.isEmpty then ""
    else " (根因: " ++ ", ".intercalate diagnostic.rootCauses ++ ")"
  s!"[{diagnostic.kind.word}] {diagnostic.location.text}: {diagnostic.message}" ++
    implicated ++ rootCauses

/-- A declaration of the module is at fault. -/
def invalid (scope : ModuleId) (location : Location) (message : String) : Diagnostic :=
  { kind := .invalidDeclaration, location, message, scope := some scope }

end Diagnostic

end StaticInjection
