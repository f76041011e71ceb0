namespace StaticInjection.Code

/-! Types, locals and values of generated constructors. -/

def shared : String := "::std::sync::Arc"

def onceLock : String := "::std::sync::OnceLock"

def mutex : String := "::std::sync::Mutex"

/-- `Arc` of a type. -/
def sharedOf (type : String) : String :=
  s!"{shared}<{type}>"

/-- The type of a value, over a type of the application. -/
inductive ValueType where
  /-- One shared value. -/
  | one (type : String)
  | optional (type : String)
  | several (type : String)
  /-- A function that gives a new shared value each time. -/
  | factory (type : String)
  /-- A place that is filled once, after construction. -/
  | cell (type : String)
  /-- The values that a factory has given out and that are still in use. -/
  | issued (type : String)
deriving DecidableEq, Repr

namespace ValueType

def text : ValueType → String
  | one type => sharedOf type
  | optional type =>
    let inner := sharedOf type
    s!"Option<{inner}>"
  | several type =>
    let inner := sharedOf type
    s!"Vec<{inner}>"
  | factory type =>
    let inner := sharedOf type
    s!"{shared}<dyn Fn() -> {inner} + Send + Sync>"
  | cell type =>
    let inner := sharedOf type
    s!"{shared}<{onceLock}<{inner}>>"
  | issued type => s!"{shared}<{mutex}<Vec<::std::sync::Weak<{type}>>>>"

end ValueType

/-! ## Locals -/

inductive LocalKind where
  /-- An input declared by the module. -/
  | input
  /-- A bean from outside the module's subtree. -/
  | imported
  | cell
  | singleton
  | factory
  | issued
  | child
  /-- The values of a collection for a bean. -/
  | gathered
  /-- The values of a collection for a child module. -/
  | childGathered
deriving DecidableEq, Repr, Inhabited

structure Local where
  kind : LocalKind
  name : String
deriving DecidableEq, Repr, Inhabited

namespace LocalKind

/-- How the names of such locals begin. -/
def lead : LocalKind → String
  | input => "s_"
  | imported => "i_"
  | cell => "d_"
  | singleton => "b_"
  | factory => "f_"
  | issued => "t_"
  | child => "m_"
  | gathered => "c_"
  | childGathered => "cm_"

end LocalKind

namespace Local

def text (name : Local) : String :=
  name.kind.lead ++ name.name

def atMost (left right : Local) : Bool :=
  left.text ≤ right.text

end Local

/-! ## Values -/

inductive Value where
  | cloneOf (source : Local)
  /-- A new value from a factory. -/
  | callOf (factory : Local)
  /-- A bean of a module below a child, through accessors. -/
  | beanOf (child : Local) (through : List String) (bean : String)
  /-- The factory of such a bean. -/
  | factoryOf (child : Local) (through : List String) (bean : String)
  /-- As a shared value of another type. -/
  | coerced (value : Value) (type : String)
  | present (value : Value)
  | absent
  /-- A local that is not needed again. -/
  | whole (source : Local)
  | impossible
deriving DecidableEq, Repr, Inhabited

namespace Value

def chainText (child : Local) (through : List String) : String :=
  child.text ++ String.join (through.map fun name => s!".{name}_module()")

def text : Value → String
  | cloneOf source => source.text ++ ".clone()"
  | callOf factory => "(" ++ factory.text ++ ")()"
  | beanOf child through bean =>
    let chain := chainText child through
    s!"{chain}.{bean}()"
  | factoryOf child through bean =>
    let chain := chainText child through
    s!"{chain}.{bean}_provider()"
  | coerced value type => value.text ++ " as " ++ sharedOf type
  | present value => "Some(" ++ value.text ++ ")"
  | absent => "None"
  | whole source => source.text
  | impossible => "unreachable!()"

/-- The locals mentioned. -/
def locals : Value → List Local
  | cloneOf source => [source]
  | callOf factory => [factory]
  | beanOf child _ _ => [child]
  | factoryOf child _ _ => [child]
  | coerced value _ => value.locals
  | present value => value.locals
  | absent => []
  | whole source => [source]
  | impossible => []

end Value

end StaticInjection.Code
