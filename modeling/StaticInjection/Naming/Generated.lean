import StaticInjection.Text.Case
import StaticInjection.Text.Split

namespace StaticInjection.Naming

/-! Names of generated types, files and fields, made from dotted module paths and from the names
of beans and sockets. -/

open Text

/-- Whether an underscore goes before a capital: it follows a small letter or is followed by one,
and no underscore stands there already. -/
def startsWord (previous : Option Char) (character : Char) (next : Option Char) : Bool :=
  match previous with
  | none => false
  | some left => isUpper character && (isLower left || next.any isLower) && left != '_'

def snakeFrom (previous : Option Char) : List Char → List Char
  | [] => []
  | head :: tail =>
    (if startsWord previous head tail.head? then ['_'] else []) ++
      lowerInitial head :: snakeFrom (some head) tail

def snakeCase (name : List Char) : List Char :=
  snakeFrom none name

/-- Underscores disappear; the character after one, and the first, become capitals. -/
def pascalFrom (capital : Bool) : List Char → List Char
  | [] => []
  | head :: tail =>
    if head = '_' then pascalFrom true tail
    else (if capital then upperInitial head else head) :: pascalFrom false tail

def pascalCase (name : List Char) : List Char :=
  pascalFrom true name

/-- The names along a dotted module path. -/
def segments (path : String) : List (List Char) :=
  pieces '.' path.toList

/-- The type generated for a module. -/
def moduleType (path : String) : String :=
  String.ofList ((segments path).flatMap pascalCase ++ "Module".toList)

/-- The type that holds the inputs of a module. -/
def inputsType (path : String) : String :=
  moduleType path ++ "Sockets"

def joinSegments : List (List Char) → List Char
  | [] => []
  | [segment] => segment
  | segment :: next :: rest => segment ++ '_' :: '_' :: joinSegments (next :: rest)

/-- A module path in a form that can stand inside an identifier. -/
def pathFragment (path : String) : String :=
  String.ofList (joinSegments ((segments path).map snakeCase))

def sourceFile (path : String) : String :=
  pathFragment path ++ ".rs"

def descriptorFile (path : String) : String :=
  pathFragment path ++ ".module.json"

/-- What tells a bean from all others in the names of imports. -/
def beanKey (path bean : String) : String :=
  pathFragment path ++ "__" ++ bean

/-- What tells a socket from all others in the names of deferred cells. The owner of a module socket
is left empty. -/
def socketKey (path : String) (owner : Option String) (socket : String) : String :=
  pathFragment path ++ "__" ++ owner.getD "" ++ "__" ++ socket

example : String.ofList (snakeCase "HTTPClient".toList) = "http_client" := by decide +kernel
example : moduleType "app.my_db" = "AppMyDbModule" := by decide +kernel
example : socketKey "app.Web" none "x" = "app__web____x" := by decide +kernel

end StaticInjection.Naming
