namespace StaticInjection

/-! JSON values. Objects keep their fields in order, and repeated keys as well. -/

inductive Json where
  | null
  | bool (value : Bool)
  /-- A number without fraction and exponent; minus zero is not among them. -/
  | integer (value : Int)
  /-- Any other number, as it is written. -/
  | decimal (literal : List Char)
  /-- A string literal has no content when it names half of a surrogate pair. -/
  | string (content : Option String)
  | array (items : List Json)
  | object (fields : List (Option String × Json))
deriving Inhabited

namespace Json

def text (content : String) : Json :=
  .string (some content)

def number (value : Nat) : Json :=
  .integer value

def texts (contents : List String) : Json :=
  .array (contents.map text)

def record (fields : List (String × Json)) : Json :=
  .object (fields.map fun (name, value) => (some name, value))

/-- A field that is left out when there is no value. -/
def optionalField (name : String) (value : Option Json) : List (String × Json) :=
  match value with
  | none => []
  | some present => [(name, present)]

/-- A field that is left out when the list is empty. -/
def listField (name : String) (items : List Json) : List (String × Json) :=
  if items.isEmpty then [] else [(name, .array items)]

end Json

end StaticInjection
