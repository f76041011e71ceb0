import StaticInjection.Json.Basic

namespace StaticInjection

/-! Values of a TOML text. Dates and times are not among them. -/

namespace Toml

/-- How a table came to be, which says in what ways it may still grow. -/
inductive TableOrigin where
  /-- It stands on the way to a table with a header. -/
  | implied
  | header
  /-- It stands on the way of a dotted key. -/
  | dotted
  /-- It is written between braces and is complete. -/
  | braces
deriving DecidableEq, Repr

end Toml

inductive Toml where
  | integer (value : Int)
  | decimal (literal : List Char)
  | bool (value : Bool)
  | string (content : String)
  | array (items : List Toml)
  | table (origin : Toml.TableOrigin) (entries : List (String × Toml))
  /-- Tables that share a header, which add to a list one by one. -/
  | tables (elements : List (List (String × Toml)))
deriving Inhabited

namespace Toml

/-- The entries of a table, without repeated keys. -/
abbrev Entries := List (String × Toml)

mutual

def toJson : Toml → Json
  | .integer value => .integer value
  | .decimal literal => .decimal literal
  | .bool value => .bool value
  | .string content => .text content
  | .array items => .array (itemsJson items)
  | .table _ entries => .object (entriesJson entries)
  | .tables elements => .array (elementsJson elements)

def itemsJson : List Toml → List Json
  | [] => []
  | item :: rest => item.toJson :: itemsJson rest

def entriesJson : List (String × Toml) → List (Option String × Json)
  | [] => []
  | (key, value) :: rest => (some key, value.toJson) :: entriesJson rest

def elementsJson : List (List (String × Toml)) → List Json
  | [] => []
  | entries :: rest => .object (entriesJson entries) :: elementsJson rest

end

end Toml

end StaticInjection
