import StaticInjection.Json.Basic

namespace StaticInjection.Json

/-! Reading structures out of JSON values. The number in these functions says how many levels of
arrays and objects may still be entered. -/

/-- The fields of a structure that a value gives, by name. -/
abbrev Record := List (String × Json)

/-- A structure is an object, or an array of its leading fields. An object may hold other fields as
well, but gives none of the known ones twice. -/
def asRecord (names : List String) : Json → Option Record
  | .array items => if items.length ≤ names.length then some (names.zip items) else none
  | .object fields => do
    let fields ← fields.mapM fun (name, value) => name.map fun known => (known, value)
    let known := fields.filter fun (name, _) => names.contains name
    if (known.map (·.1)).Nodup then some known else none
  | _ => none

/-- Enter a structure. -/
def enter (names : List String) : Nat → Json → Option (Record × Nat)
  | 0, _ => none
  | depth + 1, value => (asRecord names value).map fun record => (record, depth)

namespace Record

/-- A field that must be there. -/
def require (record : Record) (name : String) (read : Json → Option α) : Option α :=
  (record.lookup name).bind read

/-- A field with a default. -/
def get (record : Record) (name : String) (default : α) (read : Json → Option α) : Option α :=
  match record.lookup name with
  | none => some default
  | some value => read value

/-- A field that may be missing or null. -/
def getOption (record : Record) (name : String) (read : Json → Option α) : Option (Option α) :=
  match record.lookup name with
  | none => some none
  | some .null => some none
  | some value => (read value).map some

end Record

def asText : Json → Option String
  | .string content => content
  | _ => none

def asBool : Json → Option Bool
  | .bool value => some value
  | _ => none

def asNat (limit : Nat) : Json → Option Nat
  | .integer (.ofNat value) => if value < limit then some value else none
  | _ => none

def asUInt32 (value : Json) : Option UInt32 :=
  (asNat UInt32.size value).map UInt32.ofNat

def asList (read : Nat → Json → Option α) : Nat → Json → Option (List α)
  | depth + 1, .array items => items.mapM (read depth)
  | _, _ => none

def asTexts (depth : Nat) (value : Json) : Option (List String) :=
  asList (fun _ => asText) depth value

/-- A word of a vocabulary: a string, or an object that maps the word to null. -/
def asWord (ofWord? : String → Option α) : Nat → Json → Option α
  | _, .string (some word) => ofWord? word
  | _ + 1, .object [(some word, .null)] => ofWord? word
  | _, _ => none

end StaticInjection.Json
