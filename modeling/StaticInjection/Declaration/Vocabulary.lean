import StaticInjection.Text.Case

namespace StaticInjection

/-! The closed vocabularies of a declaration. -/

inductive Lifetime where
  /-- Built once, when its module starts. -/
  | singleton
  /-- Built anew for every request. -/
  | perRequest
deriving DecidableEq, Repr, Inhabited

inductive Visibility where
  | isPublic
  | isPrivate
deriving DecidableEq, Repr

instance : Inhabited Visibility := ⟨.isPrivate⟩

/-- How many values a socket takes. -/
inductive Multiplicity where
  | single
  | optional
  | collection
deriving DecidableEq, Repr, Inhabited

/-- How many values a provider is sure to give. -/
inductive Cardinality where
  | one
  | maybeOne
  | many
deriving DecidableEq, Repr, Inhabited

/-- The filter of a socket: without one every candidate passes, also one without a qualifier. -/
abbrev Qualifier := String

def Qualifier.admits (filter candidate : Option Qualifier) : Bool :=
  match filter with
  | none => true
  | some expected => candidate == some expected

inductive Vocabulary where
  | lifetime
  | visibility
  | multiplicity
deriving DecidableEq, Repr

/-- A word that the vocabulary lacks. -/
structure UnknownWord where
  vocabulary : Vocabulary
  word : String
deriving DecidableEq, Repr

def UnknownWord.message (unknown : UnknownWord) : String :=
  let subject := match unknown.vocabulary with
    | .lifetime => "未知的生命周期"
    | .visibility => "未知的可见性"
    | .multiplicity => "未知的插槽多重性"
  s!"{subject}: {unknown.word}"

namespace Lifetime

def word : Lifetime → String
  | singleton => "singleton"
  | perRequest => "per_request"

def ofWord? : String → Option Lifetime
  | "singleton" => some singleton
  | "per_request" => some perRequest
  | _ => none

/-- Letter case does not count, and the second lifetime has three spellings. -/
def parse (text : String) : Except UnknownWord Lifetime :=
  match Text.lowercase text with
  | "singleton" => .ok singleton
  | "per_request" | "per-request" | "prototype" => .ok perRequest
  | _ => .error ⟨.lifetime, text⟩

@[simp] theorem ofWord?_word (lifetime : Lifetime) : ofWord? lifetime.word = some lifetime := by
  cases lifetime <;> rfl

end Lifetime

namespace Visibility

def word : Visibility → String
  | isPublic => "public"
  | isPrivate => "private"

def ofWord? : String → Option Visibility
  | "public" => some isPublic
  | "private" => some isPrivate
  | _ => none

def parse (text : String) : Except UnknownWord Visibility :=
  match ofWord? (Text.lowercase text) with
  | some visibility => .ok visibility
  | none => .error ⟨.visibility, text⟩

@[simp] theorem ofWord?_word (visibility : Visibility) :
    ofWord? visibility.word = some visibility := by
  cases visibility <;> rfl

end Visibility

namespace Multiplicity

def word : Multiplicity → String
  | single => "single"
  | optional => "optional"
  | collection => "collection"

def ofWord? : String → Option Multiplicity
  | "single" => some single
  | "optional" => some optional
  | "collection" => some collection
  | _ => none

def parse (text : String) : Except UnknownWord Multiplicity :=
  match Text.lowercase text with
  | "single" => .ok single
  | "optional" => .ok optional
  | "collection" | "multiple" => .ok collection
  | _ => .error ⟨.multiplicity, text⟩

@[simp] theorem ofWord?_word (multiplicity : Multiplicity) :
    ofWord? multiplicity.word = some multiplicity := by
  cases multiplicity <;> rfl

/-- What a module socket gives when it stands in as a provider. -/
def cardinality : Multiplicity → Cardinality
  | single => .one
  | optional => .maybeOne
  | collection => .many

def accepts : Multiplicity → Cardinality → Bool
  | single, offered => offered == .one
  | optional, offered => offered != .many
  | collection, _ => true

end Multiplicity

namespace Cardinality

def word : Cardinality → String
  | one => "one"
  | maybeOne => "maybe_one"
  | many => "many"

end Cardinality

end StaticInjection
