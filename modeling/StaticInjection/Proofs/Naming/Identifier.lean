import Mathlib.Data.List.Infix
import StaticInjection.Code.Value
import StaticInjection.Proofs.Model.Fault
import StaticInjection.Proofs.Naming.Path

/-! # Identifiers in generated code

Names that are made of identifiers are spelled in letters, digits and underscores
again, and none of them is a keyword. Import and cell names have a letter in front, so
they are identifiers. The type of a module begins with what is left of its path without
dots and underscores, so it is an identifier unless that begins with a digit. -/

namespace StaticInjection.Naming

open Text

/-! ## Characters -/

/-- Small letters, digits and underscores, which the fragment of a path consists of. -/
def isFragmentChar (character : Char) : Bool :=
  character.isLower || character.isDigit || character == '_'

/-- There are so few letters and digits that what holds of all can be checked one by one. -/
theorem forall_isLetterOrDigit {holds : Char → Prop}
    (checked : ∀ code : Fin 128,
      isLetterOrDigit (Char.ofNat code) = true → holds (Char.ofNat code))
    {character : Char} (plain : isLetterOrDigit character = true) : holds character := by
  have atMost : character ≤ 'z' := by
    have ranges := plain
    unfold isLetterOrDigit Char.isAlphanum Char.isAlpha Char.isUpper Char.isLower
      Char.isDigit at ranges
    simp only [Bool.or_eq_true, Bool.and_eq_true, decide_eq_true_eq, beq_iff_eq] at ranges
    rcases ranges with ((⟨_, capital⟩ | ⟨_, small⟩) | ⟨_, digit⟩) | underscore
    · exact Char.le_trans capital (by decide)
    · exact small
    · exact Char.le_trans digit (by decide)
    · rw [underscore]
      decide
  have bound : character.toNat < 128 :=
    Nat.lt_of_le_of_lt (show character.toNat ≤ 'z'.toNat from atMost) (by decide)
  have found := checked ⟨character.toNat, bound⟩
  rw [Char.ofNat_toNat] at found
  exact found plain

theorem isLetterOrDigit_upperInitial {character : Char} (plain : isLetterOrDigit character = true) :
    isLetterOrDigit (upperInitial character) = true := by
  apply forall_isLetterOrDigit _ plain
  decide +kernel

theorem isLetter_upperInitial {character : Char} (plain : isLetterOrDigit character = true)
    (apart : character ≠ '_') : isLetter (upperInitial character) = !character.isDigit := by
  revert apart
  apply forall_isLetterOrDigit _ plain
  decide +kernel

theorem isFragmentChar_lowerInitial {character : Char} (plain : isLetterOrDigit character = true) :
    isFragmentChar (lowerInitial character) = true := by
  apply forall_isLetterOrDigit _ plain
  decide +kernel

theorem isLetterOrDigit_of_isFragmentChar {character : Char}
    (fragment : isFragmentChar character = true) : isLetterOrDigit character = true := by
  unfold isFragmentChar at fragment
  unfold isLetterOrDigit Char.isAlphanum Char.isAlpha
  simp only [Bool.or_eq_true] at fragment ⊢
  rcases fragment with (small | digit) | underscore
  · exact .inl (.inl (.inr small))
  · exact .inl (.inr digit)
  · exact .inr underscore

/-! ## Whole names -/

/-- A name with a part that no refused word has is judged by its characters alone. -/
theorem isIdentifier_iff_of_part {name : String} (part : List Char)
    (inside : part <:+: name.toList)
    (foreign : ∀ word ∈ "_" :: keywords, ¬ part <:+: word.toList) :
    isIdentifier name = true ↔
      (∀ first ∈ name.toList.head?, isLetter first = true) ∧
        ∀ character ∈ name.toList, isLetterOrDigit character = true := by
  have accepted : ∀ word ∈ "_" :: keywords, name ≠ word := by
    intro word listed equal
    exact foreign word listed (equal ▸ inside)
  have notUnderscore : name ≠ "_" := accepted "_" List.mem_cons_self
  have notKeyword : name ∉ keywords := fun listed =>
    accepted name (List.mem_cons_of_mem _ listed) rfl
  unfold isIdentifier
  cases spelled : name.toList with
  | nil =>
      rw [spelled, List.infix_nil] at inside
      rw [inside] at foreign
      exact absurd (List.nil_infix) (foreign "_" List.mem_cons_self)
  | cons first rest =>
      simp only [bne_iff_ne, ne_eq, notUnderscore, not_false_eq_true, Bool.and_true,
        List.contains_eq_mem, notKeyword, decide_false, Bool.not_false, Bool.and_eq_true,
        List.all_eq_true, and_true, List.head?_cons, Option.mem_def, Option.some.injEq,
        forall_eq', List.mem_cons, forall_eq_or_imp]
      constructor
      · rintro ⟨letter, plain⟩
        exact ⟨letter, isLetterOrDigit_of_isLetter letter, plain⟩
      · rintro ⟨letter, _, plain⟩
        exact ⟨letter, plain⟩

/-! ## Keys -/

/-- Spelled in letters, digits and underscores. -/
def IsPlain (text : String) : Prop :=
  ∀ character ∈ text.toList, isLetterOrDigit character = true

instance (text : String) : Decidable (IsPlain text) :=
  decidable_of_iff (text.toList.all isLetterOrDigit = true) List.all_eq_true

theorem IsPlain.of_isIdentifier {name : String} (valid : isIdentifier name = true) : IsPlain name :=
  fun _ => isLetterOrDigit_of_mem valid

theorem IsPlain.append {left right : String} (leftPlain : IsPlain left)
    (rightPlain : IsPlain right) : IsPlain (left ++ right) := by
  intro character listed
  rw [String.toList_append] at listed
  rcases List.mem_append.mp listed with inLeft | inRight
  · exact leftPlain character inLeft
  · exact rightPlain character inRight

/-- What keys of beans and sockets are spelled like. -/
structure IsKey (key : String) : Prop where
  plain : IsPlain key
  joined : ['_', '_'] <:+: key.toList

theorem IsPlain.isKey {left right : String} (leftPlain : IsPlain left)
    (rightPlain : IsPlain right) : IsKey (left ++ "__" ++ right) where
  plain := (leftPlain.append (show IsPlain "__" by decide)).append rightPlain
  joined := ⟨left.toList, right.toList, by simp⟩

/-- What stands in front of a key. -/
def isLead (lead : String) : Bool :=
  lead.toList.head?.any isLetter && lead.toList.all isLetterOrDigit

theorem IsKey.isIdentifier {key : String} (isKey : IsKey key) (lead : String)
    (leads : isLead lead = true) : isIdentifier (lead ++ key) = true := by
  simp only [isLead, Bool.and_eq_true, Option.any_eq_true, List.all_eq_true] at leads
  rcases leads with ⟨⟨first, isFirst, letter⟩, plainLead⟩
  have inside : ['_', '_'] <:+: (lead ++ key).toList := by
    rw [String.toList_append]
    exact isKey.joined.trans (List.suffix_append _ _).isInfix
  rw [isIdentifier_iff_of_part ['_', '_'] inside (by decide), String.toList_append,
    List.head?_append, isFirst]
  constructor
  · intro other isOther
    exact Option.some.inj isOther ▸ letter
  · intro character listed
    rcases List.mem_append.mp listed with inLead | inKey
    · exact plainLead character inLead
    · exact isKey.plain character inKey

/-! ## Paths -/

/-- The segments of a path are identifiers. -/
def IsPlainPath (path : String) : Prop :=
  ∀ segment ∈ segments path, isIdentifier (String.ofList segment) = true

instance (path : String) : Decidable (IsPlainPath path) :=
  inferInstanceAs
    (Decidable (∀ segment ∈ segments path, isIdentifier (String.ofList segment) = true))

theorem IsPlainPath.segment_plain {path : String} (plain : IsPlainPath path) {segment : List Char}
    (listed : segment ∈ segments path) {character : Char} (member : character ∈ segment) :
    isLetterOrDigit character = true := by
  apply isLetterOrDigit_of_mem (plain segment listed)
  rwa [String.toList_ofList]

theorem snakeFrom_fragment {previous : Option Char} {name : List Char}
    (plain : ∀ character ∈ name, isLetterOrDigit character = true) :
    ∀ character ∈ snakeFrom previous name, isFragmentChar character = true := by
  induction name generalizing previous with
  | nil =>
      intro character listed
      cases listed
  | cons head tail induction =>
      intro character listed
      rw [snakeFrom, List.mem_append, List.mem_cons] at listed
      rcases listed with inserted | isHead | later
      · split at inserted
        · rw [List.mem_singleton.mp inserted]
          decide
        · cases inserted
      · rw [isHead]
        exact isFragmentChar_lowerInitial (plain head List.mem_cons_self)
      · exact induction (fun other inTail => plain other (List.mem_cons_of_mem _ inTail))
          character later

theorem IsPlainPath.fragment {path : String} (plain : IsPlainPath path) :
    ∀ character ∈ (pathFragment path).toList, isFragmentChar character = true := by
  intro character listed
  by_cases underscore : character = '_'
  · rw [underscore]
    decide
  · rw [pathFragment, String.toList_ofList, joinSegments_eq,
      mem_intercalate (by simpa using underscore)] at listed
    rcases listed with ⟨part, isPart, member⟩
    rcases List.mem_map.mp isPart with ⟨segment, inPath, rfl⟩
    exact snakeFrom_fragment (fun other inSegment => plain.segment_plain inPath inSegment)
      character member

theorem IsPlainPath.pathFragment_plain {path : String} (plain : IsPlainPath path) :
    IsPlain (pathFragment path) :=
  fun character listed => isLetterOrDigit_of_isFragmentChar (plain.fragment character listed)

theorem IsPlainPath.isKey_beanKey {path bean : String} (plain : IsPlainPath path)
    (valid : isIdentifier bean = true) : IsKey (beanKey path bean) :=
  plain.pathFragment_plain.isKey (.of_isIdentifier valid)

theorem IsPlainPath.isKey_socketKey {path socket : String} {owner : Option String}
    (plain : IsPlainPath path) (ownerValid : ∀ name ∈ owner, isIdentifier name = true)
    (valid : isIdentifier socket = true) : IsKey (socketKey path owner socket) := by
  have ownerPlain : IsPlain (owner.getD "") := by
    cases owner with
    | none => exact nofun
    | some name => exact .of_isIdentifier (ownerValid name rfl)
  exact (plain.pathFragment_plain.isKey ownerPlain).plain.isKey (.of_isIdentifier valid)

/-! ## Types of modules -/

/-- What is left of a path without dots and underscores begins with a digit. -/
def opensWithDigit (path : String) : Bool :=
  (path.toList.find? fun character => character != '.' && character != '_').any Char.isDigit

theorem pascalFrom_plain {capital : Bool} {name : List Char}
    (plain : ∀ character ∈ name, isLetterOrDigit character = true) :
    ∀ character ∈ pascalFrom capital name, isLetterOrDigit character = true := by
  induction name generalizing capital with
  | nil =>
      intro character listed
      cases listed
  | cons head tail induction =>
      have later : ∀ character ∈ tail, isLetterOrDigit character = true :=
        fun other inTail => plain other (List.mem_cons_of_mem _ inTail)
      have headPlain := plain head List.mem_cons_self
      intro character listed
      rw [pascalFrom] at listed
      split at listed
      · exact induction later character listed
      · rcases List.mem_cons.mp listed with isHead | inTail
        · rw [isHead]
          split
          · exact isLetterOrDigit_upperInitial headPlain
          · exact headPlain
        · exact induction later character inTail

theorem head?_pascalCase (name : List Char) :
    (pascalCase name).head? = (name.find? (· != '_')).map upperInitial := by
  unfold pascalCase
  induction name with
  | nil => rfl
  | cons head tail induction =>
      rw [pascalFrom]
      split
      · rename_i underscore
        rw [underscore, induction]
        rfl
      · rename_i other
        simp [other]

theorem head?_flatMap_pascalCase (names : List (List Char)) :
    (names.flatMap pascalCase).head? = (names.flatten.find? (· != '_')).map upperInitial := by
  induction names with
  | nil => rfl
  | cons first rest induction =>
      rw [List.flatMap_cons, List.head?_append, List.flatten_cons, List.find?_append, induction,
        head?_pascalCase, Option.map_or]

theorem flatten_segments (path : String) :
    (segments path).flatten = path.toList.filter (· != '.') := by
  unfold segments
  induction path.toList with
  | nil => rfl
  | cons head tail induction =>
      rw [pieces]
      split
      · rename_i dot
        rw [List.flatten_cons, List.nil_append, induction, dot]
        rfl
      · rename_i other
        rw [List.filter_cons_of_pos (by simpa using other), ← induction]
        split
        · rename_i none
          exact absurd none (pieces_ne_nil '.' tail)
        · rename_i first rest spelled
          rw [spelled]
          rfl

theorem find?_flatten_segments (path : String) :
    (segments path).flatten.find? (· != '_') =
      path.toList.find? fun character => character != '.' && character != '_' := by
  rw [flatten_segments, List.find?_filter]
  congr 1
  funext character
  rw [Bool.decide_and, Bool.decide_eq_true, Bool.decide_eq_true]

section

variable {path : String} (plain : IsPlainPath path)

include plain

theorem IsPlainPath.flatMap_pascalCase_plain :
    ∀ character ∈ (segments path).flatMap pascalCase, isLetterOrDigit character = true := by
  intro character listed
  rcases List.mem_flatMap.mp listed with ⟨segment, inPath, member⟩
  exact pascalFrom_plain (fun other inSegment => plain.segment_plain inPath inSegment)
    character member

/-- What comes before the last word of a type begins with a letter, unless its path
opens with a digit. -/
theorem IsPlainPath.pascalCase_opens :
    (∀ first ∈ ((segments path).flatMap pascalCase).head?, isLetter first = true) ↔
      opensWithDigit path = false := by
  rw [head?_flatMap_pascalCase, find?_flatten_segments, opensWithDigit]
  cases found : path.toList.find? fun character => character != '.' && character != '_' with
  | none => simp
  | some first =>
      have accepted := List.find?_some found
      simp only [Bool.and_eq_true, bne_iff_ne] at accepted
      have listed : first ∈ (segments path).flatten := by
        rw [flatten_segments]
        simpa using ⟨List.mem_of_find?_eq_some found, accepted.1⟩
      rcases List.mem_flatten.mp listed with ⟨segment, inPath, member⟩
      have letter := isLetter_upperInitial (plain.segment_plain inPath member) accepted.2
      simp [letter]

/-- A type whose name ends in some words that no keyword has. -/
theorem IsPlainPath.isIdentifier_type {name : String} (word : String)
    (spelled : name.toList = (segments path).flatMap pascalCase ++ word.toList)
    (wordPlain : IsPlain word) (letter : word.toList.head?.any isLetter = true)
    (foreign : ∀ refused ∈ "_" :: keywords, ¬ word.toList <:+: refused.toList) :
    isIdentifier name = true ↔ opensWithDigit path = false := by
  have inside : word.toList <:+: name.toList := by
    rw [spelled]
    exact (List.suffix_append _ _).isInfix
  rcases (Option.any_eq_true _ _).mp letter with ⟨wordFirst, isWordFirst, wordLetter⟩
  rw [isIdentifier_iff_of_part word.toList inside foreign, ← plain.pascalCase_opens, spelled,
    List.head?_append, isWordFirst]
  constructor
  · rintro ⟨opens, _⟩ first isFirst
    apply opens first
    rw [isFirst]
    rfl
  · intro opens
    constructor
    · intro first isFirst
      cases found : ((segments path).flatMap pascalCase).head? with
      | none =>
          rw [found] at isFirst
          exact Option.some.inj isFirst ▸ wordLetter
      | some other =>
          rw [found] at isFirst opens
          exact opens first isFirst
    · intro character listed
      rcases List.mem_append.mp listed with inPath | inWord
      · exact plain.flatMap_pascalCase_plain character inPath
      · exact wordPlain character inWord

theorem IsPlainPath.isIdentifier_moduleType :
    isIdentifier (moduleType path) = true ↔ opensWithDigit path = false :=
  plain.isIdentifier_type "Module" String.toList_ofList (by decide) (by decide)
    (by decide)

theorem IsPlainPath.isIdentifier_inputsType :
    isIdentifier (inputsType path) = true ↔ opensWithDigit path = false := by
  apply plain.isIdentifier_type "ModuleSockets" _ (by decide) (by decide) (by decide)
  simp [inputsType, moduleType]

end

/-! ## All names of a path -/

/-- Whatever is generated from a path of identifiers is an identifier again, but for the
types of a path that opens with a digit behind its underscores. -/
theorem generated_identifiers {path : String} (plain : IsPlainPath path) :
    (isIdentifier (moduleType path) = true ↔ opensWithDigit path = false) ∧
    (isIdentifier (inputsType path) = true ↔ opensWithDigit path = false) ∧
    (∀ bean, isIdentifier bean = true →
      isIdentifier ("import__" ++ beanKey path bean) = true ∧
      isIdentifier (Code.Local.text ⟨.imported, beanKey path bean⟩) = true) ∧
    (∀ owner : Option String, (∀ name ∈ owner, isIdentifier name = true) →
      ∀ socket, isIdentifier socket = true →
        isIdentifier ("deferred__" ++ socketKey path owner socket) = true ∧
        isIdentifier (Code.Local.text ⟨.cell, socketKey path owner socket⟩) = true) ∧
    ∀ character ∈ (pathFragment path).toList,
      character.isLower = true ∨ character.isDigit = true ∨ character = '_' := by
  refine ⟨plain.isIdentifier_moduleType, plain.isIdentifier_inputsType, ?_, ?_, ?_⟩
  · intro bean valid
    have isKey := plain.isKey_beanKey valid
    exact ⟨isKey.isIdentifier "import__" (by decide), isKey.isIdentifier "i_" (by decide)⟩
  · intro owner ownerValid socket valid
    have isKey := plain.isKey_socketKey ownerValid valid
    exact ⟨isKey.isIdentifier "deferred__" (by decide), isKey.isIdentifier "d_" (by decide)⟩
  · intro character listed
    simpa [isFragmentChar, or_assoc] using plain.fragment character listed

/-- Names with capitals, underscores and digits, and the type that they make. -/
theorem generated_identifiers_nested :
    let path := "_app.dataStore__2.__"
    IsPlainPath path ∧ opensWithDigit path = false ∧
      isIdentifier (moduleType path) = true ∧
      isIdentifier ("import__" ++ beanKey path "Self_") = true ∧
      isIdentifier (Code.Local.text ⟨.cell, socketKey path (some "_9") "in_"⟩) = true := by
  intro path
  have plain : IsPlainPath path := by decide +kernel
  have opening : opensWithDigit path = false := by decide +kernel
  rcases generated_identifiers plain with ⟨types, _, imports, cells, _⟩
  have ownerValid : ∀ name ∈ some "_9", isIdentifier name = true := by decide +kernel
  exact ⟨plain, opening, types.mpr opening, (imports "Self_" (by decide +kernel)).1,
    (cells (some "_9") ownerValid "in_" (by decide +kernel)).2⟩

/-- An underscore makes an identifier of a digit, but is dropped from the type. -/
theorem underscored_digit_type_refused :
    ¬ ∀ path, IsPlainPath path → isIdentifier (moduleType path) = true := by
  intro claimed
  have plain : IsPlainPath "_1" := by decide +kernel
  have refused : isIdentifier (moduleType "_1") = false := by decide +kernel
  exact absurd (claimed "_1" plain) (by simp [refused])

end StaticInjection.Naming
