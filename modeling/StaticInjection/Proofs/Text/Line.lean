import StaticInjection.Proofs.Naming.Path
import StaticInjection.Text.Digits
import StaticInjection.TypeName

/-! # Texts on one line

A text that is put together from others has a line break where one of them has. Numbers
and the names of types never have one, and a name that is generated for a path has one
only with the path. A text falls into its lines at every line break, so texts that are
written one after the other, each with a line break behind it, keep their lines. -/

namespace StaticInjection

namespace Text

def IsLine (text : String) : Prop :=
  '\n' ∉ text.toList

instance (text : String) : Decidable (IsLine text) :=
  inferInstanceAs (Decidable (_ ∉ _))

def AreLines (texts : List String) : Prop :=
  ∀ text ∈ texts, IsLine text

instance (texts : List String) : Decidable (AreLines texts) :=
  inferInstanceAs (Decidable (∀ text ∈ texts, IsLine text))

@[simp] theorem areLines_nil : AreLines [] := by
  simp [AreLines]

@[simp] theorem areLines_cons (head : String) (tail : List String) :
    AreLines (head :: tail) ↔ IsLine head ∧ AreLines tail :=
  List.forall_mem_cons

@[simp] theorem areLines_append (left right : List String) :
    AreLines (left ++ right) ↔ AreLines left ∧ AreLines right :=
  List.forall_mem_append

theorem areLines_map {texts : α → String} {items : List α} :
    AreLines (items.map texts) ↔ ∀ item ∈ items, IsLine (texts item) :=
  List.forall_mem_map

theorem areLines_flatMap {texts : α → List String} {items : List α} :
    AreLines (items.flatMap texts) ↔ ∀ item ∈ items, AreLines (texts item) :=
  List.forall_mem_flatMap

theorem areLines_toList {text : Option String} :
    AreLines text.toList ↔ ∀ given ∈ text, IsLine given := by
  simp [AreLines]

/-! ## Texts put together -/

@[simp] theorem isLine_toString (text : String) : IsLine (toString text) ↔ IsLine text := .rfl

@[simp] theorem isLine_append (left right : String) :
    IsLine (left ++ right) ↔ IsLine left ∧ IsLine right := by
  simp [IsLine]

theorem isLine_intercalate {separator : String} (plain : IsLine separator)
    (parts : List String) : IsLine (separator.intercalate parts) ↔ AreLines parts := by
  simp only [AreLines, IsLine, String.toList_intercalate, mem_intercalate plain]
  simp

@[simp] theorem isLine_listed (parts : List String) :
    IsLine (", ".intercalate parts) ↔ AreLines parts :=
  isLine_intercalate (by decide) parts

/-! ## Numbers -/

theorem newline_not_mem_toDigits (base number : Nat) : '\n' ∉ Nat.toDigits base number := by
  have core : ∀ fuel number digits, '\n' ∉ digits →
      '\n' ∉ Nat.toDigitsCore base fuel number digits := by
    intro fuel
    induction fuel with
    | zero => exact fun _ _ clear => clear
    | succ fuel induction =>
        intro number digits clear
        have other : '\n' ∉ (number % base).digitChar :: digits := by
          simp [clear, (Nat.digitChar_ne '\n' (by decide)).symm]
        rw [Nat.toDigitsCore]
        split
        · exact other
        · exact induction _ _ other
  exact core _ _ _ List.not_mem_nil

@[simp] theorem isLine_repr (number : Nat) : IsLine (Nat.repr number) := by
  rw [IsLine, Nat.toList_repr]
  exact newline_not_mem_toDigits 10 number

theorem newline_not_mem_padDigits (base width number : Nat) :
    '\n' ∉ padDigits base width number := by
  simp [padDigits, newline_not_mem_toDigits]

/-! ## Blanks -/

theorem blank_mem_spaced {found : List (List Char)} (proper : ∀ word ∈ found, IsWord word)
    {character : Char} (member : character ∈ spaced found) (blank : isBlank character = true) :
    character = ' ' := by
  have inWord : ∀ word ∈ found, character ∉ word := by
    intro word listed inside
    rw [(proper word listed).2 character inside] at blank
    cases blank
  fun_induction spaced found with
  | case1 => cases member
  | case2 word => exact absurd member (inWord word List.mem_cons_self)
  | case3 word next rest induction =>
      rcases List.mem_append.mp member with first | later
      · exact absurd first (inWord word List.mem_cons_self)
      · rcases List.mem_cons.mp later with space | later
        · exact space
        · exact induction (fun other listed => proper other (List.mem_cons_of_mem _ listed)) later
            fun other listed => inWord other (List.mem_cons_of_mem _ listed)

/-- The only blanks of a squeezed text are spaces. -/
theorem blank_mem_squeeze {text : List Char} {character : Char}
    (member : character ∈ squeeze text) (blank : isBlank character = true) : character = ' ' :=
  blank_mem_spaced (isWord_of_mem_wordsFrom (by simp)) member blank

/-! ## Lines -/

theorem pieces_append_separator (separator : Char) (first rest : List Char) :
    pieces separator (first ++ separator :: rest) =
      pieces separator first ++ pieces separator rest := by
  induction first with
  | nil => simp [pieces]
  | cons head tail induction =>
      rw [List.cons_append, pieces, pieces, induction]
      split
      · rfl
      · cases spelled : pieces separator tail with
        | nil => exact absurd spelled (pieces_ne_nil separator tail)
        | cons piece more => rfl

theorem pieces_eq_singleton_iff {separator : Char} {text : List Char} :
    pieces separator text = [text] ↔ separator ∉ text := by
  constructor
  · intro whole
    exact not_mem_of_mem_pieces (whole ▸ List.mem_singleton_self text)
  · intro clear
    rw [pieces_eq_splitOn, List.splitOn_eq_singleton clear]

/-- Texts with a line break behind each of them, and nothing behind the last line break. -/
theorem pieces_ended_lines (texts : List String) :
    pieces '\n' (String.join (texts.map (· ++ "\n"))).toList =
      texts.flatMap (fun text => pieces '\n' text.toList) ++ [[]] := by
  induction texts with
  | nil => rfl
  | cons text rest induction =>
      rw [List.map_cons, String.join_cons, String.toList_append, String.toList_append,
        List.append_assoc, List.flatMap_cons, List.append_assoc, ← induction]
      exact pieces_append_separator '\n' text.toList _

/-- Texts are the lines that they are written on exactly when each of them is a line. -/
theorem flatMap_pieces_eq_iff (texts : List String) :
    texts.flatMap (fun text => pieces '\n' text.toList) = texts.map String.toList ↔
      AreLines texts := by
  constructor
  · intro same text listed
    have inside : text.toList ∈ texts.map String.toList := List.mem_map_of_mem listed
    rw [← same] at inside
    obtain ⟨_, _, isPiece⟩ := List.mem_flatMap.mp inside
    exact not_mem_of_mem_pieces isPiece
  · intro clear
    have each : ∀ text ∈ texts, pieces '\n' text.toList = [text.toList] :=
      fun text listed => pieces_eq_singleton_iff.mpr (clear text listed)
    rw [List.flatMap_def, List.map_congr_left each, ← List.flatMap_def, List.map_eq_flatMap]

end Text

@[simp] theorem TypeName.isLine_text (type : TypeName) : Text.IsLine type.text := by
  intro broken
  rw [← type.squeezed] at broken
  exact absurd (Text.blank_mem_squeeze broken (by decide)) (by decide)

/-! ## Generated names -/

namespace Naming

open Text

theorem isLine_pathFragment {path : String} (line : IsLine path) : IsLine (pathFragment path) :=
  (sign_mem_pathFragment (by decide) (by decide) path).not.mpr line

theorem isLine_sourceFile {path : String} (line : IsLine path) : IsLine (sourceFile path) := by
  simp +decide [sourceFile, isLine_pathFragment line]

theorem isLine_moduleType {path : String} (line : IsLine path) : IsLine (moduleType path) := by
  have clear : ∀ segment ∈ segments path, '\n' ∉ pascalCase segment := by
    intro segment listed inside
    rw [pascalCase, sign_mem_pascalFrom (by decide)] at inside
    exact line ((exists_segment_iff (by decide)).mp ⟨segment, listed, inside⟩)
  simpa [IsLine, moduleType] using clear

theorem isLine_beanKey {path bean : String} (pathLine : IsLine path) (beanLine : IsLine bean) :
    IsLine (beanKey path bean) := by
  simp +decide [beanKey, isLine_pathFragment pathLine, beanLine]

theorem isLine_socketKey {path socket : String} {owner : Option String} (pathLine : IsLine path)
    (ownerLine : ∀ name ∈ owner, IsLine name) (socketLine : IsLine socket) :
    IsLine (socketKey path owner socket) := by
  have owned : IsLine (owner.getD "") := by
    cases owner with
    | none => decide
    | some name => exact ownerLine name rfl
  simp +decide [socketKey, isLine_pathFragment pathLine, owned, socketLine]

end Naming

end StaticInjection
