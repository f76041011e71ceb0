import Mathlib.Logic.Basic
import StaticInjection.Naming.Generated

/-! # Paths and names of files

A text that is put together with a separator falls apart into its parts again as long
as none of them has the separator. The name of a file is made of the segments of a
path, which only change their capitals: it has a slash where the path has one. -/

namespace StaticInjection

namespace Text

/-! ## Pieces -/

theorem pieces_eq_splitOn (separator : Char) (text : List Char) :
    pieces separator text = text.splitOn separator := by
  induction text with
  | nil => rfl
  | cons head tail induction =>
      rw [List.splitOn_cons_eq_if_modifyHead, ← induction, pieces]
      simp only [beq_iff_eq]
      split
      · rfl
      · cases spelled : pieces separator tail with
        | nil => exact absurd spelled (pieces_ne_nil separator tail)
        | cons piece rest => rfl

theorem intercalate_pieces (separator : Char) (text : List Char) :
    [separator].intercalate (pieces separator text) = text := by
  rw [pieces_eq_splitOn, List.intercalate_splitOn]

theorem not_mem_of_mem_pieces {separator : Char} {text piece : List Char}
    (listed : piece ∈ pieces separator text) : separator ∉ piece := by
  induction text generalizing piece with
  | nil => exact List.mem_singleton.mp listed ▸ List.not_mem_nil
  | cons head tail induction =>
      unfold pieces at listed
      split at listed
      · rcases List.mem_cons.mp listed with rfl | later
        · exact List.not_mem_nil
        · exact induction later
      · rename_i other
        split at listed
        · rw [List.mem_singleton.mp listed, List.mem_singleton]
          exact Ne.symm other
        · rename_i first rest spelled
          rw [spelled] at induction
          rcases List.mem_cons.mp listed with rfl | later
          · exact List.not_mem_cons_of_ne_of_not_mem (Ne.symm other)
              (induction List.mem_cons_self)
          · exact induction (List.mem_cons_of_mem _ later)

theorem pieces_intercalate_iff (separator : Char) {parts : List (List Char)}
    (nonempty : parts ≠ []) :
    pieces separator ([separator].intercalate parts) = parts ↔
      ∀ part ∈ parts, separator ∉ part := by
  constructor
  · intro same part listed
    rw [← same] at listed
    exact not_mem_of_mem_pieces listed
  · intro clear
    rw [pieces_eq_splitOn, List.splitOn_intercalate separator clear nonempty]

/-- What is not of the separator comes from one of the parts. -/
theorem mem_intercalate {separator : List Char} {character : Char} (other : character ∉ separator)
    (parts : List (List Char)) :
    character ∈ separator.intercalate parts ↔ ∃ part ∈ parts, character ∈ part := by
  induction parts with
  | nil => simp
  | cons head tail induction =>
      cases tail with
      | nil => simp
      | cons next rest =>
          rw [List.intercalate_cons_cons, List.mem_append, List.mem_append, induction]
          simp [other]

/-! ## Signs -/

/-- A sign comes before the letters. No change of letter case makes one, or makes anything of
one. -/
def IsSign (mark : Char) : Prop :=
  0 < mark.toNat ∧ mark.toNat < 'A'.toNat

instance (mark : Char) : Decidable (IsSign mark) :=
  inferInstanceAs (Decidable (_ ∧ _))

theorem IsSign.ne {mark other : Char} (sign : IsSign mark) (letter : ¬ IsSign other) :
    mark ≠ other := by
  rintro rfl
  exact letter sign

theorem ofNat_ne_sign {mark : Char} (sign : IsSign mark) {code : Nat} (letter : 'A'.toNat ≤ code) :
    Char.ofNat code ≠ mark := by
  rintro rfl
  rcases sign with ⟨positive, before⟩
  by_cases valid : code.isValidChar
  · rw [Char.ofNat, dif_pos valid] at before
    exact absurd before (Nat.not_lt.mpr letter)
  · rw [Char.ofNat, dif_neg valid] at positive
    cases positive

theorem shift_ne_sign {shifts : List (CodeRange × Nat)}
    (letters : ∀ entry ∈ shifts, 'A'.toNat ≤ entry.2) {mark character : Char} (sign : IsSign mark)
    (other : character ≠ mark) : CodeRange.shift shifts character ≠ mark := by
  unfold CodeRange.shift
  split
  · exact other
  · rename_i range target found
    have letter : 'A'.toNat ≤ target := letters _ (List.mem_of_find?_eq_some found)
    exact ofNat_ne_sign sign (Nat.le_add_right_of_le letter)

/-- Below 128 a character stays as it is, or is a letter and becomes one. -/
theorem ascii_case {character : Char} (small : character.toNat < 128) :
    (character.toLower = character ∧ character.toUpper = character) ∨
      (¬ IsSign character ∧ ¬ IsSign character.toLower ∧ ¬ IsSign character.toUpper) := by
  have each : ∀ code : Fin 128, let character := Char.ofNat code
      (character.toLower = character ∧ character.toUpper = character) ∨
        (¬ IsSign character ∧ ¬ IsSign character.toLower ∧ ¬ IsSign character.toUpper) := by
    decide
  simpa using each ⟨character.toNat, small⟩

theorem ne_sign_of_big {mark character : Char} (sign : IsSign mark)
    (big : ¬ character.toNat < 128) : character ≠ mark := by
  rintro rfl
  exact big (Nat.lt_trans sign.2 (by decide))

theorem lowerInitial_eq_sign {mark character : Char} (sign : IsSign mark) :
    lowerInitial character = mark ↔ character = mark := by
  unfold lowerInitial lower
  split
  · rename_i small
    rw [List.headD_cons]
    rcases ascii_case small with ⟨same, _⟩ | ⟨own, lowered, _⟩
    · rw [same]
    · exact iff_of_false (sign.ne lowered).symm (sign.ne own).symm
  · rename_i big
    have other := ne_sign_of_big sign big
    refine iff_of_false ?_ other
    split
    · rw [List.headD_cons]
      exact (sign.ne (by decide)).symm
    · exact shift_ne_sign (by decide +kernel) sign other

theorem upperInitial_eq_sign {mark character : Char} (sign : IsSign mark) :
    upperInitial character = mark ↔ character = mark := by
  unfold upperInitial
  split
  · rename_i small
    rcases ascii_case small with ⟨_, same⟩ | ⟨own, _, raised⟩
    · rw [same]
    · exact iff_of_false (sign.ne raised).symm (sign.ne own).symm
  · rename_i big
    have other := ne_sign_of_big sign big
    exact iff_of_false (shift_ne_sign (by decide +kernel) sign other) other

end Text

namespace Naming

/-! ## Segments -/

theorem segments_intercalate_iff {names : List String} (nonempty : names ≠ []) :
    segments (".".intercalate names) = names.map String.toList ↔
      ∀ name ∈ names, '.' ∉ name.toList := by
  have parts : names.map String.toList ≠ [] := by simpa using nonempty
  have pieces := Text.pieces_intercalate_iff '.' parts
  rw [segments, String.toList_intercalate]
  simpa using pieces

theorem exists_segment_iff {path : String} {character : Char} (other : character ≠ '.') :
    (∃ segment ∈ segments path, character ∈ segment) ↔ character ∈ path.toList := by
  have apart : character ∉ ['.'] := by simpa using other
  rw [segments, ← Text.mem_intercalate apart, Text.intercalate_pieces]

/-! ## Files -/

theorem joinSegments_eq (names : List (List Char)) :
    joinSegments names = ['_', '_'].intercalate names := by
  fun_induction joinSegments names with
  | case1 => rfl
  | case2 segment => simp
  | case3 segment next rest induction =>
      rw [List.intercalate_cons_cons, ← induction, List.append_assoc]
      rfl

theorem sign_mem_snakeFrom {mark : Char} (sign : Text.IsSign mark) (previous : Option Char)
    (name : List Char) : mark ∈ snakeFrom previous name ↔ mark ∈ name := by
  induction name generalizing previous with
  | nil => rfl
  | cons head tail induction =>
      have inserted : mark ∉ if startsWord previous head tail.head? then ['_'] else [] := by
        split
        · rw [List.mem_singleton]
          exact sign.ne (by decide)
        · exact List.not_mem_nil
      rw [snakeFrom, List.mem_append, List.mem_cons, List.mem_cons, induction, eq_comm (a := mark),
        Text.lowerInitial_eq_sign sign, eq_comm (a := head)]
      simp only [inserted, false_or]

theorem sign_mem_pathFragment {mark : Char} (sign : Text.IsSign mark) (other : mark ≠ '.')
    (path : String) : mark ∈ (pathFragment path).toList ↔ mark ∈ path.toList := by
  have apart : mark ∉ ['_', '_'] := by simpa using sign.ne (by decide)
  rw [pathFragment, String.toList_ofList, joinSegments_eq, Text.mem_intercalate apart,
    ← exists_segment_iff other]
  simp only [snakeCase, List.mem_map, exists_exists_and_eq_and, sign_mem_snakeFrom sign]

theorem slash_mem_pathFragment (path : String) :
    '/' ∈ (pathFragment path).toList ↔ '/' ∈ path.toList :=
  sign_mem_pathFragment (by decide) (by decide) path

theorem slash_mem_sourceFile (path : String) :
    '/' ∈ (sourceFile path).toList ↔ '/' ∈ path.toList := by
  simp [sourceFile, slash_mem_pathFragment]

theorem slash_mem_descriptorFile (path : String) :
    '/' ∈ (descriptorFile path).toList ↔ '/' ∈ path.toList := by
  simp [descriptorFile, slash_mem_pathFragment]

theorem descriptorFile_eq_iff {left right : String} :
    descriptorFile left = descriptorFile right ↔ sourceFile left = sourceFile right := by
  simp only [descriptorFile, sourceFile, String.append_left_inj]

theorem sourceFile_ne_descriptorFile (left right : String) :
    sourceFile left ≠ descriptorFile right := by
  intro same
  have ends := congrArg (fun name : String => name.toList.getLast?) same
  simp [sourceFile, descriptorFile] at ends

/-! ## Types -/

theorem sign_mem_pascalFrom {mark : Char} (sign : Text.IsSign mark) (capital : Bool)
    (name : List Char) : mark ∈ pascalFrom capital name ↔ mark ∈ name := by
  induction name generalizing capital with
  | nil => rfl
  | cons head tail induction =>
      rw [pascalFrom, List.mem_cons, eq_comm (a := mark)]
      split
      · rename_i underscore
        have apart : head ≠ mark := (sign.ne (underscore ▸ by decide)).symm
        simp only [induction, apart, false_or]
      · rw [List.mem_cons, induction, eq_comm (a := mark)]
        cases capital with
        | false => rfl
        | true => rw [if_pos rfl, Text.upperInitial_eq_sign sign]

theorem inputsType_eq_iff {left right : String} :
    inputsType left = inputsType right ↔ moduleType left = moduleType right := by
  simp only [inputsType, String.append_left_inj]

theorem moduleType_ne_inputsType (left right : String) : moduleType left ≠ inputsType right := by
  intro same
  have ends := congrArg (fun name : String => name.toList.getLast?) same
  simp [moduleType, inputsType] at ends

end Naming

end StaticInjection
