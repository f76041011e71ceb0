import StaticInjection.Text.CodeRange

namespace StaticInjection.Text

/-! Words separated by blanks, and the one way to write them with single spaces. -/

/-- White space in the sense of the Unicode character database. -/
def blankRanges : List CodeRange := [
  ⟨0x9, 0xd, 1⟩, ⟨0x20, 0x20, 1⟩, ⟨0x85, 0x85, 1⟩, ⟨0xa0, 0xa0, 1⟩, ⟨0x1680, 0x1680, 1⟩,
  ⟨0x2000, 0x200a, 1⟩, ⟨0x2028, 0x2029, 1⟩, ⟨0x202f, 0x202f, 1⟩, ⟨0x205f, 0x205f, 1⟩,
  ⟨0x3000, 0x3000, 1⟩]

def isBlank (character : Char) : Bool :=
  CodeRange.holds blankRanges character

example : isBlank '\x0b' = true ∧ isBlank '\u3000' = true ∧ isBlank '\u200b' = false := by decide

/-- The words of a text when the characters of `word` have been read already. -/
def wordsFrom (word : List Char) : List Char → List (List Char)
  | [] => if word.isEmpty then [] else [word]
  | head :: tail =>
    if isBlank head then
      if word.isEmpty then wordsFrom [] tail else word :: wordsFrom [] tail
    else wordsFrom (word ++ [head]) tail

/-- The longest runs of characters that are not blank. -/
def words (text : List Char) : List (List Char) :=
  wordsFrom [] text

/-- Words with one space between neighbours. -/
def spaced : List (List Char) → List Char
  | [] => []
  | [word] => word
  | word :: next :: rest => word ++ ' ' :: spaced (next :: rest)

/-- Every run of blanks becomes one space; blanks at either end disappear. -/
def squeeze (text : List Char) : List Char :=
  spaced (words text)

/-- A nonempty run without blanks. -/
def IsWord (word : List Char) : Prop :=
  word ≠ [] ∧ ∀ character ∈ word, isBlank character = false

theorem wordsFrom_append (word : List Char) {run : List Char}
    (solid : ∀ character ∈ run, isBlank character = false) (rest : List Char) :
    wordsFrom word (run ++ rest) = wordsFrom (word ++ run) rest := by
  induction run generalizing word with
  | nil => simp
  | cons head tail induction =>
    have plain : isBlank head = false := solid head (by simp)
    have others : ∀ character ∈ tail, isBlank character = false :=
      fun character member => solid character (by simp [member])
    simp [wordsFrom, plain, induction _ others, List.append_assoc]

theorem isWord_of_mem_wordsFrom {word text : List Char}
    (solid : ∀ character ∈ word, isBlank character = false) :
    ∀ found ∈ wordsFrom word text, IsWord found := by
  have vacuous : ∀ character ∈ ([] : List Char), isBlank character = false := by simp
  induction text generalizing word with
  | nil =>
    cases word with
    | nil => simp [wordsFrom]
    | cons head tail => simpa [wordsFrom, IsWord] using solid
  | cons head tail induction =>
    intro found member
    unfold wordsFrom at member
    split at member
    · cases word with
      | nil => exact induction vacuous found (by simpa using member)
      | cons first others =>
        rcases List.mem_cons.1 (by simpa using member) with equal | later
        · subst equal
          exact ⟨by simp, solid⟩
        · exact induction vacuous found later
    · rename_i plain
      refine induction ?_ found member
      intro character inside
      rcases List.mem_append.1 inside with before | last
      · exact solid character before
      · simp_all

theorem words_spaced {found : List (List Char)} (proper : ∀ word ∈ found, IsWord word) :
    words (spaced found) = found := by
  induction found with
  | nil => rfl
  | cons word rest induction =>
    obtain ⟨nonempty, solid⟩ := proper word (by simp)
    have others : ∀ other ∈ rest, IsWord other := fun other member => proper other (by simp [member])
    have space : isBlank ' ' = true := by decide
    cases rest with
    | nil =>
      have whole := wordsFrom_append [] solid []
      simpa [words, spaced, wordsFrom, nonempty] using whole
    | cons next more =>
      have start := wordsFrom_append [] solid (' ' :: spaced (next :: more))
      have tail := induction others
      simp only [words] at tail
      simp [words, spaced, start, wordsFrom, space, nonempty, tail]

/-- Text written with single spaces stays as it is. -/
@[simp] theorem squeeze_squeeze (text : List Char) : squeeze (squeeze text) = squeeze text := by
  unfold squeeze
  rw [words_spaced]
  exact isWord_of_mem_wordsFrom (by simp)

end StaticInjection.Text
