namespace StaticInjection.Text

/-! Cutting a text at a separator or at its line ends. -/

/-- The pieces between separators. A text without separators is one piece, also when it is empty. -/
def pieces (separator : Char) : List Char → List (List Char)
  | [] => [[]]
  | head :: tail =>
    if head = separator then [] :: pieces separator tail
    else
      match pieces separator tail with
      | [] => [[head]]
      | piece :: rest => (head :: piece) :: rest

theorem pieces_ne_nil (separator : Char) (text : List Char) : pieces separator text ≠ [] := by
  cases text with
  | nil => simp [pieces]
  | cons head tail =>
    unfold pieces
    split
    · simp
    · split <;> simp

/-- Drop one carriage return from the end. -/
def withoutReturn (line : List Char) : List Char :=
  if line.getLast? = some '\r' then line.dropLast else line

/-- A line ends with a line feed, or with a carriage return and a line feed. What follows the last
line feed is a line only when it is not empty, and keeps its carriage return. -/
def endedLines : List (List Char) → List (List Char)
  | [] => []
  | [last] => if last.isEmpty then [] else [last]
  | line :: rest => withoutReturn line :: endedLines rest

def lines (text : List Char) : List (List Char) :=
  endedLines (pieces '\n' text)

example : lines "a\r\nb\n\nc\r".toList = ["a", "b", "", "c\r"].map String.toList := by decide +kernel
example : lines "a\n".toList = ["a".toList] ∧ lines [] = [] := by decide +kernel

end StaticInjection.Text
