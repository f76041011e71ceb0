namespace StaticInjection.Text

/-! Character classes and case maps are given as short lists of code point ranges. -/

/-- Every `step`-th code point from `first` to `last`. -/
structure CodeRange where
  first : Nat
  last : Nat
  step : Nat
deriving DecidableEq, Repr

namespace CodeRange

def contains (range : CodeRange) (code : Nat) : Bool :=
  range.first ≤ code && code ≤ range.last && (code - range.first) % range.step == 0

/-- Whether one of the ranges holds the character. -/
def holds (ranges : List CodeRange) (character : Char) : Bool :=
  ranges.any (·.contains character.toNat)

/-- Move the character along with the range that holds it; a character outside every range stays. -/
def shift (shifts : List (CodeRange × Nat)) (character : Char) : Char :=
  match shifts.find? (·.1.contains character.toNat) with
  | none => character
  | some (range, target) => Char.ofNat (target + (character.toNat - range.first))

end CodeRange

end StaticInjection.Text
