namespace StaticInjection

/-! The place where a list changes from items that pass a test to items that do not, found by
halving. -/

/-- The position from which on a test fails, in a range where it fails from one position on. -/
def bisect (isBefore : Nat → Bool) (low high : Nat) : Nat :=
  if low < high then
    let middle := (low + high) / 2
    if isBefore middle then bisect isBefore (middle + 1) high else bisect isBefore low middle
  else low
termination_by high - low

/-- How many items pass a test, in a list where these stand before the others. -/
def partitionPoint (isBefore : α → Bool) (items : List α) : Nat :=
  bisect (fun position => items[position]?.any isBefore) 0 items.length

example : partitionPoint (fun item : Nat => item < 5) [1, 3, 4, 6, 9] = 3 := by decide +kernel

end StaticInjection
