namespace StaticInjection.Schedule

/-! Putting items in an order in which each comes after all that it needs. -/

/-- An item whose needs have all been met. -/
def isReady [BEq α] (needs : α → List α) (done : List α) (item : α) : Bool :=
  (needs item).all done.contains

/-- Take the first ready item again and again, until none is left or none is ready. The number bounds
the steps. -/
def take [BEq α] (needs : α → List α) : Nat → (waiting done : List α) → List α
  | 0, _, _ => []
  | bound + 1, waiting, done =>
    match waiting.find? (isReady needs done) with
    | none => []
    | some item => item :: take needs bound (waiting.erase item) (item :: done)

/-- Items earlier in the list go first when they are ready. Items on a cycle of needs, and those that
need one, are left out. -/
def order [BEq α] (needs : α → List α) (items : List α) : List α :=
  take needs items.length items []

example : order (fun item => if item = 3 then [1] else if item = 4 then [4] else []) [3, 4, 2, 1] =
    [2, 1, 3] := by decide

end StaticInjection.Schedule
