namespace StaticInjection

/-! Sorting by insertion. Items that the order does not tell apart stay as they come. -/

/-- Put an item in front of the first one that may follow it. -/
def insertBy (atMost : α → α → Bool) (item : α) : List α → List α
  | [] => [item]
  | head :: tail =>
    if atMost item head then item :: head :: tail else head :: insertBy atMost item tail

def sortBy (atMost : α → α → Bool) : List α → List α
  | [] => []
  | head :: tail => insertBy atMost head (sortBy atMost tail)

example : sortBy (fun left right : Nat => left ≤ right) [2, 0, 1, 0] = [0, 0, 1, 2] := by decide

end StaticInjection
