import StaticInjection.Order.Bisection

/-! # Halving

In a list where the items that pass a test stand before the others, halving finds the place
between them. -/

namespace StaticInjection

theorem bisect_eq {isBefore : Nat → Bool} {low high point : Nat} (above : low ≤ point)
    (below : point ≤ high)
    (splits : ∀ position, low ≤ position → position < high →
      (isBefore position = true ↔ position < point)) :
    bisect isBefore low high = point := by
  fun_induction bisect isBefore low high with
  | case1 low high more middle before induction =>
      have passed := (splits middle (by omega) (by omega)).mp before
      exact induction passed below fun position atLeast less =>
        splits position (by omega) less
  | case2 low high more middle after induction =>
      have failed := mt (splits middle (by omega) (by omega)).mpr after
      exact induction above (by omega) fun position atLeast less =>
        splits position atLeast (by omega)
  | case3 low high none => omega

theorem partitionPoint_append {isBefore : α → Bool} {before after : List α}
    (passes : ∀ item ∈ before, isBefore item = true)
    (fails : ∀ item ∈ after, isBefore item = false) :
    partitionPoint isBefore (before ++ after) = before.length := by
  refine bisect_eq (Nat.zero_le _) (by simp) fun position _ inside => ?_
  rw [List.getElem?_append]
  split
  · rename_i early
    simp [early, passes before[position] (List.getElem_mem early)]
  · rename_i late
    rw [List.length_append] at inside
    have placed : position - before.length < after.length := by omega
    simp [late, placed, fails _ (List.getElem_mem placed)]

theorem insertIdx_append (before after : List α) (item : α) :
    (before ++ after).insertIdx before.length item = before ++ item :: after := by
  induction before with
  | nil => rfl
  | cons head rest induction => simp [induction]

/-- An item that is put at the place between stands behind those that pass. -/
theorem insertIdx_partitionPoint {isBefore : α → Bool} {before after : List α} (item : α)
    (passes : ∀ other ∈ before, isBefore other = true)
    (fails : ∀ other ∈ after, isBefore other = false) :
    (before ++ after).insertIdx (partitionPoint isBefore (before ++ after)) item =
      before ++ item :: after := by
  rw [partitionPoint_append passes fails, insertIdx_append]

end StaticInjection
