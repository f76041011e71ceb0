import Mathlib.Tactic.Tauto

/-! # Lists without repetitions

Leaving out repetitions loses no item. In a list in order equal items are neighbours, so leaving out
those leaves none twice. -/

namespace StaticInjection

variable {α : Type _} [BEq α]

theorem eraseReps_cons (head : α) (tail : List α) :
    (head :: tail).eraseReps = List.eraseRepsBy.loop (· == ·) head tail [] := rfl

theorem eraseReps_loop_nil (first : α) (seen : List α) :
    List.eraseRepsBy.loop (· == ·) first [] seen = seen.reverse ++ [first] :=
  List.reverse_cons

theorem eraseReps_loop_cons (first head : α) (tail seen : List α) :
    List.eraseRepsBy.loop (· == ·) first (head :: tail) seen =
      if first == head then List.eraseRepsBy.loop (· == ·) first tail seen
      else List.eraseRepsBy.loop (· == ·) head tail (first :: seen) := by
  have step : List.eraseRepsBy.loop (· == ·) first (head :: tail) seen =
      match first == head with
      | true => List.eraseRepsBy.loop (· == ·) first tail seen
      | false => List.eraseRepsBy.loop (· == ·) head tail (first :: seen) := rfl
  rw [step]
  cases first == head <;> rfl

theorem eraseReps_loop_sublist (first : α) (items seen : List α) :
    (List.eraseRepsBy.loop (· == ·) first items seen).Sublist (seen.reverse ++ first :: items) := by
  induction items generalizing first seen with
  | nil => simp [eraseReps_loop_nil]
  | cons head tail induction =>
      rw [eraseReps_loop_cons]
      split
      · exact (induction first seen).trans
          (((List.sublist_cons_self head tail).cons_cons first).append_left seen.reverse)
      · simpa using induction head (first :: seen)

theorem eraseReps_sublist (items : List α) : items.eraseReps.Sublist items := by
  cases items with
  | nil => exact .slnil
  | cons head tail => exact eraseReps_loop_sublist head tail []

theorem eraseReps_loop_eq (first : α) (items seen : List α) :
    List.eraseRepsBy.loop (· == ·) first items seen =
      seen.reverse ++ List.eraseRepsBy.loop (· == ·) first items [] := by
  induction items generalizing first seen with
  | nil => rw [eraseReps_loop_nil, eraseReps_loop_nil, List.reverse_nil, List.nil_append]
  | cons head tail induction =>
      rw [eraseReps_loop_cons, eraseReps_loop_cons]
      split
      · exact induction first seen
      · rw [induction head (first :: seen), induction head [first]]
        simp

variable [LawfulBEq α]

theorem mem_eraseReps_loop {first item : α} {items seen : List α} :
    item ∈ List.eraseRepsBy.loop (· == ·) first items seen ↔
      item = first ∨ item ∈ items ∨ item ∈ seen := by
  induction items generalizing first seen with
  | nil => simp [eraseReps_loop_nil, or_comm]
  | cons head tail induction =>
      rw [eraseReps_loop_cons]
      split
      · rename_i again
        rw [induction, eq_of_beq again, List.mem_cons]
        tauto
      · rw [induction, List.mem_cons, List.mem_cons]
        tauto

theorem mem_eraseReps {item : α} {items : List α} : item ∈ items.eraseReps ↔ item ∈ items := by
  cases items with
  | nil => rfl
  | cons head tail => simp [eraseReps_cons, mem_eraseReps_loop]

theorem eraseReps_cons_cons (first second : α) (rest : List α) :
    (first :: second :: rest).eraseReps =
      if first == second then (second :: rest).eraseReps
      else first :: (second :: rest).eraseReps := by
  rw [eraseReps_cons, eraseReps_loop_cons, eraseReps_cons]
  split
  · rename_i same
    rw [eq_of_beq same]
  · exact eraseReps_loop_eq second rest [first]

/-- In a list in order, leaving out repetitions leaves no item twice. -/
theorem eraseReps_ordered {before : α → α → Prop}
    (asymm : ∀ left right, before left right → ¬ before right left) {items : List α}
    (ordered : items.Pairwise fun left right => left = right ∨ before left right) :
    items.eraseReps.Pairwise before := by
  induction items with
  | nil => exact .nil
  | cons first tail induction =>
      rcases List.pairwise_cons.mp ordered with ⟨least, tailOrdered⟩
      cases tail with
      | nil => exact List.pairwise_singleton _ _
      | cons second rest =>
          have later := induction tailOrdered
          rw [eraseReps_cons_cons]
          split
          · exact later
          · rename_i different
            have next : before first second :=
              (least second List.mem_cons_self).resolve_left fun same => different (by simp [same])
            refine List.pairwise_cons.mpr ⟨fun other member => ?_, later⟩
            have listed := mem_eraseReps.mp member
            rcases least other listed with rfl | after
            · rcases List.mem_cons.mp listed with rfl | listed
              · exact next
              · rcases (List.pairwise_cons.mp tailOrdered).1 first listed with rfl | back
                · exact next
                · exact absurd back (asymm first second next)
            · exact after

theorem nodup_eraseDups (items : List α) : items.eraseDups.Nodup := by
  induction count : items.length using Nat.strongRecOn generalizing items with
  | ind count induction =>
      cases items with
      | nil => exact .nil
      | cons head tail =>
          rw [List.eraseDups_cons]
          have shorter := List.length_filter_le (fun item => !item == head) tail
          rw [List.length_cons] at count
          refine List.nodup_cons.mpr ⟨by simp, induction _ (by omega) _ rfl⟩

end StaticInjection
