import Mathlib.Data.List.Sort
import StaticInjection.Order.Insertion

/-! # Lists in order

A list in order is known by its items. Sorting puts the items of any list in order: it is
insertion sort, and has the laws of insertion sort. -/

namespace StaticInjection

/-- Lists of the same items are equal when both are in order. -/
theorem eq_of_ordered {before : α → α → Prop} (asymm : ∀ left right, before left right →
    ¬ before right left) {left right : List α} (leftOrdered : left.Pairwise before)
    (rightOrdered : right.Pairwise before) (same : ∀ item, item ∈ left ↔ item ∈ right) :
    left = right := by
  have distinct {items : List α} (ordered : items.Pairwise before) : items.Nodup := by
    refine ordered.imp fun {first second} forth equal => ?_
    subst equal
    exact asymm first first forth forth
  have perm := (List.perm_ext_iff_of_nodup (distinct leftOrdered)
    (distinct rightOrdered)).mpr same
  exact perm.eq_of_pairwise (fun _ _ _ _ forth back => absurd back (asymm _ _ forth))
    leftOrdered rightOrdered

/-! ## Sorting by insertion -/

variable {atMost : α → α → Bool}

theorem insertBy_eq (item : α) (items : List α) :
    insertBy atMost item items = items.orderedInsert (atMost · ·) item := by
  induction items with
  | nil => rfl
  | cons head tail induction => rw [insertBy, List.orderedInsert, induction]

theorem sortBy_eq (items : List α) : sortBy atMost items = items.insertionSort (atMost · ·) := by
  induction items with
  | nil => rfl
  | cons head tail induction =>
      rw [sortBy, insertBy_eq, induction, List.insertionSort_cons]

theorem sortBy_perm (items : List α) : (sortBy atMost items).Perm items := by
  rw [sortBy_eq]
  exact List.perm_insertionSort _ items

@[simp] theorem mem_sortBy {item : α} {items : List α} :
    item ∈ sortBy atMost items ↔ item ∈ items :=
  (sortBy_perm items).mem_iff

theorem pairwise_sortBy
    (total : ∀ left right, atMost left right = true ∨ atMost right left = true)
    (transitive : ∀ left middle right, atMost left middle = true → atMost middle right = true →
      atMost left right = true) (items : List α) :
    (sortBy atMost items).Pairwise (atMost · ·) := by
  have : Std.Total fun left right => atMost left right = true := ⟨total⟩
  have : IsTrans α fun left right => atMost left right = true := ⟨transitive⟩
  rw [sortBy_eq]
  exact List.pairwise_insertionSort _ items

/-- Numbers without repetition are sorted to ascend. -/
theorem sortBy_ascending {numbers : List Nat} (nodup : numbers.Nodup) :
    (sortBy (· ≤ ·) numbers).Pairwise (· < ·) := by
  have sorted : (sortBy (· ≤ ·) numbers).Pairwise fun left right => decide (left ≤ right) = true :=
    pairwise_sortBy (by simp; omega) (by simp; omega) numbers
  have apart : (sortBy (· ≤ ·) numbers).Nodup := (sortBy_perm numbers).nodup_iff.mpr nodup
  refine (sorted.and apart).imp fun ⟨before, different⟩ => ?_
  have atMost := of_decide_eq_true before
  omega

end StaticInjection
