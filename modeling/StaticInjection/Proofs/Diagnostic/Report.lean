import Mathlib.Data.List.Basic
import StaticInjection.Diagnostic.Report
import StaticInjection.Proofs.Order.Repetition

/-! # Sorted reports

A sorted report holds what was reported. Diagnostics about one scope keep their
order unless their content tells them apart, so a report depends on nothing but
what is reported about each scope, and in which order. -/

namespace StaticInjection

/-! ## Stable sorting -/

section Stable

variable {α : Type _} {le : α → α → Bool}

/-- Items that an order does not tell apart. -/
def tied (le : α → α → Bool) (left right : α) : Bool :=
  le left right && le right left

/-- Sorting keeps the order of items that are all tied with each other. -/
theorem filter_mergeSort
    (transitive : ∀ first second third, le first second → le second third → le first third)
    (total : ∀ left right, le left right || le right left) {keep : α → Bool}
    (alike : ∀ left right, keep left → keep right → le left right) (items : List α) :
    (items.mergeSort le).filter keep = items.filter keep := by
  have kept : (items.filter keep).Pairwise (fun left right => le left right) :=
    List.pairwise_of_forall_mem_list fun left leftMember right rightMember =>
      alike left right (List.mem_filter.mp leftMember).2 (List.mem_filter.mp rightMember).2
  have inside := (List.sublist_mergeSort transitive total kept List.filter_sublist).filter keep
  simp only [List.filter_filter, Bool.and_self] at inside
  exact (inside.eq_of_length ((List.mergeSort_perm items le).filter keep).length_eq.symm).symm

/-- Sorted lists are the same when tied items come in the same order in both. -/
theorem eq_of_filter_tied {left right : List α}
    (leftSorted : left.Pairwise fun first second => le first second)
    (rightSorted : right.Pairwise fun first second => le first second)
    (reflexive : ∀ item, le item item)
    (same : ∀ item, left.filter (tied le item) = right.filter (tied le item)) :
    left = right := by
  induction left generalizing right with
  | nil =>
      cases right with
      | nil => rfl
      | cons head tail => simpa [tied, reflexive] using same head
  | cons leftHead leftTail induction =>
      cases right with
      | nil => simpa [tied, reflexive] using same leftHead
      | cons rightHead rightTail =>
          obtain ⟨leftFirst, leftRest⟩ := List.pairwise_cons.mp leftSorted
          obtain ⟨rightFirst, rightRest⟩ := List.pairwise_cons.mp rightSorted
          -- Each head occurs in the other list, behind the head of that list.
          have leftInside : leftHead ∈ rightHead :: rightTail := by
            have member : leftHead ∈ (leftHead :: leftTail).filter (tied le leftHead) := by
              simp [tied, reflexive]
            exact List.mem_of_mem_filter (same leftHead ▸ member)
          have rightInside : rightHead ∈ leftHead :: leftTail := by
            have member : rightHead ∈ (rightHead :: rightTail).filter (tied le rightHead) := by
              simp [tied, reflexive]
            exact List.mem_of_mem_filter (same rightHead ▸ member)
          have forth : le leftHead rightHead := by
            rcases List.mem_cons.mp rightInside with equal | later
            · exact equal ▸ reflexive _
            · exact leftFirst _ later
          have back : le rightHead leftHead := by
            rcases List.mem_cons.mp leftInside with equal | later
            · exact equal ▸ reflexive _
            · exact rightFirst _ later
          have heads : leftHead = rightHead := by
            have first := same leftHead
            simp only [List.filter_cons, tied, reflexive, forth, back, Bool.and_self, if_true,
              List.cons.injEq] at first
            exact first.1
          subst heads
          refine congrArg _ (induction leftRest rightRest fun item => ?_)
          have rest := same item
          simp only [List.filter_cons] at rest
          split at rest
          · exact (List.cons.inj rest).2
          · exact rest

end Stable

namespace Diagnostic

/-! ## Sorting -/

instance : Std.TransCmp order := by
  unfold order
  infer_instance

theorem order_transitive (first second third : Diagnostic)
    (before : (order first second).isLE) (after : (order second third).isLE) :
    (order first third).isLE :=
  Std.TransCmp.isLE_trans before after

theorem order_total (left right : Diagnostic) :
    (order left right).isLE || (order right left).isLE := by
  have swapped : order right left = (order left right).swap := Std.OrientedCmp.eq_swap
  rw [swapped]
  cases order left right <;> rfl

/-- Only diagnostics about one scope are tied. -/
theorem scope_of_order_eq {left right : Diagnostic} (equal : order left right = .eq) :
    left.scope = right.scope := by
  simp only [order, compareLex_eq_eq, compareOn, Std.compare_eq_iff_eq] at equal
  obtain ⟨indices, _⟩ := equal
  exact Option.map_injective (fun ⟨_⟩ ⟨_⟩ same => congrArg ModuleId.mk same) indices

/-- What is tied with a diagnostic is about its scope. -/
theorem filter_tied (diagnostics : List Diagnostic) (item : Diagnostic) :
    diagnostics.filter (tied (fun left right => (order left right).isLE) item) =
      (diagnostics.filter (·.scope == item.scope)).filter
        (tied (fun left right => (order left right).isLE) item) := by
  rw [List.filter_filter]
  refine List.filter_congr fun diagnostic _ => ?_
  cases isTied : tied (fun left right => (order left right).isLE) item diagnostic with
  | false => rfl
  | true =>
      simp only [tied, Bool.and_eq_true] at isTied
      have equal : order item diagnostic = .eq := Std.OrientedCmp.isLE_antisymm isTied.1 isTied.2
      simp [scope_of_order_eq equal]

theorem mem_sort {diagnostics : List Diagnostic} {diagnostic : Diagnostic} :
    diagnostic ∈ sort diagnostics ↔ diagnostic ∈ diagnostics :=
  mem_eraseReps.trans List.mem_mergeSort

/-- What is reported once stands in the report once. -/
theorem filter_sort_of_single {diagnostics : List Diagnostic} {keep : Diagnostic → Bool}
    {only : Diagnostic} (single : diagnostics.filter keep = [only]) :
    (sort diagnostics).filter keep = [only] := by
  have sorted : (diagnostics.mergeSort fun left right => (order left right).isLE).filter keep =
      [only] :=
    List.perm_singleton.mp (single ▸ (List.mergeSort_perm diagnostics _).filter keep)
  have inside := (eraseReps_sublist
    (diagnostics.mergeSort fun left right => (order left right).isLE)).filter keep
  rw [sorted] at inside
  have member : only ∈ (sort diagnostics).filter keep := by
    obtain ⟨listed, kept⟩ := List.mem_filter.mp (single ▸ List.mem_singleton_self only :
      only ∈ diagnostics.filter keep)
    exact List.mem_filter.mpr ⟨mem_sort.mpr listed, kept⟩
  exact inside.eq_of_length_le (List.length_pos_of_mem member)

/-! ## What a report depends on -/

/-- The same is reported about each scope, in the same order. -/
def Alike (left right : List Diagnostic) : Prop :=
  ∀ scope, left.filter (·.scope == scope) = right.filter (·.scope == scope)

namespace Alike

variable {left right others : List Diagnostic}

theorem refl (diagnostics : List Diagnostic) : Alike diagnostics diagnostics :=
  fun _ => rfl

theorem symm (alike : Alike left right) : Alike right left :=
  fun scope => (alike scope).symm

theorem trans (first : Alike left right) (second : Alike right others) : Alike left others :=
  fun scope => (first scope).trans (second scope)

theorem append {leftRest rightRest : List Diagnostic} (first : Alike left right)
    (rest : Alike leftRest rightRest) : Alike (left ++ leftRest) (right ++ rightRest) := by
  intro scope
  rw [List.filter_append, List.filter_append, first scope, rest scope]

theorem append_right (first : Alike left right) (rest : List Diagnostic) :
    Alike (left ++ rest) (right ++ rest) :=
  first.append (refl rest)

theorem append_left (first : List Diagnostic) (rest : Alike left right) :
    Alike (first ++ left) (first ++ right) :=
  (refl first).append rest

theorem mem_iff (alike : Alike left right) {diagnostic : Diagnostic} :
    diagnostic ∈ left ↔ diagnostic ∈ right := by
  have same := congrArg (diagnostic ∈ ·) (alike diagnostic.scope)
  simpa only [List.mem_filter, beq_self_eq_true, and_true, eq_iff_iff] using same

theorem sort_eq (alike : Alike left right) : sort left = sort right := by
  unfold sort
  congr 1
  refine eq_of_filter_tied
    (List.pairwise_mergeSort order_transitive order_total left)
    (List.pairwise_mergeSort order_transitive order_total right)
    (fun _ => Std.ReflCmp.isLE_rfl) fun item => ?_
  have together : ∀ first second,
      tied (fun left right => (order left right).isLE) item first →
        tied (fun left right => (order left right).isLE) item second →
          (order first second).isLE := by
    intro first second isFirst isSecond
    simp only [tied, Bool.and_eq_true] at isFirst isSecond
    exact order_transitive _ _ _ isFirst.2 isSecond.1
  rw [filter_mergeSort order_transitive order_total together,
    filter_mergeSort order_transitive order_total together, filter_tied left, filter_tied right,
    alike item.scope]

end Alike

/-- The failing modules depend on no order. -/
theorem failingModules_congr {left right : List Diagnostic}
    (same : ∀ diagnostic, diagnostic ∈ left ↔ diagnostic ∈ right) :
    failingModules left = failingModules right := by
  unfold failingModules
  have transitive : ∀ first second third : ModuleId,
      decide (first.index ≤ second.index) → decide (second.index ≤ third.index) →
        decide (first.index ≤ third.index) := by
    simpa using fun _ _ _ => Nat.le_trans
  have total : ∀ left right : ModuleId,
      decide (left.index ≤ right.index) || decide (right.index ≤ left.index) := by
    simpa using fun _ _ => Nat.le_total _ _
  have ascending := List.pairwise_mergeSort transitive total
  simp only [decide_eq_true_eq] at ascending
  refine List.Perm.eq_of_pairwise
    (fun ⟨_⟩ ⟨_⟩ _ _ forth back => congrArg ModuleId.mk (Nat.le_antisymm forth back))
    (ascending _) (ascending _) ?_
  refine (List.mergeSort_perm _ _).trans (List.Perm.trans ?_ (List.mergeSort_perm _ _).symm)
  refine (List.perm_ext_iff_of_nodup (nodup_eraseDups _) (nodup_eraseDups _)).mpr fun id => ?_
  simp only [List.mem_eraseDups, List.mem_filterMap, same]

end Diagnostic

end StaticInjection
