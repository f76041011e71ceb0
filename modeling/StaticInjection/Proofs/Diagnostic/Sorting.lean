import Mathlib.Data.List.Nodup
import StaticInjection.Proofs.Diagnostic.Report

/-! # What sorting settles

Sorting looks at all of a diagnostic but its place in a file and its root causes. Diagnostics that
it does not tell apart keep the order in which they came, and one of them is dropped only right
behind its equal. So a report depends on nothing but what is reported exactly when no two different
diagnostics are the same in all that is looked at. -/

namespace StaticInjection

section Repetitions

variable {α : Type _} [BEq α] [LawfulBEq α]

theorem head?_eraseReps (items : List α) : items.eraseReps.head? = items.head? := by
  cases items with
  | nil => rfl
  | cons first rest =>
      induction rest generalizing first with
      | nil => rfl
      | cons second rest induction =>
          rw [eraseReps_cons_cons]
          split
          · rename_i same
            rw [induction, eq_of_beq same]
            rfl
          · rfl

omit [BEq α] [LawfulBEq α] in
/-- Behind an item that is not tied any more, nothing is tied again. -/
theorem filter_tied_eq_nil {le : α → α → Bool}
    (transitive : ∀ first second third, le first second → le second third → le first third)
    {item first second : α} {rest : List α}
    (sorted : (second :: rest).Pairwise fun left right => le left right)
    (before : le first second) (isTied : tied le item first = true)
    (next : tied le item second = false) : (second :: rest).filter (tied le item) = [] := by
  simp only [tied, Bool.and_eq_true] at isTied
  have after : le item second := transitive _ _ _ isTied.1 before
  refine List.filter_eq_nil_iff.mpr fun other listed => ?_
  rcases List.mem_cons.mp listed with rfl | later
  · simp [next]
  · intro again
    simp only [tied, Bool.and_eq_true] at again
    have back : le second item :=
      transitive _ _ _ ((List.pairwise_cons.mp sorted).1 other later) again.2
    simp [tied, after, back] at next

/-- Tied items stand together in a sorted list, so leaving out repetitions of one does not touch the
others. -/
theorem filter_eraseReps {le : α → α → Bool}
    (transitive : ∀ first second third, le first second → le second third → le first third)
    {items : List α} (sorted : items.Pairwise fun left right => le left right) (item : α) :
    items.eraseReps.filter (tied le item) = (items.filter (tied le item)).eraseReps := by
  induction items with
  | nil => rfl
  | cons first tail induction =>
      obtain ⟨least, tailSorted⟩ := List.pairwise_cons.mp sorted
      have later := induction tailSorted
      cases tail with
      | nil =>
          cases isTied : tied le item first <;>
            simp [isTied, List.eraseReps, List.eraseRepsBy, List.eraseRepsBy.loop]
      | cons second rest =>
          rw [eraseReps_cons_cons]
          cases isTied : tied le item first with
          | false =>
              rw [List.filter_cons_of_neg (by simp [isTied]), ← later]
              split
              · rfl
              · rw [List.filter_cons_of_neg (by simp [isTied])]
          | true =>
              rw [List.filter_cons_of_pos isTied]
              cases next : tied le item second with
              | true =>
                  rw [List.filter_cons_of_pos next] at later ⊢
                  rw [eraseReps_cons_cons, ← later]
                  split
                  · rfl
                  · rw [List.filter_cons_of_pos isTied]
              | false =>
                  have none := filter_tied_eq_nil transitive tailSorted
                    (least second List.mem_cons_self) isTied next
                  have different : ¬ (first == second) = true := by
                    intro same
                    rw [eq_of_beq same, next] at isTied
                    cases isTied
                  rw [if_neg different, List.filter_cons_of_pos isTied, later, none]
                  rfl

end Repetitions

namespace Diagnostic

/-- What sorting looks at. -/
def heading (diagnostic : Diagnostic) : Diagnostic :=
  { diagnostic with
    location := { diagnostic.location with position := none }
    rootCauses := [] }

theorem rank_injective {left right : DiagnosticKind} (same : left.rank = right.rank) :
    left = right := by
  cases left <;> cases right <;> first | rfl | cases same

theorem order_eq_iff {left right : Diagnostic} :
    order left right = .eq ↔ left.heading = right.heading := by
  have indices : (left.scope.map (·.index) = right.scope.map (·.index)) ↔
      left.scope = right.scope :=
    (Option.map_injective fun ⟨_⟩ ⟨_⟩ same => congrArg ModuleId.mk same).eq_iff
  have ranks : left.kind.rank = right.kind.rank ↔ left.kind = right.kind :=
    ⟨rank_injective, congrArg DiagnosticKind.rank⟩
  simp only [order, compareLex_eq_eq, compareOn, Std.compare_eq_iff_eq, indices, ranks, heading,
    Diagnostic.mk.injEq, Location.mk.injEq]
  tauto

theorem tied_iff {item diagnostic : Diagnostic} :
    tied (fun left right => (order left right).isLE) item diagnostic = true ↔
      diagnostic.heading = item.heading := by
  rw [← order_eq_iff, tied, Bool.and_eq_true]
  constructor
  · rintro ⟨forth, back⟩
    exact Std.OrientedCmp.isLE_antisymm back forth
  · intro same
    have swapped : order item diagnostic = .eq := Std.OrientedCmp.eq_symm same
    simp [same, swapped]

/-- Whatever is alike in all that sorting looks at is the same. -/
def ToldApart (diagnostics : List Diagnostic) : Prop :=
  ∀ left ∈ diagnostics, ∀ right ∈ diagnostics, left.heading = right.heading → left = right

variable {diagnostics : List Diagnostic}

theorem sorted_mergeSort (diagnostics : List Diagnostic) :
    (diagnostics.mergeSort fun left right => (order left right).isLE).Pairwise
      fun left right => (order left right).isLE :=
  List.pairwise_mergeSort order_transitive order_total diagnostics

/-- What is alike keeps its order, and each run of equals becomes one. -/
theorem filter_sort (diagnostics : List Diagnostic) (item : Diagnostic) :
    (sort diagnostics).filter (·.heading = item.heading) =
      (diagnostics.filter (·.heading = item.heading)).eraseReps := by
  have alike : (fun diagnostic : Diagnostic => decide (diagnostic.heading = item.heading)) =
      tied (fun left right => (order left right).isLE) item :=
    funext fun _ => Bool.eq_iff_iff.mpr (by rw [tied_iff, decide_eq_true_eq])
  rw [alike, sort, filter_eraseReps order_transitive (sorted_mergeSort diagnostics),
    filter_mergeSort order_transitive order_total]
  intro left right isLeft isRight
  simp only [tied, Bool.and_eq_true] at isLeft isRight
  exact order_transitive _ _ _ isLeft.2 isRight.1

/-- Where all are alike, only repetitions go. -/
theorem sort_of_alike (item : Diagnostic)
    (alike : ∀ diagnostic ∈ diagnostics, diagnostic.heading = item.heading) :
    sort diagnostics = diagnostics.eraseReps := by
  have kept : diagnostics.filter (·.heading = item.heading) = diagnostics :=
    List.filter_eq_self.mpr fun diagnostic listed => by simp [alike diagnostic listed]
  have sortedKept : (sort diagnostics).filter (·.heading = item.heading) = sort diagnostics :=
    List.filter_eq_self.mpr fun diagnostic listed => by
      simp [alike diagnostic (mem_sort.mp listed)]
  rw [← sortedKept, filter_sort, kept]

theorem nodup_sort_iff :
    (sort diagnostics).Nodup ↔
      ∀ item : Diagnostic, (diagnostics.filter (·.heading = item.heading)).eraseReps.Nodup := by
  constructor
  · intro nodup item
    exact filter_sort diagnostics item ▸ nodup.filter _
  · intro nodup
    refine List.nodup_iff_count_le_one.mpr fun item => ?_
    rw [← List.count_filter (p := (·.heading = item.heading)) (by simp), filter_sort]
    exact List.nodup_iff_count_le_one.mp (nodup item) item

theorem ToldApart.nodup_sort (apart : ToldApart diagnostics) : (sort diagnostics).Nodup := by
  refine nodup_sort_iff.mpr fun item => ?_
  have same : (diagnostics.filter (·.heading = item.heading)).Pairwise
      fun left right => left = right ∨ False := by
    refine List.pairwise_of_forall_mem_list fun left isLeft right isRight => .inl ?_
    simp only [List.mem_filter, decide_eq_true_eq] at isLeft isRight
    exact apart left isLeft.1 right isRight.1 (isLeft.2.trans isRight.2.symm)
  exact (eraseReps_ordered (fun _ _ never => never.elim) same).imp False.elim

/-- Of diagnostics that are alike, the one that comes first stays first. So a report is the same
for every order in which they come only if there are no different ones. -/
theorem sort_perm_iff :
    (∀ other : List Diagnostic, other.Perm diagnostics → sort other = sort diagnostics) ↔
      ToldApart diagnostics := by
  constructor
  · intro settled left isLeft right isRight alike
    have first : ∀ item ∈ diagnostics, item.heading = right.heading →
        ((sort diagnostics).filter (·.heading = right.heading)).head? = some item := by
      intro item listed same
      rw [← settled _ (List.perm_cons_erase listed).symm, filter_sort, head?_eraseReps,
        List.filter_cons_of_pos (by simpa using same), List.head?_cons]
    exact Option.some.inj ((first left isLeft alike).symm.trans (first right isRight rfl))
  · intro apart other perm
    unfold sort
    congr 1
    refine List.Perm.eq_of_pairwise ?_ (sorted_mergeSort other) (sorted_mergeSort diagnostics)
      ((List.mergeSort_perm other _).trans (perm.trans (List.mergeSort_perm diagnostics _).symm))
    intro left right isLeft isRight forth back
    exact apart left (perm.mem_iff.mp (List.mem_mergeSort.mp isLeft)) right
      (List.mem_mergeSort.mp isRight)
      (order_eq_iff.mp (Std.OrientedCmp.isLE_antisymm forth back))

/-- A sorted report holds what was reported, in an order that looks at everything but the places in
files and the root causes. What is alike in the rest keeps its order, less the repetitions that
follow each other, and no diagnostic is left twice exactly when none is among those that are alike.
The report is the same for every order of its diagnostics exactly when no two different ones are
alike, and then it has none twice. -/
theorem sort_settles (diagnostics : List Diagnostic) :
    (∀ diagnostic, diagnostic ∈ sort diagnostics ↔ diagnostic ∈ diagnostics) ∧
      ((sort diagnostics).Pairwise fun left right => (order left right).isLE) ∧
      (∀ left right, order left right = .eq ↔ left.heading = right.heading) ∧
      (∀ item : Diagnostic, (sort diagnostics).filter (·.heading = item.heading) =
        (diagnostics.filter (·.heading = item.heading)).eraseReps) ∧
      ((sort diagnostics).Nodup ↔
        ∀ item : Diagnostic, (diagnostics.filter (·.heading = item.heading)).eraseReps.Nodup) ∧
      ((∀ other : List Diagnostic, other.Perm diagnostics → sort other = sort diagnostics) ↔
        ToldApart diagnostics) ∧
      (ToldApart diagnostics → (sort diagnostics).Nodup) :=
  ⟨fun _ => mem_sort, (sorted_mergeSort diagnostics).sublist (eraseReps_sublist _),
    fun _ _ => order_eq_iff, filter_sort diagnostics, nodup_sort_iff, sort_perm_iff,
    ToldApart.nodup_sort⟩

/-- What is reported at two places, and at one of them again, can be left twice, and the report
changes with the order. -/
theorem repeated_place_left_twice :
    let report (line : UInt32) : Diagnostic :=
      .invalid ⟨0⟩ { module := "app", position := some ⟨"app.rs", line, 1⟩ } "again"
    sort [report 2, report 1, report 2] = [report 2, report 1, report 2] ∧
      ¬ (sort [report 2, report 1, report 2]).Nodup ∧
      [report 1, report 2, report 2].Perm [report 2, report 1, report 2] ∧
      sort [report 1, report 2, report 2] = [report 1, report 2] := by
  intro report
  have twice : sort [report 2, report 1, report 2] = [report 2, report 1, report 2] :=
    (sort_of_alike (report 1) (by decide)).trans (by decide)
  have once : sort [report 1, report 2, report 2] = [report 1, report 2] :=
    (sort_of_alike (report 1) (by decide)).trans (by decide)
  exact ⟨twice, by rw [twice]; decide, by decide, once⟩

end Diagnostic

end StaticInjection
