import Mathlib.Data.List.Nodup
import Mathlib.Logic.Relation
import Mathlib.Order.WellFounded
import Mathlib.Data.Fintype.Order
import Mathlib.Data.Set.Finite.List
import StaticInjection.Plan.Schedule

/-! # Schedules

A schedule holds each of its items once and after all that the item needs.
What it leaves out is stuck: each such item needs another one. So nothing is
left out where no item needs itself through others. -/

namespace StaticInjection.Schedule

variable {α : Type} {needs : α → List α}

/-- Each item comes after all that it needs, apart from what has been done
before. -/
def InOrder (needs : α → List α) : (done order : List α) → Prop
  | _, [] => True
  | done, item :: rest =>
      (∀ need ∈ needs item, need ∈ done) ∧ InOrder needs (item :: done) rest

theorem InOrder.needs_before {done before after : List α} {item : α}
    (ordered : InOrder needs done (before ++ item :: after)) :
    ∀ need ∈ needs item, need ∈ before ∨ need ∈ done := by
  induction before generalizing done with
  | nil => exact fun need member => .inr (ordered.1 need member)
  | cons head tail induction =>
      intro need member
      rcases induction ordered.2 need member with earlier | known
      · exact .inl (List.mem_cons_of_mem _ earlier)
      · rcases List.mem_cons.mp known with equal | known
        · exact .inl (equal ▸ List.mem_cons_self)
        · exact .inr known

theorem inOrder_of_split {done order : List α}
    (settled : ∀ before item after, order = before ++ item :: after →
      ∀ need ∈ needs item, need ∈ before ∨ need ∈ done) : InOrder needs done order := by
  induction order generalizing done with
  | nil => trivial
  | cons head tail induction =>
      refine ⟨fun need member => ?_, induction fun before item after split need member => ?_⟩
      · exact (settled [] head tail rfl need member).resolve_left List.not_mem_nil
      · rcases settled (head :: before) item after (congrArg _ split) need member with
          earlier | known
        · rcases List.mem_cons.mp earlier with equal | earlier
          · exact .inr (equal ▸ List.mem_cons_self)
          · exact .inl earlier
        · exact .inr (List.mem_cons_of_mem _ known)

/-- What an item needs through others comes before it too. -/
theorem InOrder.reached_before {order : List α} (ordered : InOrder needs [] order)
    {item need : α}
    (path : Relation.TransGen (fun source target => target ∈ needs source) item need)
    {before after : List α} (split : order = before ++ item :: after) : need ∈ before := by
  induction path using Relation.TransGen.head_induction_on generalizing before after with
  | single needed =>
      exact ((split ▸ ordered).needs_before _ needed).resolve_right List.not_mem_nil
  | head needed _ induction =>
      have between := ((split ▸ ordered).needs_before _ needed).resolve_right List.not_mem_nil
      obtain ⟨first, rest, rfl⟩ := List.append_of_mem between
      have reached := induction (split.trans (List.append_assoc _ _ _))
      exact List.mem_append_left _ reached

/-! ## What is taken -/

variable [BEq α]

theorem take_of_none {waiting done : List α}
    (none : waiting.find? (isReady needs done) = none) (bound : Nat) :
    take needs bound waiting done = [] := by
  cases bound with
  | zero => rfl
  | succ bound => simp only [take, none]

theorem take_of_found {waiting done : List α} {item : α}
    (found : waiting.find? (isReady needs done) = some item) (bound : Nat) :
    take needs (bound + 1) waiting done =
      item :: take needs bound (waiting.erase item) (item :: done) := by
  simp only [take, found]

theorem mem_of_mem_take {bound : Nat} {waiting done : List α} {item : α}
    (member : item ∈ take needs bound waiting done) : item ∈ waiting := by
  induction bound generalizing waiting done with
  | zero => cases member
  | succ bound induction =>
      cases found : waiting.find? (isReady needs done) with
      | none =>
          rw [take_of_none found] at member
          cases member
      | some first =>
          rw [take_of_found found] at member
          rcases List.mem_cons.mp member with equal | later
          · exact equal ▸ List.mem_of_find?_eq_some found
          · exact List.mem_of_mem_erase (induction later)

theorem mem_of_mem_order {items : List α} {item : α}
    (member : item ∈ order needs items) : item ∈ items :=
  mem_of_mem_take member

variable [LawfulBEq α]

theorem take_inOrder (bound : Nat) (waiting done : List α) :
    InOrder needs done (take needs bound waiting done) := by
  induction bound generalizing waiting done with
  | zero => trivial
  | succ bound induction =>
      cases found : waiting.find? (isReady needs done) with
      | none =>
          rw [take_of_none found]
          trivial
      | some item =>
          have ready := List.find?_some found
          rw [take_of_found found]
          exact ⟨by simpa [isReady] using ready, induction _ _⟩

theorem nodup_take {bound : Nat} {waiting done : List α}
    (nodup : waiting.Nodup) : (take needs bound waiting done).Nodup := by
  induction bound generalizing waiting done with
  | zero => exact .nil
  | succ bound induction =>
      cases found : waiting.find? (isReady needs done) with
      | none =>
          rw [take_of_none found]
          exact .nil
      | some item =>
          rw [take_of_found found]
          refine List.nodup_cons.mpr ⟨?_, induction (nodup.erase item)⟩
          intro again
          exact nodup.not_mem_erase (mem_of_mem_take again)

/-- An item that is never taken needs one that is never there. -/
theorem exists_need_of_not_mem_take {bound : Nat} {waiting done : List α}
    (enough : waiting.length ≤ bound) {item : α} (member : item ∈ waiting)
    (skipped : item ∉ take needs bound waiting done) :
    ∃ need ∈ needs item,
      need ∉ done ∧ need ∉ take needs bound waiting done := by
  induction bound generalizing waiting done with
  | zero =>
      have empty : waiting = [] := List.length_eq_zero_iff.mp (by omega)
      simp [empty] at member
  | succ bound induction =>
      cases found : waiting.find? (isReady needs done) with
      | none =>
          have notReady : isReady needs done item = false := by
            simpa using List.find?_eq_none.mp found item member
          simp only [isReady, List.all_eq_false] at notReady
          obtain ⟨need, needed, missing⟩ := notReady
          rw [take_of_none found]
          exact ⟨need, needed, by simpa using missing, List.not_mem_nil⟩
      | some first =>
          rw [take_of_found found] at skipped ⊢
          have different : item ≠ first := fun equal =>
            skipped (equal ▸ List.mem_cons_self)
          have shorter : (waiting.erase first).length ≤ bound := by
            rw [List.length_erase_of_mem (List.mem_of_find?_eq_some found)]
            omega
          obtain ⟨need, needed, notDone, notTaken⟩ := induction shorter
            ((List.mem_erase_of_ne different).mpr member)
            (fun later => skipped (List.mem_cons_of_mem _ later))
          refine ⟨need, needed, fun known => notDone (List.mem_cons_of_mem _ known), ?_⟩
          intro taken
          rcases List.mem_cons.mp taken with equal | later
          · exact notDone (equal ▸ List.mem_cons_self)
          · exact notTaken later

/-- What is taken stands first among the items that wait and are ready. -/
theorem take_first {bound : Nat} {waiting done before after : List α} {item other : α}
    (split : take needs bound waiting done = before ++ item :: after) (waits : other ∈ waiting)
    (fresh : other ∉ before) (ready : ∀ need ∈ needs other, need ∈ before ∨ need ∈ done) :
    other = item ∨ [item, other].Sublist waiting := by
  induction bound generalizing waiting done before with
  | zero => cases before <;> cases split
  | succ bound induction =>
      cases found : waiting.find? (isReady needs done) with
      | none =>
          rw [take_of_none found] at split
          cases before <;> cases split
      | some first =>
          rw [take_of_found found] at split
          cases before with
          | nil =>
              rcases List.cons.inj split with ⟨rfl, _⟩
              rcases List.find?_eq_some_iff_append.mp found with ⟨_, front, back, rfl, skipped⟩
              have isReady : isReady needs done other = true := by
                simpa [isReady] using ready
              rcases List.mem_append.mp waits with inFront | rest
              · exact absurd isReady (by simpa using skipped other inFront)
              rcases List.mem_cons.mp rest with same | inBack
              · exact .inl same
              · apply Or.inr
                exact ((List.singleton_sublist.mpr inBack).cons_cons first).trans
                  (List.sublist_append_right front _)
          | cons head tail =>
              rcases List.cons.inj split with ⟨rfl, later⟩
              have readyLater : ∀ need ∈ needs other, need ∈ tail ∨ need ∈ first :: done := by
                intro need needed
                rcases ready need needed with earlier | known
                · rcases List.mem_cons.mp earlier with same | inTail
                  · exact .inr (same ▸ List.mem_cons_self)
                  · exact .inl inTail
                · exact .inr (List.mem_cons_of_mem _ known)
              have stillWaits : other ∈ waiting.erase first :=
                (List.mem_erase_of_ne (List.ne_of_not_mem_cons fresh)).mpr waits
              apply (induction later stillWaits (List.not_mem_of_not_mem_cons fresh)
                readyLater).imp_right
              exact fun earlier => earlier.trans List.erase_sublist

/-- More steps than items make no difference. -/
theorem take_of_enough {bound : Nat} {waiting done : List α}
    (enough : waiting.length ≤ bound) :
    take needs bound waiting done = take needs waiting.length waiting done := by
  induction bound generalizing waiting done with
  | zero => rw [Nat.le_zero.mp enough]
  | succ bound induction =>
      cases found : waiting.find? (isReady needs done) with
      | none => rw [take_of_none found, take_of_none found]
      | some item =>
          have listed := List.mem_of_find?_eq_some found
          have shorter := List.length_erase_of_mem listed
          obtain ⟨less, length⟩ := Nat.exists_eq_add_one.mpr (List.length_pos_of_mem listed)
          rw [length, Nat.add_sub_cancel] at shorter
          rw [length, take_of_found found, take_of_found found, induction (by omega), shorter]

/-! ## The whole order -/

theorem order_inOrder (items : List α) :
    InOrder needs [] (order needs items) :=
  take_inOrder items.length items []

theorem order_first {items before after : List α} {item other : α}
    (split : order needs items = before ++ item :: after) (listed : other ∈ items)
    (fresh : other ∉ before) (ready : ∀ need ∈ needs other, need ∈ before) :
    other = item ∨ [item, other].Sublist items :=
  take_first split listed fresh fun need needed => .inl (ready need needed)

theorem nodup_order {items : List α} (nodup : items.Nodup) :
    (order needs items).Nodup :=
  nodup_take nodup

/-- Some item needs itself, perhaps through others. -/
def HasCircle (needs : α → List α) (items : List α) : Prop :=
  ∃ item ∈ items, Relation.TransGen (fun source target => target ∈ needs source) item item

omit [BEq α] [LawfulBEq α] in
/-- Items that stand in order need each other in no circle. -/
theorem InOrder.no_circle {items order : List α} (ordered : InOrder needs [] order)
    (listed : ∀ item ∈ items, item ∈ order) : ¬ HasCircle needs items := by
  rintro ⟨item, member, circle⟩
  obtain ⟨before, after, split, fresh⟩ := List.eq_append_cons_of_mem (listed item member)
  exact fresh (ordered.reached_before circle split)

/-- An item needs one, perhaps through others, that needs itself. -/
def LeadsToCircle (needs : α → List α) (item : α) : Prop :=
  ∃ other, Relation.ReflTransGen (fun source target => target ∈ needs source) item other ∧
    Relation.TransGen (fun source target => target ∈ needs source) other other

omit [BEq α] [LawfulBEq α] in
/-- Items of which each needs another one lead to a circle, when they are finitely many. -/
theorem leadsToCircle_of_stuck {items : List α} {stuck : α → Prop}
    (listed : ∀ item, stuck item → item ∈ items)
    (held : ∀ item, stuck item → ∃ need ∈ needs item, stuck need) {item : α}
    (isStuck : stuck item) : LeadsToCircle needs item := by
  by_contra free
  let before (left right : {item // item ∈ items ∧ ¬ LeadsToCircle needs item}) : Prop :=
    Relation.TransGen (fun source target => target ∈ needs source) right.1 left.1
  have irreflexive : Std.Irrefl before := ⟨fun only circle => only.2.2 ⟨only.1, .refl, circle⟩⟩
  have transitive : IsTrans _ before := ⟨fun _ _ _ first second => second.trans first⟩
  have finite : Finite {item // item ∈ items ∧ ¬ LeadsToCircle needs item} :=
    ((List.finite_toSet items).subset fun _ both => both.1).to_subtype
  have wellFounded : WellFounded before := Finite.wellFounded_of_trans_of_irrefl before
  rcases wellFounded.has_min {item | stuck item.1} ⟨⟨item, listed item isStuck, free⟩, isStuck⟩
    with ⟨first, firstStuck, least⟩
  rcases held first.1 firstStuck with ⟨need, needed, needStuck⟩
  have needFree : ¬ LeadsToCircle needs need := by
    rintro ⟨other, path, circle⟩
    exact first.2.2 ⟨other, .head needed path, circle⟩
  exact least ⟨need, listed need needStuck, needFree⟩ needStuck (.single needed)

/-- Exactly the items that lead to no circle are put in order. -/
theorem mem_order_iff {items : List α}
    (inside : ∀ item ∈ items, ∀ need ∈ needs item, need ∈ items) {item : α} :
    item ∈ order needs items ↔ item ∈ items ∧ ¬ LeadsToCircle needs item := by
  constructor
  · intro member
    refine ⟨mem_of_mem_order member, ?_⟩
    rintro ⟨other, path, circle⟩
    have reached : other ∈ order needs items := by
      rcases Relation.reflTransGen_iff_eq_or_transGen.mp path with rfl | further
      · exact member
      · rcases List.append_of_mem member with ⟨before, after, split⟩
        rw [split]
        exact List.mem_append_left _ ((order_inOrder items).reached_before further split)
    rcases List.eq_append_cons_of_mem reached with ⟨before, after, split, fresh⟩
    exact fresh ((order_inOrder items).reached_before circle split)
  · rintro ⟨member, free⟩
    by_contra skipped
    have listed : ∀ other, (other ∈ items ∧ other ∉ order needs items) → other ∈ items :=
      fun _ both => both.1
    have held : ∀ other, (other ∈ items ∧ other ∉ order needs items) →
        ∃ need ∈ needs other, need ∈ items ∧ need ∉ order needs items := by
      rintro other ⟨otherListed, otherSkipped⟩
      rcases exists_need_of_not_mem_take (Nat.le_refl _) otherListed otherSkipped with
        ⟨need, needed, _, needSkipped⟩
      exact ⟨need, needed, inside other otherListed need needed, needSkipped⟩
    exact free (leadsToCircle_of_stuck listed held ⟨member, skipped⟩)

theorem mem_order {items : List α}
    (inside : ∀ item ∈ items, ∀ need ∈ needs item, need ∈ items)
    (noCircle : ¬ HasCircle needs items) {item : α} (member : item ∈ items) :
    item ∈ order needs items := by
  refine (mem_order_iff inside).mpr ⟨member, ?_⟩
  rintro ⟨other, path, circle⟩
  have listed : other ∈ items := by
    clear circle
    induction path with
    | refl => exact member
    | tail _ needed induction => exact inside _ induction _ needed
  exact noCircle ⟨other, listed, circle⟩

/-! ## Items and their places -/

/-- Items stand at places, each at one, and need what stands at the places that theirs need. -/
structure Placed {β : Type} (item : β → α) (places : List β) (needs : α → List α)
    (placeNeeds : β → List β) : Prop where
  apart : ∀ left ∈ places, ∀ right ∈ places, item left = item right → left = right
  inside : ∀ place ∈ places, ∀ need ∈ placeNeeds place, need ∈ places
  needs_iff : ∀ place ∈ places, ∀ need,
    need ∈ needs (item place) ↔ need ∈ (placeNeeds place).map item

namespace Placed

variable {β : Type} [BEq β] [LawfulBEq β] {item : β → α} {places : List β}
  {placeNeeds : β → List β} (placed : Placed item places needs placeNeeds)

include placed

omit [BEq α] [LawfulBEq α] [BEq β] [LawfulBEq β] in
theorem mem_map_iff {listed : List β} (within : ∀ place ∈ listed, place ∈ places) {place : β}
    (isPlace : place ∈ places) : item place ∈ listed.map item ↔ place ∈ listed := by
  constructor
  · intro member
    rcases List.mem_map.mp member with ⟨other, otherListed, same⟩
    exact placed.apart other (within other otherListed) place isPlace same ▸ otherListed
  · exact List.mem_map_of_mem

theorem isReady_map {done : List β} (doneWithin : ∀ place ∈ done, place ∈ places) {place : β}
    (isPlace : place ∈ places) :
    isReady needs (done.map item) (item place) = isReady placeNeeds done place := by
  rw [Bool.eq_iff_iff]
  simp only [isReady, List.all_eq_true, List.contains_iff_mem, placed.needs_iff place isPlace]
  constructor
  · intro ready need needed
    rw [← placed.mem_map_iff doneWithin (placed.inside place isPlace need needed)]
    exact ready _ (List.mem_map_of_mem needed)
  · intro ready need needed
    rcases List.mem_map.mp needed with ⟨needPlace, placeNeeded, rfl⟩
    exact List.mem_map_of_mem (ready needPlace placeNeeded)

theorem find?_map {waiting done : List β} (waitingWithin : ∀ place ∈ waiting, place ∈ places)
    (doneWithin : ∀ place ∈ done, place ∈ places) :
    (waiting.map item).find? (isReady needs (done.map item)) =
      (waiting.find? (isReady placeNeeds done)).map item := by
  induction waiting with
  | nil => rfl
  | cons head tail induction =>
      rw [List.forall_mem_cons] at waitingWithin
      rw [List.map_cons, List.find?_cons, List.find?_cons, induction waitingWithin.2,
        placed.isReady_map doneWithin waitingWithin.1]
      cases isReady placeNeeds done head <;> rfl

theorem erase_map {waiting : List β} (waitingWithin : ∀ place ∈ waiting, place ∈ places)
    {place : β} (isPlace : place ∈ places) :
    (waiting.map item).erase (item place) = (waiting.erase place).map item := by
  induction waiting with
  | nil => rfl
  | cons head tail induction =>
      rw [List.forall_mem_cons] at waitingWithin
      by_cases same : head = place
      · simp [same]
      · have different : item head ≠ item place := fun equal =>
          same (placed.apart head waitingWithin.1 place isPlace equal)
        rw [List.map_cons, List.erase_cons_tail (by simpa using different),
          List.erase_cons_tail (by simpa using same), List.map_cons, induction waitingWithin.2]

theorem take_map (bound : Nat) {waiting done : List β}
    (waitingWithin : ∀ place ∈ waiting, place ∈ places)
    (doneWithin : ∀ place ∈ done, place ∈ places) :
    take needs bound (waiting.map item) (done.map item) =
      (take placeNeeds bound waiting done).map item := by
  induction bound generalizing waiting done with
  | zero => rfl
  | succ bound induction =>
      have same := placed.find?_map waitingWithin doneWithin
      cases found : waiting.find? (isReady placeNeeds done) with
      | none =>
          rw [found] at same
          rw [take_of_none found, take_of_none same, List.map_nil]
      | some first =>
          rw [found] at same
          have isPlace := waitingWithin first (List.mem_of_find?_eq_some found)
          have stillWithin : ∀ place ∈ waiting.erase first, place ∈ places :=
            fun place member => waitingWithin place (List.mem_of_mem_erase member)
          have later := induction stillWithin (List.forall_mem_cons.mpr ⟨isPlace, doneWithin⟩)
          rw [take_of_found found, take_of_found same, placed.erase_map waitingWithin isPlace,
            List.map_cons, ← later, List.map_cons]

/-- Putting the places in order puts the items in order. -/
theorem order_map : order needs (places.map item) = (order placeNeeds places).map item := by
  rw [order, order, List.length_map]
  exact placed.take_map places.length (fun _ member => member)
    fun _ none => absurd none List.not_mem_nil

end Placed

end StaticInjection.Schedule
