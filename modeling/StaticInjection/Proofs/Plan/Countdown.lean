import Mathlib.Order.Defs.LinearOrder
import StaticInjection.Plan.Countdown
import StaticInjection.Proofs.Order.Ascending
import StaticInjection.Proofs.Plan.Schedule

/-! # Counting down

The counters of a countdown always stand at the number of dependencies that are open, so
none goes below zero, and the nodes at zero are those that a schedule calls ready. So a
countdown is a schedule of the nodes by their keys: it holds each node that leads to no
cycle, after all that the node depends on, and always the least one that is ready. -/

namespace StaticInjection.Countdown

variable {κ : Type u} [LinearOrder κ]

/-! ## The order of keys -/

/-- By key, and by number where keys are the same. -/
def Before (left right : κ × Nat) : Prop :=
  left.1 < right.1 ∨ left.1 = right.1 ∧ left.2 < right.2

theorem Before.asymm (left right : κ × Nat) (before : Before left right) : ¬ Before right left := by
  rintro (greater | ⟨same, greater⟩)
  · rcases before with less | ⟨same, _⟩
    · exact lt_asymm less greater
    · exact greater.ne same.symm
  · rcases before with less | ⟨_, less⟩
    · exact less.ne same.symm
    · omega

theorem atMost_iff {left right : κ × Nat} :
    atMost left right = true ↔ Before left right ∨ left = right := by
  rw [Prod.ext_iff]
  simp only [atMost, Before, Bool.or_eq_true, Bool.and_eq_true, Bool.not_eq_true',
    decide_eq_true_eq, decide_eq_false_iff_not, not_lt]
  constructor
  · rintro (less | ⟨noGreater, atMost⟩)
    · exact .inl (.inl less)
    · rcases noGreater.lt_or_eq with less | same
      · exact .inl (.inl less)
      · rcases Nat.lt_or_eq_of_le atMost with less | equal
        · exact .inl (.inr ⟨same, less⟩)
        · exact .inr ⟨same, equal⟩
  · rintro ((less | ⟨same, less⟩) | ⟨same, equal⟩)
    · exact .inl less
    · exact .inr ⟨same.le, less.le⟩
    · exact .inr ⟨same.le, equal.le⟩

theorem atMost_total (left right : κ × Nat) :
    atMost left right = true ∨ atMost right left = true := by
  rw [atMost_iff, atMost_iff, Prod.ext_iff, Prod.ext_iff, Before, Before]
  rcases lt_trichotomy left.1 right.1 with less | same | greater
  · exact .inl (.inl (.inl less))
  · rcases Nat.lt_trichotomy left.2 right.2 with less | equal | greater
    · exact .inl (.inl (.inr ⟨same, less⟩))
    · exact .inl (.inr ⟨same, equal⟩)
    · exact .inr (.inl (.inr ⟨same.symm, greater⟩))
  · exact .inr (.inl (.inl greater))

theorem atMost_trans (left middle right : κ × Nat) (first : atMost left middle = true)
    (second : atMost middle right = true) : atMost left right = true := by
  rw [atMost_iff] at first second ⊢
  rcases second with second | rfl
  · rcases first with first | rfl
    · left
      rcases first with first | ⟨sameFirst, first⟩ <;>
        rcases second with second | ⟨sameSecond, second⟩
      · exact .inl (first.trans second)
      · exact .inl (sameSecond ▸ first)
      · exact .inl (sameFirst ▸ second)
      · exact .inr ⟨sameFirst.trans sameSecond, first.trans second⟩
    · exact .inl second
  · exact first

/-- Lists of different entries, sorted, have each entry before the next ones. -/
theorem sorted_before {entries : List (κ × Nat)} (nodup : entries.Nodup)
    (sorted : entries.Pairwise (atMost · ·)) : entries.Pairwise Before := by
  refine (sorted.and nodup).imp fun {left right} ⟨upTo, different⟩ => ?_
  exact (atMost_iff.mp upTo).resolve_right different

theorem insertBy_before {entry : κ × Nat} {entries : List (κ × Nat)}
    (ordered : entries.Pairwise Before) (fresh : entry ∉ entries) :
    (insertBy atMost entry entries).Pairwise Before := by
  have total : Std.Total fun left right : κ × Nat => atMost left right = true := ⟨atMost_total⟩
  have transitive : IsTrans (κ × Nat) fun left right => atMost left right = true := ⟨atMost_trans⟩
  have perm := List.perm_orderedInsert (atMost · ·) entry entries
  rw [insertBy_eq]
  apply sorted_before
  · rw [perm.nodup_iff, List.nodup_cons]
    refine ⟨fresh, ordered.imp fun {left right} before equal => ?_⟩
    subst equal
    exact before.asymm _ _ before
  · apply List.Pairwise.orderedInsert
    exact ordered.imp fun before => atMost_iff.mpr (.inl before)

/-! ## What is open -/

/-- The nodes that a node depends on. -/
def needs (dependencies : List (Nat × Nat)) (node : Nat) : List Nat :=
  (dependencies.filter (·.1 == node)).map (·.2)

/-- How many dependencies of a node are not met by what is done. -/
def openCount (dependencies : List (Nat × Nat)) (done : List Nat) (node : Nat) : Nat :=
  dependencies.countP fun dependency => dependency.1 == node && !done.contains dependency.2

variable {count : Nat} {dependencies : List (Nat × Nat)} {included : Nat → Bool} {key : Nat → κ}

@[simp] theorem mem_needs {node need : Nat} :
    need ∈ needs dependencies node ↔ (node, need) ∈ dependencies := by
  simp [needs]

@[simp] theorem mem_dependents {node need : Nat} :
    node ∈ dependents dependencies need ↔ (node, need) ∈ dependencies := by
  simp [dependents]

theorem isReady_iff {done : List Nat} {node : Nat} :
    Schedule.isReady (needs dependencies) done node = true ↔
      openCount dependencies done node = 0 := by
  simp only [Schedule.isReady, List.all_eq_true, mem_needs, openCount, List.countP_eq_zero,
    Bool.and_eq_true, beq_iff_eq, Bool.not_eq_true', not_and, Bool.not_eq_false, Prod.forall]
  constructor
  · rintro ready _ need depends rfl
    exact ready need depends
  · exact fun settled need depends => settled node need depends rfl

/-- Taking a node meets the dependencies on it. -/
theorem openCount_cons {done : List Nat} {taken : Nat} (fresh : taken ∉ done) (node : Nat) :
    openCount dependencies done node =
      openCount dependencies (taken :: done) node + (dependents dependencies taken).count node := by
  unfold openCount dependents
  induction dependencies with
  | nil => rfl
  | cons dependency rest induction =>
      rw [List.countP_cons, List.countP_cons, List.filter_cons, induction]
      by_cases isNode : dependency.1 = node
      · by_cases isTaken : dependency.2 = taken
        · simp [isNode, isTaken, fresh]
          omega
        · simp [isNode, isTaken]
          omega
      · by_cases isTaken : dependency.2 = taken <;> simp [isNode, isTaken]

/-! ## States -/

/-- A node is before another one, by their keys. -/
def Ahead (key : Nat → κ) (left right : Nat) : Prop :=
  Before (key left, left) (key right, right)

/-- The state with some counters, where the nodes that are not in the order yet are given by their
keys. -/
def standing (count : Nat) (key : Nat → κ) (counter : Nat → Nat) (waiting : List Nat) :
    Countdown κ where
  pending := (List.range count).map counter
  ready := (waiting.filter (counter · == 0)).map fun node => (key node, node)

theorem modify_counters (counter : Nat → Nat) (node : Nat) :
    ((List.range count).map counter).modify node (· + 1) =
      (List.range count).map fun other => counter other + if node = other then 1 else 0 := by
  apply List.ext_getElem (by simp)
  intro position _ _
  rw [List.getElem_modify]
  split <;> simp_all

theorem set_counters {counter later : Nat → Nat} {node : Nat}
    (same : ∀ other, other ≠ node → later other = counter other) :
    ((List.range count).map counter).set node (later node) = (List.range count).map later := by
  apply List.ext_getElem (by simp)
  intro position _ _
  rw [List.getElem_set]
  split
  · rename_i equal
    simp [equal]
  · rename_i different
    simp [same position (Ne.symm different)]

theorem counters_eq : counters count dependencies =
    (List.range count).map (openCount dependencies []) := by
  have counted : ∀ counter : Nat → Nat,
      dependencies.foldl (fun pending dependency => pending.modify dependency.1 (· + 1))
        ((List.range count).map counter) =
      (List.range count).map fun other => counter other + openCount dependencies [] other := by
    induction dependencies with
    | nil => exact fun counter => rfl
    | cons dependency rest induction =>
        intro counter
        rw [List.foldl_cons, modify_counters, induction]
        refine List.map_congr_left fun other _ => ?_
        by_cases same : dependency.1 = other
        · simp [openCount, same]
          omega
        · simp [openCount, same]
  have zeros : List.replicate count 0 = (List.range count).map fun _ => 0 := by simp
  rw [counters, zeros, counted]
  simp

omit [LinearOrder κ] in
theorem mem_ready {waiting : List Nat} {holds : Nat → Bool} {value : κ} {node : Nat} :
    (value, node) ∈ (waiting.filter holds).map (fun node => (key node, node)) ↔
      value = key node ∧ node ∈ waiting ∧ holds node = true := by
  rw [List.mem_map]
  constructor
  · rintro ⟨other, member, equal⟩
    cases equal
    exact ⟨rfl, List.mem_filter.mp member⟩
  · rintro ⟨rfl, member⟩
    exact ⟨node, List.mem_filter.mpr member, rfl⟩

section Meeting

variable {waiting : List Nat} (ordered : waiting.Pairwise (Ahead key))

include ordered

theorem ready_before (holds : Nat → Bool) :
    ((waiting.filter holds).map fun node => (key node, node)).Pairwise Before :=
  List.pairwise_map.mpr (ordered.filter holds)

/-- A node that waits is ready from when its last dependency is met. -/
theorem meet?_standing (counter later : Nat → Nat) {node : Nat} (inside : node < count)
    (listed : node ∈ waiting)
    (one : ∀ other, counter other = later other + if node = other then 1 else 0) :
    meet? key (standing count key counter waiting) node =
      some (standing count key later waiting) := by
  have counterNode : counter node = later node + 1 := by simp [one node]
  have counterOther : ∀ other, other ≠ node → later other = counter other := by
    intro other different
    simp [one other, Ne.symm different]
  have found : ((List.range count).map counter)[node]? = some (later node + 1) := by
    simp [inside, counterNode]
  simp only [meet?, standing, found, set_counters counterOther, Option.some.injEq,
    Countdown.mk.injEq, true_and]
  split
  · rename_i none
    have notReady : (key node, node) ∉
        (waiting.filter (counter · == 0)).map fun node => (key node, node) := by
      simp [counterNode]
    apply eq_of_ordered Before.asymm (insertBy_before (ready_before ordered _) notReady)
      (ready_before ordered _)
    rintro ⟨value, other⟩
    rw [insertBy_eq, List.mem_orderedInsert, mem_ready, mem_ready, Prod.mk.injEq]
    by_cases same : other = node
    · simp [same, counterNode, none, listed]
    · simp [same, counterOther other same]
  · rename_i more
    congr 1
    apply List.filter_congr
    intro other _
    by_cases same : other = node
    · simp [same, counterNode, more]
    · rw [counterOther other same]

theorem meetAll_standing (later : Nat → Nat) {nodes : List Nat}
    (inside : ∀ node ∈ nodes, node < count ∧ node ∈ waiting) :
    nodes.foldlM (meet? key)
        (standing count key (fun other => later other + nodes.count other) waiting) =
      some (standing count key later waiting) := by
  induction nodes with
  | nil => rfl
  | cons node rest induction =>
      rw [List.forall_mem_cons] at inside
      have met := meet?_standing ordered (fun other => later other + (node :: rest).count other)
        (fun other => later other + rest.count other) inside.1.1 inside.1.2
        fun other => by simp [List.count_cons, Nat.add_assoc]
      rw [List.foldlM_cons, met]
      exact induction inside.2

end Meeting

/-! ## Runs -/

theorem filter_of_find? {passes : Nat → Bool} {nodes : List Nat} {node : Nat}
    (found : nodes.find? passes = some node) :
    nodes.filter passes = node :: (nodes.erase node).filter passes := by
  rcases List.find?_eq_some_iff_append.mp found with ⟨passed, before, after, rfl, failed⟩
  have fresh : node ∉ before := fun member => by simpa [passed] using failed node member
  have silent : before.filter passes = [] := by
    rw [List.filter_eq_nil_iff]
    intro other member
    simpa using failed other member
  rw [List.erase_append_right _ fresh, List.erase_cons_head, List.filter_append,
    List.filter_append, silent, List.filter_cons_of_pos passed, List.nil_append, List.nil_append]

/-- The nodes that wait, by their keys, when some are done: all others that are included. What is
done depends on nothing else. -/
structure Waits (count : Nat) (dependencies : List (Nat × Nat)) (included : Nat → Bool)
    (key : Nat → κ) (done waiting : List Nat) : Prop where
  ordered : waiting.Pairwise (Ahead key)
  mem_iff : ∀ node, node ∈ waiting ↔ node < count ∧ included node = true ∧ node ∉ done
  closed : ∀ node ∈ done, ∀ need, (node, need) ∈ dependencies → need ∈ done

/-- Both ends of each dependency are included nodes. -/
def Between (count : Nat) (dependencies : List (Nat × Nat)) (included : Nat → Bool) : Prop :=
  ∀ dependency ∈ dependencies, (dependency.1 < count ∧ included dependency.1 = true) ∧
    dependency.2 < count ∧ included dependency.2 = true

namespace Waits

variable {done waiting : List Nat} (waits : Waits count dependencies included key done waiting)

include waits

theorem nodup : waiting.Nodup := by
  refine waits.ordered.imp fun {left right} ahead equal => ?_
  subst equal
  exact Before.asymm _ _ ahead ahead

variable {node : Nat}
  (found : waiting.find? (Schedule.isReady (needs dependencies) done) = some node)

include found

theorem fresh : node ∉ done :=
  ((waits.mem_iff node).mp (List.mem_of_find?_eq_some found)).2.2

omit [LinearOrder κ] waits in
theorem met {need : Nat} (depends : (node, need) ∈ dependencies) : need ∈ done := by
  have ready := List.find?_some found
  simp only [Schedule.isReady, List.all_eq_true, List.contains_iff_mem, mem_needs] at ready
  exact ready need depends

/-- What depends on the node that is taken waits for it. -/
theorem dependent_waits (between : Between count dependencies included) {other : Nat}
    (depends : (other, node) ∈ dependencies) : other < count ∧ other ∈ waiting.erase node := by
  have isOther := (between _ depends).1
  have fresh := waits.fresh found
  have notDone : other ∉ done := fun member => fresh (waits.closed other member node depends)
  have different : other ≠ node := by
    rintro rfl
    exact fresh (met found depends)
  have listed := (waits.mem_iff other).mpr ⟨isOther.1, isOther.2, notDone⟩
  exact ⟨isOther.1, (List.mem_erase_of_ne different).mpr listed⟩

theorem take : Waits count dependencies included key (node :: done) (waiting.erase node) where
  ordered := waits.ordered.sublist List.erase_sublist
  mem_iff other := by
    rw [waits.nodup.mem_erase_iff, waits.mem_iff, List.mem_cons]
    tauto
  closed other member need depends := by
    rcases List.mem_cons.mp member with rfl | earlier
    · exact List.mem_cons_of_mem _ (met found depends)
    · exact List.mem_cons_of_mem _ (waits.closed other earlier need depends)

end Waits

/-- The counters stand at what is open, so the run takes what the schedule takes. -/
theorem run?_standing (between : Between count dependencies included) {bound : Nat}
    {done waiting : List Nat} (waits : Waits count dependencies included key done waiting)
    (enough : waiting.length ≤ bound) :
    run? (dependents dependencies) key bound
        (standing count key (openCount dependencies done) waiting) =
      some (Schedule.take (needs dependencies) bound waiting done) := by
  have sameReady (done : List Nat) : (fun node => openCount dependencies done node == 0) =
      Schedule.isReady (needs dependencies) done := by
    funext node
    rw [Bool.eq_iff_iff, isReady_iff, beq_iff_eq]
  induction bound generalizing done waiting with
  | zero =>
      have empty : waiting = [] := List.length_eq_zero_iff.mp (by omega)
      simp [run?, standing, empty, Schedule.take]
  | succ bound induction =>
      cases found : waiting.find? (Schedule.isReady (needs dependencies) done) with
      | none =>
          have empty : waiting.filter (Schedule.isReady (needs dependencies) done) = [] := by
            rw [List.filter_eq_nil_iff]
            exact List.find?_eq_none.mp found
          simp [run?, standing, sameReady, empty, Schedule.take_of_none found]
      | some node =>
          have shorter : (waiting.erase node).length ≤ bound := by
            rw [List.length_erase_of_mem (List.mem_of_find?_eq_some found)]
            omega
          have ready : (standing count key (openCount dependencies done) waiting).ready =
              (key node, node) ::
                (standing count key (openCount dependencies done) (waiting.erase node)).ready := by
            simp only [standing, sameReady, filter_of_find? found, List.map_cons]
          have counted : openCount dependencies done = fun other =>
              openCount dependencies (node :: done) other +
                (dependents dependencies node).count other :=
            funext (openCount_cons (waits.fresh found))
          have met := meetAll_standing (waits.take found).ordered
            (openCount dependencies (node :: done)) fun other depends =>
              waits.dependent_waits found between (mem_dependents.mp depends)
          rw [← counted] at met
          have rest : { standing count key (openCount dependencies done) waiting with
              ready := (standing count key (openCount dependencies done)
                (waiting.erase node)).ready } =
              standing count key (openCount dependencies done) (waiting.erase node) := rfl
          simp only [run?, ready, rest, met, Option.bind_some, induction (waits.take found) shorter,
            Option.map_some, Schedule.take_of_found found]

/-! ## The whole order -/

/-- The included nodes, by their keys. -/
def inKeyOrder (count : Nat) (included : Nat → Bool) (key : Nat → κ) : List Nat :=
  sortBy (fun left right => atMost (key left, left) (key right, right))
    ((List.range count).filter included)

theorem mem_inKeyOrder {node : Nat} :
    node ∈ inKeyOrder count included key ↔ node < count ∧ included node = true := by
  rw [inKeyOrder, mem_sortBy, List.mem_filter, List.mem_range]

theorem inKeyOrder_ahead : (inKeyOrder count included key).Pairwise (Ahead key) := by
  have sorted := pairwise_sortBy
    (fun left right => atMost_total (key left, left) (key right, right))
    (fun left middle right => atMost_trans (key left, left) (key middle, middle) (key right, right))
    ((List.range count).filter included)
  have perm : (inKeyOrder count included key).Perm ((List.range count).filter included) :=
    sortBy_perm _
  have nodup := perm.nodup_iff.mpr (List.nodup_range.filter _)
  refine (sorted.and nodup).imp fun {left right} ⟨upTo, different⟩ => ?_
  exact (atMost_iff.mp upTo).resolve_right fun same => different (Prod.ext_iff.mp same).2

theorem start_eq : start count dependencies included key =
    standing count key (openCount dependencies []) (inKeyOrder count included key) := by
  simp only [start, standing, counters_eq, Countdown.mk.injEq, true_and]
  apply eq_of_ordered Before.asymm _ (ready_before inKeyOrder_ahead _)
  · rintro ⟨value, node⟩
    simp only [mem_sortBy, mem_ready, mem_inKeyOrder, List.mem_range, Bool.and_eq_true, beq_iff_eq]
    constructor
    · rintro ⟨rfl, inside, isIncluded, zero⟩
      exact ⟨rfl, ⟨inside, isIncluded⟩, by simpa [inside] using zero⟩
    · rintro ⟨rfl, ⟨inside, isIncluded⟩, zero⟩
      exact ⟨rfl, inside, isIncluded, by simpa [inside] using zero⟩
  · apply sorted_before _ (pairwise_sortBy atMost_total atMost_trans _)
    rw [(sortBy_perm _).nodup_iff]
    exact (List.nodup_range.filter _).map fun left right same => (Prod.ext_iff.mp same).2

theorem waits_start (count : Nat) (dependencies : List (Nat × Nat)) (included : Nat → Bool)
    (key : Nat → κ) :
    Waits count dependencies included key [] (inKeyOrder count included key) where
  ordered := inKeyOrder_ahead
  mem_iff node := by simp [mem_inKeyOrder]
  closed _ none := absurd none List.not_mem_nil

/-- A countdown does not fail, and gives the schedule of the nodes by their keys. -/
theorem order?_eq (between : Between count dependencies included) :
    order? count dependencies included key =
      some (Schedule.order (needs dependencies) (inKeyOrder count included key)) := by
  have fewer : (inKeyOrder count included key).length ≤ count := by
    rw [inKeyOrder, (sortBy_perm _).length_eq]
    exact (List.length_filter_le _ _).trans_eq List.length_range
  rw [order?, if_pos, start_eq, run?_standing between (waits_start ..) fewer,
    Schedule.take_of_enough fewer]
  · rfl
  · -- Both ends of a dependency are below the count.
    rw [List.all_eq_true]
    intro dependency listed
    simpa using ⟨(between dependency listed).1.1, (between dependency listed).2.1⟩

def Depends (dependencies : List (Nat × Nat)) (node need : Nat) : Prop :=
  (node, need) ∈ dependencies

/-- A node depends, perhaps through others, on one that depends on itself. -/
def LeadsToCycle (dependencies : List (Nat × Nat)) (node : Nat) : Prop :=
  ∃ other, Relation.ReflTransGen (Depends dependencies) node other ∧
    Relation.TransGen (Depends dependencies) other other

theorem leadsToCircle_iff {node : Nat} :
    Schedule.LeadsToCircle (needs dependencies) node ↔ LeadsToCycle dependencies node := by
  have same : (fun source target => target ∈ needs dependencies source) = Depends dependencies := by
    funext source target
    exact propext mem_needs
  rw [Schedule.LeadsToCircle, same]
  rfl

/-- Where all dependencies are between included nodes, however often they are repeated, a countdown
ends without a counter that would go below zero. Its order is the schedule of the included nodes by
their keys: it holds each of them once that does not lead to a cycle, and no others, each comes
after all that it depends on, and it has the least key of all that could come next. -/
theorem free_nodes_ordered (count : Nat) (dependencies : List (Nat × Nat)) (included : Nat → Bool)
    (key : Nat → κ) (between : Between count dependencies included) :
    let order := Schedule.order (needs dependencies) (inKeyOrder count included key)
    order? count dependencies included key = some order ∧ order.Nodup ∧
      (∀ node, node ∈ order ↔
        node < count ∧ included node = true ∧ ¬ LeadsToCycle dependencies node) ∧
      ∀ before node after, order = before ++ node :: after →
        (∀ need, (node, need) ∈ dependencies → need ∈ before) ∧
          ∀ other < count, included other = true → other ∉ before → other ≠ node →
            (∀ need, (other, need) ∈ dependencies → need ∈ before) →
              key node < key other ∨ key node = key other ∧ node < other := by
  intro order
  have nodup : (inKeyOrder count included key).Nodup :=
    (waits_start count dependencies included key).nodup
  have inside : ∀ node ∈ inKeyOrder count included key, ∀ need ∈ needs dependencies node,
      need ∈ inKeyOrder count included key := by
    intro node _ need needed
    exact mem_inKeyOrder.mpr (between _ (mem_needs.mp needed)).2
  refine ⟨order?_eq between, Schedule.nodup_order nodup, ?_, ?_⟩
  · intro node
    rw [Schedule.mem_order_iff inside, mem_inKeyOrder, leadsToCircle_iff, and_assoc]
  · intro before node after split
    constructor
    · intro need depends
      have ordered : Schedule.InOrder (needs dependencies) [] (before ++ node :: after) :=
        split ▸ Schedule.order_inOrder _
      exact (ordered.needs_before need (mem_needs.mpr depends)).resolve_right List.not_mem_nil
    · intro other below isIncluded fresh different met
      have listed : other ∈ inKeyOrder count included key := mem_inKeyOrder.mpr ⟨below, isIncluded⟩
      have first := Schedule.order_first split listed fresh fun need needed =>
        met need (mem_needs.mp needed)
      have ahead := inKeyOrder_ahead.sublist (first.resolve_left different)
      exact List.rel_of_pairwise_cons ahead List.mem_cons_self

/-- Two nodes depend on a third, one of them twice. Two others depend on each other, and one more on
these. -/
def sampleLinks : List (Nat × Nat) := [(0, 2), (0, 2), (1, 2), (3, 4), (4, 3), (5, 3)]

theorem sampleLinks_ordered :
    Between 7 sampleLinks (· != 6) ∧
      order? 7 sampleLinks (· != 6) (10 - ·) = some [2, 1, 0] ∧
      (∀ node, node ∈ [2, 1, 0] ↔ node < 7 ∧ (node != 6) = true ∧ ¬ LeadsToCycle sampleLinks node) ∧
      ∀ other < 7, (other != 6) = true → other ∉ [2] → other ≠ 1 →
        (∀ need, (other, need) ∈ sampleLinks → need ∈ [2]) →
          10 - 1 < 10 - other ∨ 10 - 1 = 10 - other ∧ 1 < other := by
  have between : Between 7 sampleLinks (· != 6) := by
    unfold Between
    decide
  rcases free_nodes_ordered 7 sampleLinks (· != 6) (10 - ·) between with
    ⟨counted, _, members, least⟩
  have order : Schedule.order (needs sampleLinks) (inKeyOrder 7 (· != 6) (10 - ·)) = [2, 1, 0] := by
    decide
  rw [order] at counted members least
  exact ⟨between, counted, members, (least [2] 1 [0] rfl).2⟩

end StaticInjection.Countdown
