import StaticInjection.Graph.Component
import StaticInjection.Proofs.Graph.Component

/-! # The marks of the search for components

The marks say which nodes wait and which are in components. The nodes that wait stand by their
numbers, and so do those on the way: a component takes the waiting nodes from one number on. -/

namespace StaticInjection

theorem takeThrough_append {before after : List Nat} {item : Nat} (fresh : item ∉ before) :
    takeThrough item (before ++ item :: after) = (before ++ [item], after) := by
  induction before with
  | nil => simp [takeThrough]
  | cons head rest induction =>
      rw [List.mem_cons, not_or] at fresh
      simp [takeThrough, Ne.symm fresh.1, induction fresh.2]

namespace ComponentSearch

variable {graph : Adjacency} {search later : ComponentSearch} {node next : Nat}

/-! ## Marks after a change -/

theorem mark?_enter (inside : node < search.marks.length) (other : Nat) :
    (search.enter graph node).mark? other =
      if other = node then some ⟨search.count, search.count, true⟩ else search.mark? other := by
  simp only [mark?, enter, List.getD_eq_getElem?_getD, List.getElem?_set, inside]
  by_cases same : other = node
  · simp [same]
  · simp [same, Ne.symm same]

theorem getD_modify (marks : List (Option Mark)) (change : Mark → Mark) (node other : Nat) :
    (marks.modify node (Option.map change)).getD other none =
      if other = node then (marks.getD other none).map change else marks.getD other none := by
  simp only [List.getD_eq_getElem?_getD, List.getElem?_modify]
  by_cases same : other = node
  · cases marks[other]? <;> simp [same]
  · cases marks[other]? <;> simp [same, Ne.symm same]

theorem mark?_lower (number other : Nat) :
    (search.lower node number).mark? other =
      if other = node then (search.mark? other).map fun mark =>
        { mark with low := min mark.low number }
      else search.mark? other :=
  getD_modify _ _ _ _

theorem getD_foldl_closeMark (members : List Nat) (marks : List (Option Mark)) (other : Nat) :
    (members.foldl closeMark marks).getD other none =
      if other ∈ members then (marks.getD other none).map fun mark => { mark with isOpen := false }
      else marks.getD other none := by
  induction members generalizing marks with
  | nil => simp
  | cons head rest induction =>
      rw [List.foldl_cons, induction, closeMark, getD_modify]
      by_cases first : other = head
      · cases marks.getD other none <;> simp [first]
      · simp [first]

theorem length_foldl_closeMark (members : List Nat) (marks : List (Option Mark)) :
    (members.foldl closeMark marks).length = marks.length := by
  induction members generalizing marks with
  | nil => rfl
  | cons head rest induction => rw [List.foldl_cons, induction, closeMark, List.length_modify]

theorem number_enter (inside : node < search.marks.length) (other : Nat) :
    (search.enter graph node).number other =
      if other = node then search.count else search.number other := by
  rw [number, mark?_enter inside]
  split <;> rfl

theorem low_enter (inside : node < search.marks.length) (other : Nat) :
    (search.enter graph node).low other =
      if other = node then search.count else search.low other := by
  rw [low, mark?_enter inside]
  split <;> rfl

theorem number_lower (node bound : Nat) : (search.lower node bound).number = search.number := by
  funext other
  rw [number, mark?_lower, number]
  split
  · cases search.mark? other <;> rfl
  · rfl

theorem low_lower (bound other : Nat) : (search.lower node bound).low other =
    if other = node then min (search.low other) bound else search.low other := by
  rw [low, mark?_lower, low]
  split
  · cases search.mark? other with
    | none => exact (Nat.zero_min bound).symm
    | some mark => rfl
  · rfl

theorem low_lower_le (search : ComponentSearch) (node bound other : Nat) :
    (search.lower node bound).low other ≤ search.low other := by
  rw [low_lower]
  split
  · exact Nat.min_le_left _ _
  · exact Nat.le_refl _

/-! ## What is recorded -/

/-- A node has been met: it waits, or its component is complete. -/
def Met (search : ComponentSearch) (node : Nat) : Prop :=
  node ∈ search.stack ∨ node ∈ search.found.flatten

/-- The nodes on the way, the latest first. -/
def way (search : ComponentSearch) : List Nat :=
  search.frames.map (·.node)

/-- The marks say which nodes wait and which are in components, and number those that wait by
their order. -/
structure Recorded (graph : Adjacency) (search : ComponentSearch) : Prop where
  length : search.marks.length = graph.length
  waits : ∀ node, node ∈ search.stack ↔ ∃ mark, search.mark? node = some mark ∧ mark.isOpen = true
  complete : ∀ node, node ∈ search.found.flatten ↔
    ∃ mark, search.mark? node = some mark ∧ mark.isOpen = false
  descending : search.stack.Pairwise fun later earlier =>
    search.number earlier < search.number later
  counted : ∀ node ∈ search.stack, search.number node < search.count
  found_nodup : search.found.flatten.Nodup
  way_waits : ∀ node ∈ search.way, node ∈ search.stack
  way_descending : search.way.Pairwise fun later earlier =>
    search.number earlier < search.number later

namespace Recorded

variable (recorded : search.Recorded graph)

include recorded

theorem mark?_eq_none : search.mark? node = none ↔ ¬ search.Met node := by
  rw [Met, recorded.waits, recorded.complete]
  cases search.mark? node with
  | none => simp
  | some mark => cases open_ : mark.isOpen <;> simp [open_]

theorem apart (waiting : node ∈ search.stack) : node ∉ search.found.flatten := by
  intro complete
  rcases (recorded.waits node).mp waiting with ⟨mark, found, isOpen⟩
  rcases (recorded.complete node).mp complete with ⟨other, again, isClosed⟩
  rw [found] at again
  cases again
  rw [isOpen] at isClosed
  cases isClosed

theorem inside (met : search.Met node) : node < graph.length := by
  rw [← recorded.length]
  apply Nat.lt_of_not_ge
  intro outside
  have unmarked : search.mark? node = none := by
    simp [mark?, List.getElem?_eq_none outside]
  exact recorded.mark?_eq_none.mp unmarked met

theorem stack_nodup : search.stack.Nodup := by
  refine recorded.descending.imp fun before same => ?_
  rw [same] at before
  exact Nat.lt_irrefl _ before

/-- No node on the way was met later than the last one. -/
theorem le_top {rest : List Nat} (top : search.way = node :: rest) {other : Nat}
    (member : other ∈ search.way) : search.number other ≤ search.number node := by
  have descending := top ▸ recorded.way_descending
  rw [top] at member
  rcases List.mem_cons.mp member with rfl | below
  · exact Nat.le_refl _
  · exact Nat.le_of_lt ((List.pairwise_cons.mp descending).1 other below)

/-! ### Meeting a node -/

theorem number_enter_of_met (inside : node < graph.length) (fresh : ¬ search.Met node)
    (other : Nat) (waiting : other ∈ search.stack) :
    (search.enter graph node).number other = search.number other := by
  have different : other ≠ node := fun same => fresh (.inl (same ▸ waiting))
  rw [number_enter (recorded.length ▸ inside), if_neg different]

theorem low_enter_of_met (inside : node < graph.length) (fresh : ¬ search.Met node)
    (other : Nat) (waiting : other ∈ search.stack) :
    (search.enter graph node).low other = search.low other := by
  have different : other ≠ node := fun same => fresh (.inl (same ▸ waiting))
  rw [low_enter (recorded.length ▸ inside), if_neg different]

theorem number_enter_self (inside : node < graph.length) :
    (search.enter graph node).number node = search.count := by
  rw [number_enter (recorded.length ▸ inside), if_pos rfl]

theorem low_enter_self (inside : node < graph.length) :
    (search.enter graph node).low node = search.count := by
  rw [low_enter (recorded.length ▸ inside), if_pos rfl]

theorem enter (inside : node < graph.length) (fresh : ¬ search.Met node) :
    Recorded graph (search.enter graph node) := by
  have numbered := recorded.number_enter_of_met inside fresh
  have first := recorded.number_enter_self inside
  constructor
  · exact (List.length_set ..).trans recorded.length
  · intro other
    change other ∈ node :: search.stack ↔ _
    rw [mark?_enter (recorded.length ▸ inside), List.mem_cons]
    by_cases same : other = node
    · simp [same]
    · simpa [same] using recorded.waits other
  · intro other
    change other ∈ search.found.flatten ↔ _
    rw [mark?_enter (recorded.length ▸ inside)]
    by_cases same : other = node
    · have absent : other ∉ search.found.flatten := fun complete => fresh (.inr (same ▸ complete))
      simp [same, same ▸ absent]
    · simpa [same] using recorded.complete other
  · refine List.pairwise_cons.mpr ⟨?_, ?_⟩
    · intro other waiting
      rw [numbered other waiting, first]
      exact recorded.counted other waiting
    · refine recorded.descending.imp_of_mem fun leftWaits rightWaits before => ?_
      rw [numbered _ leftWaits, numbered _ rightWaits]
      exact before
  · intro other waiting
    change _ < search.count + 1
    rcases List.mem_cons.mp waiting with rfl | waiting
    · rw [first]
      exact Nat.lt_succ_self _
    · rw [numbered other waiting]
      exact Nat.lt_succ_of_lt (recorded.counted other waiting)
  · exact recorded.found_nodup
  · intro other member
    rcases List.mem_cons.mp member with rfl | below
    · exact List.mem_cons_self
    · exact List.mem_cons_of_mem _ (recorded.way_waits other below)
  · refine List.pairwise_cons.mpr ⟨?_, ?_⟩
    · intro other below
      have waiting := recorded.way_waits other below
      rw [numbered other waiting, first]
      exact recorded.counted other waiting
    · refine recorded.way_descending.imp_of_mem fun leftBelow rightBelow before => ?_
      rw [numbered _ (recorded.way_waits _ leftBelow), numbered _ (recorded.way_waits _ rightBelow)]
      exact before

/-! ### Lower numbers -/

theorem lower (node bound : Nat) : Recorded graph (search.lower node bound) := by
  have marked : ∀ other value,
      (∃ mark, (search.lower node bound).mark? other = some mark ∧ mark.isOpen = value) ↔
        ∃ mark, search.mark? other = some mark ∧ mark.isOpen = value := by
    intro other value
    rw [mark?_lower]
    split
    · cases search.mark? other <;> simp
    · exact Iff.rfl
  constructor
  · exact (List.length_modify ..).trans recorded.length
  · intro other
    exact (recorded.waits other).trans (marked other true).symm
  · intro other
    exact (recorded.complete other).trans (marked other false).symm
  · rw [number_lower]
    exact recorded.descending
  · rw [number_lower]
    exact recorded.counted
  · exact recorded.found_nodup
  · exact recorded.way_waits
  · rw [number_lower]
    exact recorded.way_descending

/-- The frames may change as long as the way is a part of what it was. -/
theorem along (starts : List Nat) {frames : List Frame}
    (shorter : (frames.map (·.node)).Sublist search.way) :
    Recorded graph { search with starts, frames } where
  length := recorded.length
  waits := recorded.waits
  complete := recorded.complete
  descending := recorded.descending
  counted := recorded.counted
  found_nodup := recorded.found_nodup
  way_waits other member := recorded.way_waits other (shorter.subset member)
  way_descending := recorded.way_descending.sublist shorter

end Recorded

/-! ### Complete components -/

/-- The waiting nodes, parted below a node. -/
structure Parted (search : ComponentSearch) (node : Nat) (members left : List Nat) : Prop where
  taken : takeThrough node search.stack = (members, left)
  stack : search.stack = members ++ left
  node_mem : node ∈ members
  later : ∀ other ∈ members, search.number node ≤ search.number other
  earlier : ∀ other ∈ left, search.number other < search.number node

theorem Recorded.exists_parted (recorded : search.Recorded graph) (waiting : node ∈ search.stack) :
    ∃ members left, search.Parted node members left := by
  rcases List.eq_append_cons_of_mem waiting with ⟨before, after, stack, fresh⟩
  have descending := stack ▸ recorded.descending
  rcases List.pairwise_append.mp descending with ⟨_, below, above⟩
  refine ⟨before ++ [node], after, stack ▸ takeThrough_append fresh, by simp [stack], by simp, ?_,
    (List.pairwise_cons.mp below).1⟩
  intro other member
  rcases List.mem_append.mp member with first | last
  · exact Nat.le_of_lt (above other first node List.mem_cons_self)
  · rw [List.mem_singleton.mp last]

namespace Parted

variable {members left : List Nat} (parted : search.Parted node members left)

include parted

theorem mem_members {other : Nat} : other ∈ members ↔
    other ∈ search.stack ∧ search.number node ≤ search.number other := by
  rw [parted.stack, List.mem_append]
  constructor
  · intro member
    exact ⟨.inl member, parted.later other member⟩
  · rintro ⟨member | below, atLeast⟩
    · exact member
    · exact absurd (parted.earlier other below) (Nat.not_lt.mpr atLeast)

theorem mem_left {other : Nat} : other ∈ left ↔
    other ∈ search.stack ∧ search.number other < search.number node := by
  rw [parted.stack, List.mem_append]
  constructor
  · intro below
    exact ⟨.inr below, parted.earlier other below⟩
  · rintro ⟨member | below, less⟩
    · exact absurd (parted.later other member) (Nat.not_le.mpr less)
    · exact below

theorem close_eq : search.close node =
    { search with
      marks := members.foldl closeMark search.marks
      stack := left
      found := sortBy (· ≤ ·) members :: search.found } := by
  simp only [close, parted.taken]

theorem mark?_close (other : Nat) : (search.close node).mark? other =
    if other ∈ members then (search.mark? other).map fun mark => { mark with isOpen := false }
    else search.mark? other := by
  rw [parted.close_eq]
  exact getD_foldl_closeMark members search.marks other

theorem number_close : (search.close node).number = search.number := by
  funext other
  rw [number, parted.mark?_close, number]
  split
  · cases search.mark? other <;> rfl
  · rfl

theorem low_close : (search.close node).low = search.low := by
  funext other
  rw [low, parted.mark?_close, low]
  split
  · cases search.mark? other <;> rfl
  · rfl

theorem stack_close : (search.close node).stack = left := by
  rw [parted.close_eq]

theorem found_close : (search.close node).found = sortBy (· ≤ ·) members :: search.found := by
  rw [parted.close_eq]

theorem mem_found_close {other : Nat} : other ∈ (search.close node).found.flatten ↔
    other ∈ members ∨ other ∈ search.found.flatten := by
  rw [parted.found_close, List.flatten_cons, List.mem_append, mem_sortBy]

theorem met_close {other : Nat} : (search.close node).Met other ↔ search.Met other := by
  rw [Met, Met, parted.mem_found_close, parted.stack_close, parted.stack, List.mem_append]
  constructor
  · rintro (below | member | complete)
    · exact .inl (.inr below)
    · exact .inl (.inl member)
    · exact .inr complete
  · rintro ((member | below) | complete)
    · exact .inr (.inl member)
    · exact .inl below
    · exact .inr (.inr complete)

end Parted

theorem frames_close : (search.close node).frames = search.frames := rfl

theorem starts_close : (search.close node).starts = search.starts := rfl

namespace Recorded

variable (recorded : search.Recorded graph)

include recorded

theorem close (waiting : node ∈ search.stack)
    (below : ∀ other ∈ search.way, search.number other < search.number node) :
    Recorded graph (search.close node) := by
  rcases recorded.exists_parted waiting with ⟨members, left, parted⟩
  have part : left.Sublist search.stack := parted.stack ▸ List.sublist_append_right members left
  have open_ : ∀ other ∈ members, ∃ mark, search.mark? other = some mark ∧ mark.isOpen = true :=
    fun other member => (recorded.waits other).mp (parted.mem_members.mp member).1
  constructor
  · rw [parted.close_eq]
    exact (length_foldl_closeMark ..).trans recorded.length
  · intro other
    rw [parted.stack_close, parted.mark?_close]
    by_cases member : other ∈ members
    · have notBelow : other ∉ left := fun below =>
        Nat.not_lt.mpr (parted.later other member) (parted.earlier other below)
      rcases open_ other member with ⟨mark, found, _⟩
      simp [member, notBelow, found]
    · rw [if_neg member, ← recorded.waits, parted.stack, List.mem_append, or_iff_right member]
  · intro other
    rw [parted.mem_found_close, parted.mark?_close]
    by_cases member : other ∈ members
    · rcases open_ other member with ⟨mark, found, _⟩
      simp [member, found]
    · rw [if_neg member, ← recorded.complete, or_iff_right member]
  · rw [parted.number_close, parted.stack_close]
    exact recorded.descending.sublist part
  · rw [parted.number_close, parted.stack_close]
    exact fun other member => recorded.counted other (part.subset member)
  · rw [parted.found_close, List.flatten_cons, List.nodup_append]
    have nodup : members.Nodup :=
      recorded.stack_nodup.sublist (parted.stack ▸ List.sublist_append_left members left)
    refine ⟨(sortBy_perm members).nodup_iff.mpr nodup, recorded.found_nodup, ?_⟩
    rintro other member _ complete rfl
    exact recorded.apart (parted.mem_members.mp (mem_sortBy.mp member)).1 complete
  · rw [parted.stack_close]
    exact fun other member =>
      parted.mem_left.mpr ⟨recorded.way_waits other member, below other member⟩
  · rw [parted.number_close]
    exact recorded.way_descending

end Recorded

end ComponentSearch

end StaticInjection
