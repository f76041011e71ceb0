import StaticInjection.Proofs.Graph.SearchMarks

/-! # The search for components

Between its steps the nodes on the way of the search lead to all waiting nodes that were met
later, and every waiting node leads back to the way. A low number is one that its node leads
to, and no edge between waiting nodes ends below the low numbers of the way. So when a node
has no lower number than its own, the nodes that wait from there on lead to each other, and
to nothing else that still waits. -/

namespace StaticInjection

namespace ComponentSearch

variable {graph : Adjacency} {search later : ComponentSearch} {node next : Nat}

/-- The search has still to look at an edge. -/
def Awaits (search : ComponentSearch) (source target : Nat) : Prop :=
  ∃ frame ∈ search.frames, frame.node = source ∧ target ∈ frame.ahead

theorem way_of_top {frame : Frame} {rest : List Frame} (top : search.frames = frame :: rest) :
    search.way = frame.node :: rest.map (·.node) := by
  rw [way, top, List.map_cons]

/-- Nothing is awaited from a node that has nothing ahead. -/
theorem Awaits.below {rest : List Frame} (top : search.frames = ⟨node, []⟩ :: rest)
    {source target : Nat} (awaited : search.Awaits source target) :
    Awaits { search with frames := rest } source target := by
  rcases awaited with ⟨frame, member, here⟩
  rw [top] at member
  rcases List.mem_cons.mp member with rfl | below
  · cases here.2
  · exact ⟨frame, below, here⟩

/-- What holds between the steps of the search. -/
structure Explored (graph : Adjacency) (search : ComponentSearch) : Prop
    extends Recorded graph search where
  starts_inside : ∀ start ∈ search.starts, start < graph.length
  begun : ∀ node < graph.length, node ∈ search.starts ∨ search.Met node
  edges : ∀ source target, search.Awaits source target → graph.Edge source target
  looked : ∀ source ∈ search.stack, ∀ target, graph.Edge source target →
    search.Met target ∨ search.Awaits source target
  settled : ∀ source ∈ search.found.flatten, ∀ target, graph.Edge source target →
    target ∈ search.found.flatten
  outward : ∀ holder ∈ search.way, ∀ node ∈ search.stack,
    search.number holder ≤ search.number node → graph.Leads holder node
  homeward : ∀ node ∈ search.stack, ∃ holder ∈ search.way,
    search.number holder ≤ search.number node ∧ graph.Leads node holder
  low_le : ∀ holder ∈ search.way, search.low holder ≤ search.number holder
  low_reached : ∀ holder ∈ search.way, ∃ node ∈ search.stack,
    search.number node = search.low holder ∧ graph.Leads holder node
  low_least : ∀ first ∈ search.way, ∀ source ∈ search.stack,
    search.number first ≤ search.number source →
    ∀ target ∈ search.stack, graph.Edge source target → search.Awaits source target ∨
      ∃ holder ∈ search.way, search.number first ≤ search.number holder ∧
        search.number holder ≤ search.number source ∧ search.low holder ≤ search.number target
  components : ∀ members ∈ search.found, graph.IsComponent members

namespace Explored

variable (explored : search.Explored graph)

include explored

/-! ## Meeting a node -/

theorem enter (inside : node < graph.length) (fresh : ¬ search.Met node)
    (reached : ∀ holder ∈ search.way, graph.Leads holder node) :
    Explored graph (search.enter graph node) := by
  have numbered := explored.number_enter_of_met inside fresh
  have lowered := explored.low_enter_of_met inside fresh
  have waits := explored.way_waits
  have number := explored.number_enter_self inside
  have low := explored.low_enter_self inside
  have met : ∀ other, search.Met other → (search.enter graph node).Met other :=
    fun _ known => known.imp_left (List.mem_cons_of_mem _)
  have awaits : ∀ source target, search.Awaits source target →
      (search.enter graph node).Awaits source target := by
    rintro source target ⟨frame, member, here⟩
    exact ⟨frame, List.mem_cons_of_mem _ member, here⟩
  have own : ∀ target, graph.Edge node target → (search.enter graph node).Awaits node target :=
    fun target edge => ⟨_, List.mem_cons_self, rfl, edge⟩
  refine ⟨explored.toRecorded.enter inside fresh, explored.starts_inside, ?_, ?_, ?_,
    explored.settled, ?_, ?_, ?_, ?_, ?_, explored.components⟩
  · exact fun other otherInside => (explored.begun other otherInside).imp_right (met other)
  · rintro source target ⟨frame, member, rfl, ahead⟩
    rcases List.mem_cons.mp member with rfl | earlier
    · exact ahead
    · exact explored.edges _ _ ⟨frame, earlier, rfl, ahead⟩
  · intro source waiting target edge
    rcases List.mem_cons.mp waiting with rfl | waiting
    · exact .inr (own target edge)
    · exact (explored.looked source waiting target edge).imp (met target) (awaits source target)
  · intro holder onWay other waiting atMost
    rcases List.mem_cons.mp onWay with rfl | below
    · rcases List.mem_cons.mp waiting with rfl | waiting
      · exact .refl
      · have counted := explored.counted other waiting
        rw [number, numbered other waiting] at atMost
        omega
    · rcases List.mem_cons.mp waiting with rfl | waiting
      · exact reached holder below
      · rw [numbered holder (waits holder below), numbered other waiting] at atMost
        exact explored.outward holder below other waiting atMost
  · intro other waiting
    rcases List.mem_cons.mp waiting with rfl | waiting
    · exact ⟨other, List.mem_cons_self, Nat.le_refl _, .refl⟩
    · rcases explored.homeward other waiting with ⟨holder, below, atMost, path⟩
      refine ⟨holder, List.mem_cons_of_mem _ below, ?_, path⟩
      rw [numbered holder (waits holder below), numbered other waiting]
      exact atMost
  · intro holder onWay
    rcases List.mem_cons.mp onWay with rfl | below
    · rw [low, number]
    · rw [lowered holder (waits holder below), numbered holder (waits holder below)]
      exact explored.low_le holder below
  · intro holder onWay
    rcases List.mem_cons.mp onWay with rfl | below
    · exact ⟨holder, List.mem_cons_self, number.trans low.symm, .refl⟩
    · rcases explored.low_reached holder below with ⟨other, waiting, same, path⟩
      refine ⟨other, List.mem_cons_of_mem _ waiting, ?_, path⟩
      rw [numbered other waiting, lowered holder (waits holder below)]
      exact same
  · intro first onWay source sourceWaits atMost target targetWaits edge
    rcases List.mem_cons.mp sourceWaits with rfl | sourceOld
    · exact .inl (own target edge)
    rcases List.mem_cons.mp targetWaits with rfl | targetOld
    · -- An edge to a node that was not met has still to be looked at.
      exact .inl (awaits _ _ ((explored.looked source sourceOld _ edge).resolve_left fresh))
    rcases List.mem_cons.mp onWay with rfl | below
    · have counted := explored.counted source sourceOld
      rw [number, numbered source sourceOld] at atMost
      omega
    rw [numbered first (waits first below), numbered source sourceOld] at atMost
    rcases explored.low_least first below source sourceOld atMost target targetOld edge with
      awaited | ⟨holder, holderBelow, after, before, reaches⟩
    · exact .inl (awaits _ _ awaited)
    · refine .inr ⟨holder, List.mem_cons_of_mem _ holderBelow, ?_⟩
      rw [numbered first (waits first below), numbered holder (waits holder holderBelow),
        numbered source sourceOld, numbered target targetOld,
        lowered holder (waits holder holderBelow)]
      exact ⟨after, before, reaches⟩

/-! ## Lower numbers -/

theorem lower {target : Nat} (waiting : target ∈ search.stack)
    (path : graph.Leads node target) :
    Explored graph (search.lower node (search.number target)) := by
  have less := low_lower_le search node (search.number target)
  refine ⟨explored.toRecorded.lower _ _, explored.starts_inside, explored.begun, explored.edges,
    explored.looked, explored.settled, ?_, ?_, ?_, ?_, ?_, explored.components⟩
  · rw [number_lower]
    exact explored.outward
  · rw [number_lower]
    exact explored.homeward
  · rw [number_lower]
    exact fun holder below => (less holder).trans (explored.low_le holder below)
  · intro holder below
    rw [number_lower, low_lower]
    split
    · rename_i same
      rcases Nat.le_total (search.low holder) (search.number target) with known | found
      · rw [Nat.min_eq_left known]
        exact explored.low_reached holder below
      · rw [Nat.min_eq_right found]
        exact ⟨target, waiting, rfl, same ▸ path⟩
    · exact explored.low_reached holder below
  · rw [number_lower]
    intro first below source sourceWaits atMost target targetWaits edge
    refine (explored.low_least first below source sourceWaits atMost target targetWaits
      edge).imp_right ?_
    rintro ⟨holder, holderBelow, after, before, reaches⟩
    exact ⟨holder, holderBelow, after, before, (less holder).trans reaches⟩

/-! ## What has been looked at -/

/-- A start that has been met needs no visit. -/
theorem skip {start : Nat} {starts : List Nat} (first : search.starts = start :: starts)
    (met : search.Met start) : Explored graph { search with starts } := by
  refine ⟨explored.toRecorded.along starts (List.Sublist.refl _), ?_, ?_, explored.edges,
    explored.looked, explored.settled, explored.outward, explored.homeward, explored.low_le,
    explored.low_reached, explored.low_least, explored.components⟩
  · intro other member
    exact explored.starts_inside other (first ▸ List.mem_cons_of_mem _ member)
  · intro other inside
    rcases explored.begun other inside with member | known
    · rcases List.mem_cons.mp (first ▸ member) with rfl | rest
      · exact .inr met
      · exact .inl rest
    · exact .inr known

/-- An edge is done when its end has been met and is no lower than the low number. -/
theorem advance (before : List Frame) {after : List Frame} {ahead : List Nat}
    (frames : search.frames = before ++ ⟨node, next :: ahead⟩ :: after) (met : search.Met next)
    (reached : next ∈ search.stack → search.low node ≤ search.number next) :
    Explored graph { search with frames := before ++ ⟨node, ahead⟩ :: after } := by
  have way : (before ++ ⟨node, ahead⟩ :: after).map (·.node) = search.way := by
    simp [ComponentSearch.way, frames]
  have onWay : node ∈ search.way := way ▸ by simp
  have awaits : ∀ source target, search.Awaits source target → source = node ∧ target = next ∨
      Awaits { search with frames := before ++ ⟨node, ahead⟩ :: after } source target := by
    rintro source target ⟨frame, member, rfl, listed⟩
    rw [frames] at member
    rcases List.mem_append.mp member with early | member
    · exact .inr ⟨frame, List.mem_append_left _ early, rfl, listed⟩
    rcases List.mem_cons.mp member with rfl | late
    · rcases List.mem_cons.mp listed with rfl | listed
      · exact .inl ⟨rfl, rfl⟩
      · exact .inr ⟨⟨node, ahead⟩, by simp, rfl, listed⟩
    · exact .inr ⟨frame, by simp [late], rfl, listed⟩
  refine ⟨explored.toRecorded.along search.starts (way ▸ List.Sublist.refl _),
    explored.starts_inside, explored.begun, ?_, ?_, explored.settled, ?_, ?_, ?_, ?_, ?_,
    explored.components⟩
  · rintro source target ⟨frame, member, rfl, listed⟩
    rcases List.mem_append.mp member with early | member
    · exact explored.edges _ _ ⟨frame, by simp [frames, early], rfl, listed⟩
    rcases List.mem_cons.mp member with rfl | late
    · exact explored.edges _ _ ⟨⟨node, next :: ahead⟩, by simp [frames], rfl,
        List.mem_cons_of_mem _ listed⟩
    · exact explored.edges _ _ ⟨frame, by simp [frames, late], rfl, listed⟩
  · intro source waiting target edge
    rcases explored.looked source waiting target edge with known | awaited
    · exact .inl known
    · rcases awaits source target awaited with ⟨_, rfl⟩ | still
      · exact .inl met
      · exact .inr still
  · exact fun holder member => explored.outward holder (way ▸ member)
  · change ∀ other ∈ search.stack, ∃ holder ∈ (before ++ ⟨node, ahead⟩ :: after).map (·.node), _
    rw [way]
    exact explored.homeward
  · exact fun holder member => explored.low_le holder (way ▸ member)
  · exact fun holder member => explored.low_reached holder (way ▸ member)
  · intro first member source sourceWaits atMost target targetWaits edge
    change _ ∨ ∃ holder ∈ (before ++ ⟨node, ahead⟩ :: after).map (·.node), _
    rw [way]
    rcases explored.low_least first (way ▸ member) source sourceWaits atMost target targetWaits
      edge with awaited | holds
    · rcases awaits source target awaited with ⟨rfl, rfl⟩ | still
      · exact .inr ⟨source, onWay, atMost, Nat.le_refl _, reached targetWaits⟩
      · exact .inl still
    · exact .inr holds

/-! ## Going back -/

/-- A waiting node is led to by the nodes of the way that were met before it, so it leads to the
top when it leads to an earlier one. -/
theorem leads_top {rest : List Nat} (top : search.way = node :: rest) {other : Nat}
    (waiting : other ∈ search.stack) : graph.Leads other node := by
  have onWay : node ∈ search.way := top ▸ List.mem_cons_self
  rcases explored.homeward other waiting with ⟨holder, member, _, path⟩
  exact path.trans (explored.outward holder member node (explored.way_waits node onWay)
    (explored.le_top top member))

/-- Nothing is awaited from a node that was met later than the others on the way, when nothing is
ahead of it. -/
theorem not_awaits {rest : List Frame} (top : search.frames = ⟨node, []⟩ :: rest) {source : Nat}
    (later : search.number node ≤ search.number source) (target : Nat) :
    ¬ search.Awaits source target := by
  intro awaited
  rcases awaited.below top with ⟨frame, below, rfl, _⟩
  have way : search.way = node :: rest.map (·.node) := way_of_top top
  have descending := List.pairwise_cons.mp (way ▸ explored.way_descending)
  have before := descending.1 frame.node (List.mem_map_of_mem below)
  omega

/-- A node that leads to an earlier one goes on waiting when the search goes back from it. -/
theorem retain {parent : Frame} {rest : List Frame}
    (top : search.frames = ⟨node, []⟩ :: parent :: rest)
    (passed : search.low parent.node ≤ search.low node)
    (less : search.low node < search.number node) :
    Explored graph { search with frames := parent :: rest } := by
  have way : search.way = node :: (parent :: rest).map (·.node) := way_of_top top
  have shorter : ((parent :: rest).map (·.node)).Sublist search.way :=
    way ▸ List.sublist_cons_self _ _
  have popped := explored.toRecorded.along search.starts shorter
  have descending := List.pairwise_cons.mp (way ▸ explored.way_descending)
  have old : ∀ holder ∈ (parent :: rest).map (·.node), holder ∈ search.way := shorter.subset
  refine ⟨popped, explored.starts_inside, explored.begun, ?_, ?_, explored.settled, ?_, ?_, ?_, ?_,
    ?_, explored.components⟩
  · rintro source target ⟨frame, member, here⟩
    exact explored.edges source target ⟨frame, top ▸ List.mem_cons_of_mem _ member, here⟩
  · intro source waiting target edge
    exact (explored.looked source waiting target edge).imp_right (Awaits.below top)
  · exact fun holder member => explored.outward holder (old holder member)
  · intro other waiting
    rcases explored.homeward other waiting with ⟨holder, member, atMost, path⟩
    rcases List.mem_cons.mp (way ▸ member) with rfl | below
    · -- The node leads to an earlier one, and that leads back to the rest of the way.
      have onWay : holder ∈ search.way := way ▸ List.mem_cons_self
      rcases explored.low_reached holder onWay with ⟨earlier, earlierWaits, number, onward⟩
      rcases explored.homeward earlier earlierWaits with ⟨home, homeMember, homeAtMost, back⟩
      rcases List.mem_cons.mp (way ▸ homeMember) with rfl | homeBelow
      · omega
      · exact ⟨home, homeBelow, show search.number home ≤ search.number other by omega,
          path.trans (onward.trans back)⟩
    · exact ⟨holder, below, atMost, path⟩
  · exact fun holder member => explored.low_le holder (old holder member)
  · exact fun holder member => explored.low_reached holder (old holder member)
  · intro first member source sourceWaits atMost target targetWaits edge
    rcases explored.low_least first (old first member) source sourceWaits atMost target targetWaits
      edge with awaited | ⟨holder, holderMember, after, before, reaches⟩
    · exact .inl (awaited.below top)
    · right
      rcases List.mem_cons.mp (way ▸ holderMember) with rfl | below
      · have parentBelow : parent.node ∈ (parent :: rest).map (·.node) := List.mem_cons_self
        have parentBefore := descending.1 parent.node parentBelow
        refine ⟨parent.node, parentBelow, popped.le_top rfl member, ?_, passed.trans reaches⟩
        exact Nat.le_trans (Nat.le_of_lt parentBefore) before
      · exact ⟨holder, below, after, before, reaches⟩

section Complete

variable {rest : List Frame} (top : search.frames = ⟨node, []⟩ :: rest)
  (own : search.low node = search.number node) {members left : List Nat}
  (parted : search.Parted node members left)

include top own parted

/-- The edges of the nodes that were met from a node on stay among them, or end in components. -/
theorem edge_stays {source target : Nat} (member : source ∈ members)
    (edge : graph.Edge source target) : target ∈ members ∨ target ∈ search.found.flatten := by
  have way : search.way = node :: rest.map (·.node) := way_of_top top
  have descending := List.pairwise_cons.mp (way ▸ explored.way_descending)
  rcases parted.mem_members.mp member with ⟨sourceWaits, later⟩
  have done := explored.not_awaits top later target
  rcases (explored.looked source sourceWaits target edge).resolve_right done with
    targetWaits | complete
  · rcases (explored.low_least node (way ▸ List.mem_cons_self) source sourceWaits later target
      targetWaits edge).resolve_left done with ⟨holder, onWay, after, _, reaches⟩
    rcases List.mem_cons.mp (way ▸ onWay) with rfl | below
    · exact .inl (parted.mem_members.mpr ⟨targetWaits, own ▸ reaches⟩)
    · have before := descending.1 holder below
      omega
  · exact .inr complete

theorem path_stays {source target : Nat} (member : source ∈ members)
    (path : graph.Leads source target) : target ∈ members ∨ target ∈ search.found.flatten := by
  induction path with
  | refl => exact .inl member
  | tail _ edge induction =>
      rcases induction with inside | complete
      · exact explored.edge_stays top own parted inside edge
      · exact .inr (explored.settled _ complete _ edge)

end Complete

/-- No path leaves the components that are complete. -/
theorem complete_of_leads {source target : Nat} (complete : source ∈ search.found.flatten)
    (path : graph.Leads source target) : target ∈ search.found.flatten := by
  induction path with
  | refl => exact complete
  | tail _ edge induction => exact explored.settled _ induction _ edge

/-- The nodes that were met from a node on are a component, when the node has no lower number than
its own. -/
theorem isComponent_members {rest : List Frame} (top : search.frames = ⟨node, []⟩ :: rest)
    (own : search.low node = search.number node) {members left : List Nat}
    (parted : search.Parted node members left) :
    graph.IsComponent (sortBy (· ≤ ·) members) := by
  have way : search.way = node :: rest.map (·.node) := way_of_top top
  have onWay : node ∈ search.way := way ▸ List.mem_cons_self
  have waits : ∀ other ∈ members, other ∈ search.stack := fun other member =>
    (parted.mem_members.mp member).1
  have home : ∀ other ∈ members, graph.Leads other node := fun other member =>
    explored.leads_top way (waits other member)
  have forth : ∀ other ∈ members, graph.Leads node other := fun other member =>
    explored.outward node onWay other (waits other member) (parted.later other member)
  constructor
  · exact List.ne_nil_of_mem (mem_sortBy.mpr parted.node_mem)
  · exact sortBy_ascending (explored.stack_nodup.sublist
      (parted.stack ▸ List.sublist_append_left members left))
  · intro source sourceSorted target
    have source_mem := mem_sortBy.mp sourceSorted
    rw [mem_sortBy]
    constructor
    · intro target_mem
      exact ⟨explored.inside (.inl (waits target target_mem)),
        (home source source_mem).trans (forth target target_mem),
        (home target target_mem).trans (forth source source_mem)⟩
    · rintro ⟨_, path, back⟩
      rcases explored.path_stays top own parted source_mem path with inside | complete
      · exact inside
      · exact absurd (explored.complete_of_leads complete back)
          (explored.apart (waits source source_mem))

/-- A node that leads to no earlier one takes its component out of those that wait. -/
theorem settle {rest : List Frame} (top : search.frames = ⟨node, []⟩ :: rest)
    (own : search.low node = search.number node) :
    Explored graph ({ search with frames := rest }.close node) := by
  have way : search.way = node :: rest.map (·.node) := way_of_top top
  have shorter : (rest.map (·.node)).Sublist search.way := way ▸ List.sublist_cons_self _ _
  have onWay : node ∈ search.way := way ▸ List.mem_cons_self
  have waiting := explored.way_waits node onWay
  have before := (List.pairwise_cons.mp (way ▸ explored.way_descending)).1
  rcases explored.toRecorded.exists_parted waiting with ⟨members, left, parted⟩
  have below : Parted { search with frames := rest } node members left :=
    ⟨parted.taken, parted.stack, parted.node_mem, parted.later, parted.earlier⟩
  have old : ∀ other ∈ left, other ∈ search.stack := fun other member =>
    (parted.mem_left.mp member).1
  refine ⟨(explored.toRecorded.along search.starts shorter).close waiting before,
    explored.starts_inside, ?_, ?_, ?_, ?_, ?_, ?_, ?_, ?_, ?_, ?_⟩
  · intro other inside
    exact (explored.begun other inside).imp_right below.met_close.mpr
  · rintro source target ⟨frame, member, here⟩
    exact explored.edges source target ⟨frame, top ▸ List.mem_cons_of_mem _ member, here⟩
  · rw [below.stack_close]
    intro source member target edge
    exact (explored.looked source (old source member) target edge).imp below.met_close.mpr
      (Awaits.below top)
  · intro source complete target edge
    rw [below.mem_found_close] at complete ⊢
    rcases complete with member | complete
    · exact explored.edge_stays top own parted member edge
    · exact .inr (explored.settled source complete target edge)
  · rw [below.stack_close, below.number_close]
    exact fun holder member other listed =>
      explored.outward holder (shorter.subset member) other (old other listed)
  · rw [below.stack_close, below.number_close]
    intro other member
    rcases parted.mem_left.mp member with ⟨otherWaits, less⟩
    rcases explored.homeward other otherWaits with ⟨holder, listed, atMost, path⟩
    rcases List.mem_cons.mp (way ▸ listed) with rfl | rest
    · omega
    · exact ⟨holder, rest, atMost, path⟩
  · rw [below.number_close, below.low_close]
    exact fun holder member => explored.low_le holder (shorter.subset member)
  · rw [below.stack_close, below.number_close, below.low_close]
    intro holder member
    rcases explored.low_reached holder (shorter.subset member) with ⟨other, otherWaits, same, path⟩
    have low := explored.low_le holder (shorter.subset member)
    have holderBefore := before holder member
    exact ⟨other, parted.mem_left.mpr ⟨otherWaits, by omega⟩, same, path⟩
  · rw [below.stack_close, below.number_close, below.low_close]
    intro first member source sourceLeft atMost target targetLeft edge
    have less := (parted.mem_left.mp sourceLeft).2
    rcases explored.low_least first (shorter.subset member) source (old source sourceLeft) atMost
      target (old target targetLeft) edge with awaited | ⟨holder, listed, holds⟩
    · exact .inl (awaited.below top)
    · rcases List.mem_cons.mp (way ▸ listed) with rfl | rest
      · have atLeast : search.number holder ≤ search.number source := holds.2.1
        omega
      · exact .inr ⟨holder, rest, holds⟩
  · rw [below.found_close]
    intro component listed
    rcases List.mem_cons.mp listed with rfl | listed
    · exact explored.isComponent_members top own parted
    · exact explored.components component listed

/-- Going back from a node either closes its component or leaves it waiting. -/
theorem leave {rest : List Frame} (top : search.frames = ⟨node, []⟩ :: rest) :
    Explored graph ({ search with frames := rest }.leave node) := by
  have way : search.way = node :: rest.map (·.node) := way_of_top top
  have onWay : node ∈ search.way := way ▸ List.mem_cons_self
  have low := explored.low_le node onWay
  rcases explored.low_reached node onWay with ⟨earlier, earlierWaits, number, onward⟩
  cases rest with
  | nil =>
      -- The first node of a way has nothing earlier to lead to.
      have own : search.low node = search.number node := by
        rcases explored.homeward earlier earlierWaits with ⟨home, homeMember, atMost, _⟩
        rcases List.mem_cons.mp (way ▸ homeMember) with rfl | below
        · omega
        · cases below
      have closes : ({ search with frames := [] }.leave node) =
          ({ search with frames := [] }.close node) := if_pos own
      rw [closes]
      exact explored.settle top own
  | cons parent rest =>
      have descending := List.pairwise_cons.mp (way ▸ explored.way_descending)
      have before := descending.1 parent.node List.mem_cons_self
      have different : node ≠ parent.node := fun same => by
        rw [same] at before
        omega
      have path : graph.Leads parent.node earlier :=
        (explored.outward parent.node (way ▸ by simp) node (explored.way_waits node onWay)
          (Nat.le_of_lt before)).trans onward
      let lowered := search.lower parent.node (search.low node)
      have passed : Explored graph lowered := by
        have raised := explored.lower earlierWaits path
        rwa [number] at raised
      have kept : lowered.low node = search.low node := by rw [low_lower, if_neg different]
      have numbered : lowered.number node = search.number node := by rw [number_lower]
      have leaves : ({ search with frames := parent :: rest }.leave node) =
          if lowered.low node = lowered.number node
          then { lowered with frames := parent :: rest }.close node
          else { lowered with frames := parent :: rest } := rfl
      rw [leaves]
      split
      · exact passed.settle top ‹_›
      · refine passed.retain top ?_ (by omega)
        rw [kept, low_lower, if_pos rfl]
        exact Nat.min_le_right _ _

/-- One successor has been looked at. -/
theorem look_fresh {rest : List Frame} {ahead : List Nat} (closed : graph.Closed)
    (top : search.frames = ⟨node, next :: ahead⟩ :: rest) (fresh : ¬ search.Met next) :
    Explored graph ({ search with frames := ⟨node, ahead⟩ :: rest }.enter graph next) := by
  have way : search.way = node :: rest.map (·.node) := way_of_top top
  have onWay : node ∈ search.way := way ▸ List.mem_cons_self
  have waiting := explored.way_waits node onWay
  have edge : graph.Edge node next :=
    explored.edges node next ⟨_, top ▸ List.mem_cons_self, rfl, List.mem_cons_self⟩
  have reached : ∀ holder ∈ search.way, graph.Leads holder next := fun holder member =>
    (explored.outward holder member node waiting (explored.le_top way member)).tail edge
  have inside := closed node next edge
  have entered := explored.enter inside fresh reached
  refine entered.advance [⟨next, graph.successors next⟩] (congrArg (_ :: ·) top)
    (.inl List.mem_cons_self) fun _ => ?_
  rw [explored.low_enter_of_met inside fresh node waiting, explored.number_enter_self inside]
  have low := explored.low_le node onWay
  have counted := explored.counted node waiting
  omega

theorem look_waiting {rest : List Frame} {ahead : List Nat}
    (top : search.frames = ⟨node, next :: ahead⟩ :: rest) (waiting : next ∈ search.stack) :
    Explored graph
      ({ search with frames := ⟨node, ahead⟩ :: rest }.lower node (search.number next)) := by
  have edge : graph.Edge node next :=
    explored.edges node next ⟨_, top ▸ List.mem_cons_self, rfl, List.mem_cons_self⟩
  refine (explored.lower waiting (.single edge)).advance [] top (.inl waiting) fun _ => ?_
  rw [low_lower, if_pos rfl, number_lower]
  exact Nat.min_le_right _ _

theorem look_complete {rest : List Frame} {ahead : List Nat}
    (top : search.frames = ⟨node, next :: ahead⟩ :: rest) (complete : next ∈ search.found.flatten) :
    Explored graph { search with frames := ⟨node, ahead⟩ :: rest } :=
  explored.advance [] top (.inr complete) fun waiting =>
    absurd complete (explored.apart waiting)

end Explored

/-! ## Steps -/

/-- What one step of the search can do. -/
inductive Move (graph : Adjacency) (search : ComponentSearch) : ComponentSearch → Prop where
  | skip {start : Nat} {starts : List Nat} (noFrames : search.frames = [])
      (first : search.starts = start :: starts) (met : search.Met start) :
      Move graph search { search with starts }
  | begin {start : Nat} {starts : List Nat} (noFrames : search.frames = [])
      (first : search.starts = start :: starts) (fresh : ¬ search.Met start) :
      Move graph search ({ search with starts }.enter graph start)
  | enter {node next : Nat} {ahead : List Nat} {rest : List Frame}
      (top : search.frames = ⟨node, next :: ahead⟩ :: rest) (fresh : ¬ search.Met next) :
      Move graph search ({ search with frames := ⟨node, ahead⟩ :: rest }.enter graph next)
  | lower {node next : Nat} {ahead : List Nat} {rest : List Frame}
      (top : search.frames = ⟨node, next :: ahead⟩ :: rest) (waiting : next ∈ search.stack) :
      Move graph search
        ({ search with frames := ⟨node, ahead⟩ :: rest }.lower node (search.number next))
  | pass {node next : Nat} {ahead : List Nat} {rest : List Frame}
      (top : search.frames = ⟨node, next :: ahead⟩ :: rest)
      (complete : next ∈ search.found.flatten) :
      Move graph search { search with frames := ⟨node, ahead⟩ :: rest }
  | leave {node : Nat} {rest : List Frame} (top : search.frames = ⟨node, []⟩ :: rest) :
      Move graph search ({ search with frames := rest }.leave node)

namespace Recorded

variable (recorded : search.Recorded graph)

include recorded

theorem move_begin {start : Nat} {starts : List Nat} (noFrames : search.frames = [])
    (first : search.starts = start :: starts) :
    Move graph search ({ search with starts }.begin graph start) := by
  have marks : mark? { search with starts } start = search.mark? start := rfl
  unfold begin
  rw [marks]
  cases found : search.mark? start with
  | none => exact .begin noFrames first (recorded.mark?_eq_none.mp found)
  | some mark =>
      have met : search.Met start := by
        by_contra fresh
        rw [recorded.mark?_eq_none.mpr fresh] at found
        cases found
      exact .skip noFrames first met

theorem move_look {rest : List Frame} {ahead : List Nat}
    (top : search.frames = ⟨node, next :: ahead⟩ :: rest) :
    Move graph search ({ search with frames := ⟨node, ahead⟩ :: rest }.look graph node next) := by
  have marks : mark? { search with frames := ⟨node, ahead⟩ :: rest } next = search.mark? next := rfl
  unfold look
  rw [marks]
  cases found : search.mark? next with
  | none => exact .enter top (recorded.mark?_eq_none.mp found)
  | some mark =>
      have number : search.number next = mark.number := by
        rw [ComponentSearch.number, found]
        rfl
      cases state : mark.isOpen with
      | true =>
          have move : Move graph search _ :=
            .lower top ((recorded.waits next).mpr ⟨mark, found, state⟩)
          simpa only [state, if_true, number] using move
      | false =>
          have move : Move graph search _ :=
            .pass top ((recorded.complete next).mpr ⟨mark, found, state⟩)
          simpa only [state, Bool.false_eq_true, if_false] using move

theorem move_of_step (stepped : search.step? graph = some later) : Move graph search later := by
  unfold step? at stepped
  split at stepped
  · cases stepped
  · rename_i noFrames first
    cases stepped
    exact recorded.move_begin noFrames first
  · rename_i top
    cases stepped
    exact recorded.move_look top
  · rename_i top
    cases stepped
    exact .leave top

end Recorded

theorem Explored.move (explored : search.Explored graph) (closed : graph.Closed)
    (move : Move graph search later) : Explored graph later := by
  cases move with
  | skip _ first met => exact explored.skip first met
  | @begin start starts noFrames first fresh =>
      have inside := explored.starts_inside start (first ▸ List.mem_cons_self)
      have entered := explored.enter inside fresh (by simp [way, noFrames])
      exact entered.skip first (.inl List.mem_cons_self)
  | enter top fresh => exact explored.look_fresh closed top fresh
  | lower top waiting => exact explored.look_waiting top waiting
  | pass top complete => exact explored.look_complete top complete
  | leave top => exact explored.leave top

/-! ## Steps that remain -/

/-- Starts to begin at, edges to look at and nodes to leave, also of the nodes that will be met. -/
def remaining (graph : Adjacency) (search : ComponentSearch) : Nat :=
  search.starts.length + (search.frames.map fun frame => 1 + frame.ahead.length).sum +
    graph.unopened (search.stack ++ search.found.flatten)

theorem remaining_enter (search : ComponentSearch) (inside : node < graph.length)
    (fresh : ¬ search.Met node) :
    (search.enter graph node).remaining graph = search.remaining graph := by
  have unmet : node ∉ search.stack ++ search.found.flatten := by
    rw [List.mem_append]
    exact fresh
  unfold remaining
  rw [Adjacency.unopened_enter inside unmet]
  simp only [enter, Adjacency.visits, List.map_cons, List.sum_cons, List.cons_append]
  omega

theorem remaining_passOn : (search.passOn node).remaining graph = search.remaining graph := by
  cases frames : search.frames <;> simp [passOn, frames, remaining, lower]

theorem Recorded.passOn (recorded : search.Recorded graph) :
    Recorded graph (search.passOn node) := by
  unfold ComponentSearch.passOn
  split
  · exact recorded
  · exact recorded.lower _ _

theorem stack_passOn : (search.passOn node).stack = search.stack := by
  unfold passOn
  split <;> rfl

theorem remaining_close (recorded : search.Recorded graph) (waiting : node ∈ search.stack) :
    (search.close node).remaining graph = search.remaining graph := by
  rcases recorded.exists_parted waiting with ⟨members, left, parted⟩
  unfold remaining
  rw [frames_close, starts_close]
  congr 1
  apply Adjacency.unopened_congr
  intro other
  rw [List.mem_append, List.mem_append]
  exact parted.met_close

theorem remaining_leave (recorded : search.Recorded graph) (waiting : node ∈ search.stack) :
    (search.leave node).remaining graph = search.remaining graph := by
  unfold leave
  dsimp only
  split
  · have stillWaits : node ∈ (search.passOn node).stack := stack_passOn.symm ▸ waiting
    rw [remaining_close recorded.passOn stillWaits, remaining_passOn]
  · exact remaining_passOn

/-- Every step is one of those that remain. -/
theorem Explored.remaining_move (explored : search.Explored graph) (closed : graph.Closed)
    (move : Move graph search later) : later.remaining graph < search.remaining graph := by
  cases move with
  | skip _ first _ => simp [remaining, first]
  | @begin start starts _ first fresh =>
      have inside := explored.starts_inside start (first ▸ List.mem_cons_self)
      have entered := remaining_enter { search with starts } inside fresh
      rw [entered]
      simp [remaining, first]
  | @enter node next ahead rest top fresh =>
      have edge := explored.edges node next ⟨_, top ▸ List.mem_cons_self, rfl, List.mem_cons_self⟩
      have entered := remaining_enter { search with frames := ⟨node, ahead⟩ :: rest }
        (closed node next edge) fresh
      rw [entered]
      simp [remaining, top]
  | lower top _ => simp [remaining, top, ComponentSearch.lower]
  | pass top _ => simp [remaining, top]
  | @leave node rest top =>
      have onWay : node ∈ search.way := way_of_top top ▸ List.mem_cons_self
      have shorter : (rest.map (·.node)).Sublist search.way :=
        way_of_top top ▸ List.sublist_cons_self _ _
      rw [remaining_leave (explored.toRecorded.along search.starts shorter)
        (explored.way_waits node onWay)]
      simp [remaining, top]

/-- Enough steps bring the search to its end. -/
theorem Explored.run (explored : search.Explored graph) (closed : graph.Closed) {bound : Nat}
    (enough : search.remaining graph ≤ bound) :
    Explored graph (search.run graph bound) ∧ (search.run graph bound).step? graph = none := by
  induction bound generalizing search with
  | zero =>
      refine ⟨explored, ?_⟩
      cases stepped : search.step? graph with
      | none => exact stepped
      | some later =>
          have less := explored.remaining_move closed (explored.move_of_step stepped)
          omega
  | succ bound induction =>
      unfold ComponentSearch.run
      cases stepped : search.step? graph with
      | none => exact ⟨explored, stepped⟩
      | some later =>
          have move := explored.move_of_step stepped
          have less := explored.remaining_move closed move
          exact induction (explored.move closed move) (by omega)

theorem mark?_fresh : (fresh graph).mark? node = none := by
  simp only [mark?, fresh, List.getD_eq_getElem?_getD, List.getElem?_map]
  cases graph.nodes[node]? <;> rfl

theorem fresh_explored (graph : Adjacency) : Explored graph (fresh graph) where
  length := by simp [fresh, Adjacency.nodes]
  waits node := by
    rw [mark?_fresh]
    simp [fresh]
  complete node := by
    rw [mark?_fresh]
    simp [fresh]
  descending := .nil
  counted _ member := nomatch member
  found_nodup := .nil
  way_waits _ member := nomatch member
  way_descending := .nil
  starts_inside _ member := Adjacency.mem_nodes.mp member
  begun _ inside := .inl (Adjacency.mem_nodes.mpr inside)
  edges _ _ awaited := nomatch awaited.choose_spec.1
  looked _ member := nomatch member
  settled _ member := nomatch member
  outward _ member := nomatch member
  homeward _ member := nomatch member
  low_le _ member := nomatch member
  low_reached _ member := nomatch member
  low_least _ member := nomatch member
  components _ member := nomatch member

theorem remaining_fresh :
    (fresh graph).remaining graph = graph.length + graph.edgeCount + graph.length := by
  simp [remaining, fresh, Adjacency.nodes, Adjacency.unopened_nil]
  omega

/-- At the end nothing waits, and every node is in a component. -/
theorem Explored.complete_of_ended (explored : search.Explored graph)
    (ended : search.step? graph = none) (node : Nat) :
    node ∈ search.found.flatten ↔ node < graph.length := by
  constructor
  · exact fun complete => explored.inside (.inr complete)
  · intro inside
    unfold step? at ended
    split at ended
    · rename_i noFrames noStarts
      rcases explored.begun node inside with start | waiting | complete
      · rw [noStarts] at start
        cases start
      · rcases explored.homeward node waiting with ⟨holder, onWay, _⟩
        rw [way, noFrames] at onWay
        cases onWay
      · exact complete
    · cases ended
    · cases ended
    · cases ended

end ComponentSearch

namespace Adjacency

variable {graph : Adjacency} {members : List Nat}

/-! ## Components -/

theorem componentSearch_ended (closed : graph.Closed) :
    graph.componentSearch.Explored graph ∧ graph.componentSearch.step? graph = none :=
  (ComponentSearch.fresh_explored graph).run closed ComponentSearch.remaining_fresh.le

theorem exists_component (closed : graph.Closed) {node : Nat} (inside : node < graph.length) :
    ∃ members ∈ graph.components, node ∈ members := by
  rcases componentSearch_ended closed with ⟨explored, ended⟩
  rcases List.mem_flatten.mp ((explored.complete_of_ended ended node).mpr inside) with
    ⟨members, found, member⟩
  exact ⟨members, List.mem_reverse.mpr found, member⟩

theorem mem_components (closed : graph.Closed) :
    members ∈ graph.components ↔ graph.IsComponent members := by
  have sound : ∀ found ∈ graph.components, graph.IsComponent found := fun found listed =>
    (componentSearch_ended closed).1.components found (List.mem_reverse.mp listed)
  constructor
  · exact sound members
  · intro isComponent
    rcases List.exists_mem_of_ne_nil _ isComponent.nonempty with ⟨node, member⟩
    rcases exists_component closed (isComponent.inside member) with ⟨found, listed, inFound⟩
    rw [isComponent.eq_of_mem (sound found listed) member inFound]
    exact listed

theorem components_flatten_nodup (closed : graph.Closed) : graph.components.flatten.Nodup := by
  have nodup := (componentSearch_ended closed).1.found_nodup
  exact (List.reverse_perm _).flatten.nodup_iff.mpr nodup

theorem components_disjoint (closed : graph.Closed) : graph.components.Pairwise List.Disjoint :=
  (List.nodup_flatten.mp (components_flatten_nodup closed)).2

/-- The search comes to its end. Its components hold every node once, each of them ascends, and
nodes are together when each of them leads to the other. -/
theorem components_partition (closed : graph.Closed) :
    graph.componentSearch.step? graph = none ∧
    graph.components.flatten.Perm graph.nodes ∧
    (∀ members ∈ graph.components, members ≠ [] ∧ members.Pairwise (· < ·)) ∧
    ∀ left < graph.length, ∀ right < graph.length,
      (∃ members ∈ graph.components, left ∈ members ∧ right ∈ members) ↔
        graph.Leads left right ∧ graph.Leads right left := by
  rcases componentSearch_ended closed with ⟨explored, ended⟩
  refine ⟨ended, ?_, ?_, ?_⟩
  · refine (List.perm_ext_iff_of_nodup (components_flatten_nodup closed) List.nodup_range).mpr ?_
    intro node
    have mem_found : node ∈ graph.components.flatten ↔
        node ∈ graph.componentSearch.found.flatten :=
      (List.reverse_perm _).flatten.mem_iff
    exact mem_found.trans ((explored.complete_of_ended ended node).trans List.mem_range.symm)
  · intro members listed
    have isComponent := (mem_components closed).mp listed
    exact ⟨isComponent.nonempty, isComponent.ascending⟩
  · intro left leftInside right rightInside
    constructor
    · rintro ⟨members, listed, leftMember, rightMember⟩
      have isComponent := (mem_components closed).mp listed
      exact ((isComponent.whole left leftMember right).mp rightMember).2
    · intro mutual_
      rcases exists_component closed leftInside with ⟨members, listed, leftMember⟩
      have isComponent := (mem_components closed).mp listed
      exact ⟨members, listed, leftMember,
        (isComponent.whole left leftMember right).mpr ⟨rightInside, mutual_⟩⟩

/-- Edges to itself and edges given twice change nothing. -/
theorem components_partition_loops :
    let graph : Adjacency := [[1, 1], [0, 1], [0, 2, 2]]
    graph.components = [[0, 1], [2]] ∧ graph.Closed ∧ graph.componentSearch.step? graph = none ∧
      graph.components.flatten.Perm graph.nodes ∧ graph.Leads 2 0 ∧
      ¬ (graph.Leads 2 0 ∧ graph.Leads 0 2) := by
  intro graph
  have closed : graph.Closed := closed_iff.mpr (by decide)
  rcases components_partition closed with ⟨ended, perm, _, together⟩
  have found : graph.components = [[0, 1], [2]] := by decide
  refine ⟨found, closed, ended, perm, .single (by decide : 0 ∈ graph.successors 2),
    fun mutual_ => ?_⟩
  rcases (together 2 (by decide) 0 (by decide)).mpr mutual_ with ⟨members, listed, hasTwo, hasZero⟩
  rw [found] at listed
  simp only [List.mem_cons, List.not_mem_nil, or_false] at listed
  rcases listed with rfl | rfl
  · simp at hasTwo
  · simp at hasZero

end Adjacency

end StaticInjection
