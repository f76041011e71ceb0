import Mathlib.Data.List.Cycle
import StaticInjection.Proofs.Graph.ComponentSearch
import StaticInjection.Proofs.Graph.CycleWalk

/-! # Shortest cycles

The search back to a node looks at nodes in the order of their distance: its queue holds the
shorter paths first, and everything that is nearer than the first of them has been looked at. So
the first way back that it finds is a shortest one. -/

namespace StaticInjection.Adjacency

variable {graph : Adjacency} {start node : Nat} {members : List Nat} {count : Nat}

/-! ## Walks -/

/-- A walk among some nodes comes from the start to a node. The number is that of the nodes on it,
both ends included. -/
inductive Walked (graph : Adjacency) (start : Nat) (members : List Nat) : Nat → Nat → Prop
  | here : Walked graph start members 1 start
  | further {count node next : Nat} (walked : Walked graph start members count node)
      (edge : graph.Edge node next) (member : next ∈ members) :
      Walked graph start members (count + 1) next

namespace Walked

theorem pos (walked : graph.Walked start members count node) : 0 < count := by
  cases walked <;> exact Nat.succ_pos _

theorem leads (walked : graph.Walked start members count node) : graph.Leads start node := by
  induction walked with
  | here => exact .refl
  | further _ edge _ induction => exact induction.tail edge

/-- A walk that goes on to the start stays among the nodes that lead to it and back. -/
theorem around (walked : graph.Walked start members count node)
    (complete : ∀ other, graph.Mutual start other → other ∈ members) {rest : List Nat}
    (linked : (node :: (rest ++ [start])).IsChain graph.Edge) :
    ∃ last, graph.Walked start members (count + rest.length) last ∧ graph.Edge last start := by
  induction rest generalizing count node with
  | nil => exact ⟨node, walked, List.isChain_pair.mp linked⟩
  | cons next rest induction =>
      obtain ⟨edge, later⟩ := List.isChain_cons_cons.mp linked
      have back : graph.Leads next start :=
        List.relationReflTransGen_of_exists_isChain_cons _ later (by simp)
      have member := complete next ⟨walked.leads.tail edge, back⟩
      obtain ⟨last, onTheWay, closes⟩ := induction (walked.further edge member) later
      refine ⟨last, ?_, closes⟩
      rwa [List.length_cons, Nat.add_comm rest.length, ← Nat.add_assoc]

end Walked

/-- A cycle is a walk from each of its nodes back to it. -/
theorem exists_walked_of_cycle (complete : ∀ other, graph.Mutual start other → other ∈ members)
    {cycle : Cycle Nat} (through : start ∈ cycle) (linked : cycle.Chain graph.Edge) :
    ∃ last, graph.Walked start members cycle.length last ∧ graph.Edge last start := by
  obtain ⟨walk, rfl⟩ : ∃ walk : List Nat, (walk : Cycle Nat) = cycle := Quotient.exists_rep cycle
  obtain ⟨front, back, rfl⟩ := List.append_of_mem (Cycle.mem_coe_iff.mp through)
  have turned : ((front ++ start :: back : List Nat) : Cycle Nat) =
      ((start :: (back ++ front) : List Nat) : Cycle Nat) :=
    Cycle.coe_eq_coe.mpr List.isRotated_append
  rw [turned] at linked ⊢
  obtain ⟨last, walked, closes⟩ := Walked.here.around complete linked
  refine ⟨last, ?_, closes⟩
  rwa [Cycle.length_coe, List.length_cons, Nat.add_comm]

/-! ## The order of the search -/

/-- What a walk of so many nodes reaches is explored, or waits at the end of a path that is no
longer than the walk, or is farther than something that waits. -/
def Awaited (graph : Adjacency) (start : Nat) (members : List Nat) (queue : List (List Nat))
    (met : List Nat) (count node : Nat) : Prop :=
  graph.Explored start members met node ∨
    (∃ path ∈ queue, path.head? = some node ∧ path.length ≤ count) ∨
    ∃ path ∈ queue, path.length < count

/-- The search takes nodes in the order of their distance. -/
structure Layered (graph : Adjacency) (start : Nat) (members : List Nat)
    (queue : List (List Nat)) (met : List Nat) : Prop where
  ascending : queue.Pairwise fun left right => left.length ≤ right.length
  close : ∀ left ∈ queue, ∀ right ∈ queue, right.length ≤ left.length + 1
  reached : ∀ count node, graph.Walked start members count node →
    graph.Awaited start members queue met count node

namespace Layered

variable {path met : List Nat} {queue : List (List Nat)}

theorem begin : graph.Layered start members [[start]] [] where
  ascending := List.pairwise_singleton _ _
  close left isLeft right isRight := by
    cases List.mem_singleton.mp isLeft
    cases List.mem_singleton.mp isRight
    simp
  reached count node walked := by
    cases walked with
    | here => exact .inr (.inl ⟨[start], by simp⟩)
    | further walked _ _ =>
        exact .inr (.inr ⟨[start], List.mem_singleton_self _, Nat.succ_lt_succ walked.pos⟩)

/-- No walk that is shorter than the first path of the queue ends at a node that leads to the
start. -/
theorem length_le (layered : graph.Layered start members (path :: queue) met)
    (member : start ∈ members) (walked : graph.Walked start members count node)
    (closes : graph.Edge node start) : path.length ≤ count := by
  have first : ∀ other ∈ path :: queue, path.length ≤ other.length := by
    intro other listed
    rcases List.mem_cons.mp listed with rfl | later
    · exact Nat.le_refl _
    · exact (List.pairwise_cons.mp layered.ascending).1 other later
  rcases layered.reached count node walked with explored | ⟨other, listed, _, within⟩ |
    ⟨other, listed, within⟩
  · exact absurd rfl (explored start closes member).1
  · exact Nat.le_trans (first other listed) within
  · exact Nat.le_trans (first other listed) (Nat.le_of_lt within)

/-- One step without success. The new paths are longer by one than the path that they go on. -/
theorem step (layered : graph.Layered start members ((node :: path) :: queue) met)
    (searching : graph.Searching start members ((node :: path) :: queue) met)
    (membersNodup : members.Nodup) (apart : start ∉ graph.successors node) :
    let fresh := members.filter fun next =>
      (graph.successors node).contains next && !met.contains next
    graph.Layered start members (queue ++ fresh.map (· :: node :: path)) (met ++ fresh) := by
  intro fresh
  obtain ⟨first, others⟩ := List.pairwise_cons.mp layered.ascending
  have atMost : ∀ other ∈ queue, other.length ≤ (node :: path).length + 1 := fun other listed =>
    layered.close _ List.mem_cons_self other (List.mem_cons_of_mem _ listed)
  have longer : ∀ other ∈ fresh.map (· :: node :: path),
      other.length = (node :: path).length + 1 := by
    intro other listed
    obtain ⟨next, _, rfl⟩ := List.mem_map.mp listed
    rfl
  have bounds : ∀ other ∈ queue ++ fresh.map (· :: node :: path),
      (node :: path).length ≤ other.length ∧ other.length ≤ (node :: path).length + 1 := by
    intro other listed
    rcases List.mem_append.mp listed with old | new
    · exact ⟨first other old, atMost other old⟩
    · rw [longer other new]
      exact ⟨Nat.le_succ _, Nat.le_refl _⟩
  constructor
  case ascending =>
    refine List.pairwise_append.mpr ⟨others, ?_, ?_⟩
    · exact List.pairwise_of_forall_mem_list fun left isLeft right isRight =>
        ((longer left isLeft).trans (longer right isRight).symm).le
    · intro left isLeft right isRight
      exact (atMost left isLeft).trans (longer right isRight).ge
  case close =>
    intro left isLeft right isRight
    exact (bounds right isRight).2.trans (Nat.succ_le_succ (bounds left isLeft).1)
  case reached =>
    have later := searching.step membersNodup apart
    -- Only what is farther than the path that leaves the queue has to be accounted for anew.
    have settled : ∀ count other, graph.Walked start members count other →
        graph.Awaited start members (queue ++ fresh.map (· :: node :: path)) (met ++ fresh)
          count other ∨ (node :: path).length < count := by
      intro count other walked
      rcases layered.reached count other walked with explored | ⟨way, listed, last, within⟩ |
        ⟨way, listed, within⟩
      · exact .inl (.inl (explored.append fresh))
      · rcases List.mem_cons.mp listed with rfl | waiting
        · cases last
          exact .inl (.inl (explored_of_apart apart))
        · exact .inl (.inr (.inl ⟨way, List.mem_append_left _ waiting, last, within⟩))
      · rcases List.mem_cons.mp listed with rfl | waiting
        · exact .inr within
        · exact .inl (.inr (.inr ⟨way, List.mem_append_left _ waiting, within⟩))
    intro count other walked
    induction walked with
    | here =>
        refine (settled 1 start .here).resolve_right fun farther => ?_
        simp at farther
    | @further count before other walked edge member induction =>
        rcases settled (count + 1) other (walked.further edge member) with awaited | farther
        · exact awaited
        -- The node before is accounted for: either it was looked at, and so its successor waits
        -- with a path that is not longer, or something that is nearer still waits.
        rcases induction with explored | ⟨way, listed, _, within⟩ | ⟨way, listed, within⟩
        · have known := (explored other edge member).2
          rcases later.opened other (.inr known) with ⟨way, listed, last⟩ | done
          · refine .inr (.inl ⟨way, listed, last, ?_⟩)
            have isBelow := (bounds way listed).2
            omega
          · exact .inl done
        · exact .inr (.inr ⟨way, listed, Nat.lt_succ_of_le within⟩)
        · exact .inr (.inr ⟨way, listed, Nat.lt_succ_of_lt within⟩)

/-- The way back that the search finds is no longer than any other one. -/
theorem searchBack_length_le (layered : graph.Layered start members queue met)
    (searching : graph.Searching start members queue met) (member : start ∈ members)
    (membersNodup : members.Nodup) (walked : graph.Walked start members count node)
    (closes : graph.Edge node start) (bound : Nat) :
    (graph.searchBack start members bound queue met).length ≤ count := by
  induction bound generalizing queue met with
  | zero => exact walked.pos
  | succ bound induction =>
      match queue with
      | [] => exact walked.pos
      | [] :: rest => cases (searching.trails [] List.mem_cons_self).starts
      | (last :: path) :: rest =>
          by_cases found : start ∈ graph.successors last
          · simp only [searchBack, List.headD_cons, List.contains_iff_mem, found, if_true,
              List.length_reverse]
            exact layered.length_le member walked closes
          · simp only [searchBack, List.headD_cons, List.contains_iff_mem, found, if_false]
            exact induction (layered.step searching membersNodup found)
              (searching.step membersNodup found)

end Layered

/-! ## Cycles in components -/

/-- What is walked through depends on the members only, in whatever order they are given. -/
theorem cycleWalk_congr {left right : List Nat} (same : ∀ node, node ∈ left ↔ node ∈ right) :
    graph.cycleWalk left = graph.cycleWalk right := by
  have members : graph.nodes.filter left.contains = graph.nodes.filter right.contains :=
    List.filter_congr fun node _ => by simp [same node]
  rw [cycleWalk, cycleWalk, members]

/-- A component of several nodes, or with an edge from a node to itself, has a simple cycle from
its smallest node on, and no cycle through that node is shorter. -/
theorem shortest_cycle {component listing : List Nat} (isComponent : graph.IsComponent component)
    (listed : ∀ node, node ∈ listing ↔ node ∈ component)
    (circular : 1 < component.length ∨ ∃ node ∈ component, graph.Edge node node) :
    SimpleCycle graph.Edge (graph.cycleWalk listing) ∧
      (∀ node ∈ graph.cycleWalk listing, node ∈ component) ∧
      ∃ start ∈ component, (∀ node ∈ component, start ≤ node) ∧
        (graph.cycleWalk listing).head? = some start ∧
        ∀ cycle : Cycle Nat, start ∈ cycle → cycle.Chain graph.Edge →
          (graph.cycleWalk listing).length ≤ cycle.length := by
  rw [cycleWalk_congr listed]
  obtain ⟨start, rest, found⟩ := List.exists_cons_of_ne_nil isComponent.nonempty
  have first : start ∈ component := found ▸ List.mem_cons_self
  have circle := (transGen_self_iff isComponent first).mpr circular
  obtain ⟨simple, starts, inside⟩ := cycleWalk_spec isComponent first circle
  refine ⟨simple, inside, start, first, ?_, ?_, ?_⟩
  · have ascending := isComponent.ascending
    rw [found] at ascending ⊢
    intro node member
    rcases List.mem_cons.mp member with equal | later
    · exact equal.ge
    · exact ((List.pairwise_cons.mp ascending).1 node later).le
  · rw [starts, found, List.head?_cons]
  · intro cycle through linked
    obtain ⟨last, walked, closes⟩ :=
      exists_walked_of_cycle (fun _ => isComponent.mem_of_mutual first) through linked
    rw [isComponent.cycleWalk_eq found]
    exact Layered.begin.searchBack_length_le (.begin first) first isComponent.nodup walked closes _

/-- The edge across is taken, and the one from the last node to itself is of no use. -/
theorem shortest_cycle_across :
    let graph : Adjacency := [[1], [2, 3], [3, 3], [0, 3]]
    graph.IsComponent [0, 1, 2, 3] ∧
      (∀ node, node ∈ [3, 1, 0, 2] ↔ node ∈ [0, 1, 2, 3]) ∧ 1 < [0, 1, 2, 3].length ∧
      graph.cycleWalk [3, 1, 0, 2] = [0, 1, 3] ∧ SimpleCycle graph.Edge [0, 1, 3] ∧
      ∀ cycle : Cycle Nat, 0 ∈ cycle → cycle.Chain graph.Edge → 3 ≤ cycle.length := by
  intro graph
  have closed : graph.Closed := closed_iff.mpr (by decide)
  have isComponent : graph.IsComponent [0, 1, 2, 3] := (mem_components closed).mp (by decide)
  have listed : ∀ node, node ∈ [3, 1, 0, 2] ↔ node ∈ [0, 1, 2, 3] := by
    intro node
    simp only [List.mem_cons, List.not_mem_nil, or_false]
    tauto
  have several : 1 < [0, 1, 2, 3].length := by decide
  have walk : graph.cycleWalk [3, 1, 0, 2] = [0, 1, 3] := by decide
  obtain ⟨simple, _, start, _, _, first, least⟩ := shortest_cycle isComponent listed (.inl several)
  rw [walk] at simple first least
  cases first
  exact ⟨isComponent, listed, several, walk, simple, least⟩

end StaticInjection.Adjacency
