import Mathlib.Algebra.BigOperators.Fin
import Mathlib.Logic.Relation
import StaticInjection.Graph.Adjacency

/-! # What a walk reaches

A walk from some nodes leaves exactly the nodes that a path leads to. The
bound on its steps is never what ends it: each step takes one visit off the
stack, and a node puts its visits on the stack only once.
-/

namespace StaticInjection.Adjacency

/-- All edges end at nodes. -/
def Closed (graph : Adjacency) : Prop :=
  ∀ node, ∀ next ∈ graph.successors node, next < graph.length

theorem closed_iff {graph : Adjacency} :
    graph.Closed ↔ ∀ targets ∈ graph, ∀ next ∈ targets, next < graph.length := by
  constructor
  · intro closed targets member next listed
    rcases List.getElem_of_mem member with ⟨node, inside, rfl⟩
    exact closed node next (by simpa [successors, inside] using listed)
  · intro closed node next edge
    by_cases inside : node < graph.length
    · exact closed graph[node] (List.getElem_mem inside) next
        (by simpa [successors, inside] using edge)
    · simp [successors, inside] at edge

def Edge (graph : Adjacency) (source target : Nat) : Prop :=
  target ∈ graph.successors source

/-- A path, perhaps an empty one, goes from one node to another. -/
abbrev Leads (graph : Adjacency) : Nat → Nat → Prop :=
  Relation.ReflTransGen graph.Edge

variable {graph : Adjacency}

theorem Closed.leads (closed : graph.Closed) {source target : Nat}
    (path : graph.Leads source target) (inside : source < graph.length) :
    target < graph.length := by
  induction path with
  | refl => exact inside
  | tail _ edge _ => exact closed _ _ edge

/-- Edges start at nodes, so what leads to a node is one. -/
theorem inside_of_leads {source target : Nat} (path : graph.Leads source target)
    (inside : target < graph.length) : source < graph.length := by
  rcases path.cases_head with rfl | ⟨next, edge, _⟩
  · exact inside
  · by_contra outside
    simp [Edge, successors, outside] at edge

/-! ## Steps that remain -/

/-- The visits that a node puts on the stack when it is entered. -/
def visits (graph : Adjacency) (node : Nat) : Nat :=
  1 + (graph.successors node).length

/-- The visits still to come from nodes that have not been entered. -/
def unopened (graph : Adjacency) (entered : List Nat) : Nat :=
  ∑ node ∈ Finset.range graph.length,
    if node ∈ entered then 0 else graph.visits node

theorem unopened_congr {left right : List Nat} (same : ∀ node, node ∈ left ↔ node ∈ right) :
    graph.unopened left = graph.unopened right := by
  simp only [unopened, same]

theorem unopened_enter {entered : List Nat} {node : Nat}
    (inside : node < graph.length) (fresh : node ∉ entered) :
    graph.unopened entered =
      graph.visits node + graph.unopened (node :: entered) := by
  have member : node ∈ Finset.range graph.length := Finset.mem_range.mpr inside
  unfold unopened
  rw [← Finset.add_sum_erase _ _ member, ← Finset.add_sum_erase _ _ member]
  have others : ∀ other ∈ (Finset.range graph.length).erase node,
      (if other ∈ entered then 0 else graph.visits other) =
        if other ∈ node :: entered then 0 else graph.visits other := by
    intro other rest
    have different : other ≠ node := Finset.ne_of_mem_erase rest
    simp [different]
  rw [Finset.sum_congr rfl others]
  simp [fresh]

theorem unopened_nil :
    graph.unopened [] = graph.edgeCount + graph.length := by
  have lengths : ∑ node ∈ Finset.range graph.length,
      (graph.successors node).length = graph.edgeCount := by
    rw [Finset.sum_range, edgeCount, List.length_flatten, ← List.sum_ofFn]
    congr 1
    apply List.ext_getElem
    · simp
    · intro position left right
      simp [successors]
  simp only [unopened, visits, List.not_mem_nil, if_false,
    Finset.sum_add_distrib, lengths]
  simp [Nat.add_comm]

/-! ## One walk -/

/-- What holds between the steps of a walk: nodes being left were entered, and
every successor of an entered node was entered or will be. -/
structure Pending (graph : Adjacency) (stack : List Visit)
    (entered : List Nat) : Prop where
  inside : ∀ node, .enter node ∈ stack → node < graph.length
  opened : ∀ node, .leave node ∈ stack → node ∈ entered
  scheduled : ∀ node ∈ entered, ∀ next ∈ graph.successors node,
    next ∈ entered ∨ .enter next ∈ stack

/-- What holds at the end of a walk that leaves some nodes. -/
structure Finished (graph : Adjacency) (stack : List Visit)
    (entered left : List Nat) : Prop where
  leaves : ∀ node, .leave node ∈ stack → node ∈ left
  enters : ∀ node, .enter node ∈ stack → node ∈ entered ∨ node ∈ left
  complete : ∀ node, node ∈ entered ∨ node ∈ left →
    ∀ next ∈ graph.successors node, next ∈ entered ∨ next ∈ left

namespace Pending

variable {stack : List Visit} {entered : List Nat} {node : Nat}

theorem skip (pending : graph.Pending (.enter node :: stack) entered)
    (known : node ∈ entered) : graph.Pending stack entered where
  inside other member := pending.inside other (List.mem_cons_of_mem _ member)
  opened other member := pending.opened other (List.mem_cons_of_mem _ member)
  scheduled other member next edge := by
    rcases pending.scheduled other member next edge with inside | ahead
    · exact .inl inside
    · rcases List.mem_cons.mp ahead with equal | ahead
      · injection equal with same
        exact .inl (same ▸ known)
      · exact .inr ahead

theorem leave (pending : graph.Pending (.leave node :: stack) entered) :
    graph.Pending stack entered where
  inside other member := pending.inside other (List.mem_cons_of_mem _ member)
  opened other member := pending.opened other (List.mem_cons_of_mem _ member)
  scheduled other member next edge := by
    rcases pending.scheduled other member next edge with inside | ahead
    · exact .inl inside
    · rcases List.mem_cons.mp ahead with equal | ahead
      · cases equal
      · exact .inr ahead

theorem enter (pending : graph.Pending (.enter node :: stack) entered)
    (closed : graph.Closed) :
    graph.Pending ((graph.successors node).map .enter ++ .leave node :: stack)
      (node :: entered) where
  inside other member := by
    rcases List.mem_append.mp member with fresh | old
    · rcases List.mem_map.mp fresh with ⟨next, edge, equal⟩
      injection equal with same
      exact same ▸ closed node next edge
    · rcases List.mem_cons.mp old with equal | old
      · cases equal
      · exact pending.inside other (List.mem_cons_of_mem _ old)
  opened other member := by
    rcases List.mem_append.mp member with fresh | old
    · rcases List.mem_map.mp fresh with ⟨next, _, equal⟩
      cases equal
    · rcases List.mem_cons.mp old with equal | old
      · injection equal with same
        exact same ▸ List.mem_cons_self
      · exact List.mem_cons_of_mem _
          (pending.opened other (List.mem_cons_of_mem _ old))
  scheduled other member next edge := by
    rcases List.mem_cons.mp member with equal | earlier
    · exact .inr (List.mem_append_left _
        (List.mem_map.mpr ⟨next, equal ▸ edge, rfl⟩))
    · rcases pending.scheduled other earlier next edge with known | ahead
      · exact .inl (List.mem_cons_of_mem _ known)
      · rcases List.mem_cons.mp ahead with equal | ahead
        · injection equal with same
          exact .inl (same ▸ List.mem_cons_self)
        · exact .inr (List.mem_append_right _ (List.mem_cons_of_mem _ ahead))

end Pending

namespace Finished

variable {stack : List Visit} {entered left : List Nat} {node : Nat}

theorem skip (finished : graph.Finished stack entered left)
    (known : node ∈ entered) :
    graph.Finished (.enter node :: stack) entered left where
  leaves other member := finished.leaves other (by simpa using member)
  enters other member := by
    rcases List.mem_cons.mp member with equal | member
    · injection equal with same
      exact .inl (same ▸ known)
    · exact finished.enters other member
  complete := finished.complete

theorem leave (finished : graph.Finished stack entered left)
    (opened : node ∈ entered) :
    graph.Finished (.leave node :: stack) entered (node :: left) where
  leaves other member := by
    rcases List.mem_cons.mp member with equal | member
    · injection equal with same
      exact same ▸ List.mem_cons_self
    · exact List.mem_cons_of_mem _ (finished.leaves other member)
  enters other member := by
    rcases List.mem_cons.mp member with equal | member
    · cases equal
    · exact (finished.enters other member).imp id (List.mem_cons_of_mem _)
  complete other known next edge := by
    have earlier : other ∈ entered ∨ other ∈ left := by
      rcases known with known | known
      · exact .inl known
      · rcases List.mem_cons.mp known with equal | known
        · exact .inl (equal ▸ opened)
        · exact .inr known
    exact (finished.complete other earlier next edge).imp id
      (List.mem_cons_of_mem _)

theorem enter
    (finished : graph.Finished
      ((graph.successors node).map .enter ++ .leave node :: stack)
      (node :: entered) left) :
    graph.Finished (.enter node :: stack) entered left := by
  have isLeft : node ∈ left :=
    finished.leaves node (List.mem_append_right _ List.mem_cons_self)
  have settled : ∀ other, other ∈ node :: entered ∨ other ∈ left →
      other ∈ entered ∨ other ∈ left := by
    rintro other (known | known)
    · rcases List.mem_cons.mp known with equal | known
      · exact .inr (equal ▸ isLeft)
      · exact .inl known
    · exact .inr known
  constructor
  · intro other member
    exact finished.leaves other (List.mem_append_right _
      (List.mem_cons_of_mem _ (by simpa using member)))
  · intro other member
    rcases List.mem_cons.mp member with equal | member
    · injection equal with same
      exact .inr (same ▸ isLeft)
    · exact settled other (finished.enters other
        (List.mem_append_right _ (List.mem_cons_of_mem _ member)))
  · intro other known next edge
    exact settled next (finished.complete other
      (known.imp (List.mem_cons_of_mem _) id) next edge)

end Finished

theorem walk_finished (closed : graph.Closed) (bound : Nat) (stack : List Visit)
    (entered : List Nat) (pending : graph.Pending stack entered)
    (enough : stack.length + graph.unopened entered ≤ bound) :
    graph.Finished stack entered (graph.walk bound stack entered) := by
  induction bound generalizing stack entered with
  | zero =>
      have empty : stack = [] := List.length_eq_zero_iff.mp (by omega)
      subst empty
      exact ⟨by simp, by simp, fun node known next edge => by
        simpa [walk] using
          pending.scheduled node (by simpa [walk] using known) next edge⟩
  | succ bound induction =>
      match stack with
      | [] =>
          exact ⟨by simp, by simp, fun node known next edge => by
            simpa [walk] using
              pending.scheduled node (by simpa [walk] using known) next edge⟩
      | .leave node :: rest =>
          have later := induction rest entered pending.leave
            (by simp only [List.length_cons] at enough; omega)
          exact later.leave (pending.opened node List.mem_cons_self)
      | .enter node :: rest =>
          by_cases known : node ∈ entered
          · have later := induction rest entered (pending.skip known)
              (by simp only [List.length_cons] at enough; omega)
            simpa only [walk, List.contains_iff_mem, known, if_true] using
              later.skip known
          · have inside := pending.inside node List.mem_cons_self
            have later := induction _ _ (pending.enter closed) (by
              rw [graph.unopened_enter inside known] at enough
              simp only [List.length_append, List.length_map, List.length_cons,
                visits] at enough ⊢
              omega)
            simpa only [walk, List.contains_iff_mem, known, if_false] using
              later.enter

theorem leads_of_mem_walk {bound : Nat} {stack : List Visit}
    {entered : List Nat} {node : Nat}
    (member : node ∈ graph.walk bound stack entered) :
    .leave node ∈ stack ∨ ∃ start, .enter start ∈ stack ∧ graph.Leads start node := by
  induction bound generalizing stack entered with
  | zero => simp [walk] at member
  | succ bound induction =>
      match stack with
      | [] => simp [walk] at member
      | .leave other :: rest =>
          simp only [walk, List.mem_cons] at member
          rcases member with equal | member
          · exact .inl (equal ▸ List.mem_cons_self)
          · rcases induction member with leaving | ⟨start, scheduled, path⟩
            · exact .inl (List.mem_cons_of_mem _ leaving)
            · exact .inr ⟨start, List.mem_cons_of_mem _ scheduled, path⟩
      | .enter other :: rest =>
          simp only [walk] at member
          split at member
          · rcases induction member with leaving | ⟨start, scheduled, path⟩
            · exact .inl (List.mem_cons_of_mem _ leaving)
            · exact .inr ⟨start, List.mem_cons_of_mem _ scheduled, path⟩
          · rcases induction member with leaving | ⟨start, scheduled, path⟩
            · rcases List.mem_append.mp leaving with fresh | old
              · rcases List.mem_map.mp fresh with ⟨_, _, equal⟩
                cases equal
              · rcases List.mem_cons.mp old with equal | old
                · injection equal with same
                  exact .inr ⟨other, List.mem_cons_self, same ▸ .refl⟩
                · exact .inl (List.mem_cons_of_mem _ old)
            · rcases List.mem_append.mp scheduled with fresh | old
              · rcases List.mem_map.mp fresh with ⟨next, edge, equal⟩
                injection equal with same
                exact .inr ⟨other, List.mem_cons_self, .head edge (same ▸ path)⟩
              · rcases List.mem_cons.mp old with equal | old
                · cases equal
                · exact .inr ⟨start, List.mem_cons_of_mem _ old, path⟩

/-! ## Walks from some nodes -/

theorem mem_walkFrom (closed : graph.Closed) (starts : List Nat)
    (inside : ∀ start ∈ starts, start < graph.length) (node : Nat) :
    node ∈ graph.walkFrom starts ↔ ∃ start ∈ starts, graph.Leads start node := by
  have isStart : ∀ start, Visit.enter start ∈ starts.map Visit.enter ↔
      start ∈ starts := by simp
  have pending : graph.Pending (starts.map .enter) [] :=
    { inside := fun start member => inside start ((isStart start).mp member)
      opened := by simp
      scheduled := by simp }
  constructor
  · intro member
    rcases leads_of_mem_walk member with leaving | ⟨start, scheduled, path⟩
    · simp at leaving
    · exact ⟨start, (isStart start).mp scheduled, path⟩
  · rintro ⟨start, member, path⟩
    have finished := walk_finished closed
      (starts.length + graph.edgeCount + graph.length) (starts.map .enter) []
      pending (by rw [unopened_nil, List.length_map]; omega)
    induction path with
    | refl =>
        simpa [walkFrom] using finished.enters start ((isStart start).mpr member)
    | tail _ edge reached =>
        simpa [walkFrom] using finished.complete _ (.inr reached) _ edge

@[simp] theorem mem_nodes {node : Nat} : node ∈ graph.nodes ↔ node < graph.length := by
  simp [nodes]

theorem mem_reachable (closed : graph.Closed) {node other : Nat}
    (inside : node < graph.length) :
    other ∈ graph.reachable node ↔ graph.Leads node other := by
  simpa [reachable] using
    mem_walkFrom closed [node] (by simpa using inside) other

end StaticInjection.Adjacency
