import StaticInjection.Proofs.Graph.Component

/-! # A shortest way back

The search for a way back to a node goes along real paths that visit no node
twice. It gives up only when nothing new is left to meet, so where some path leads
back to the node, the search finds a simple cycle. -/

namespace StaticInjection

/-- A closed walk, written without its return to the first node, that visits no
node twice. -/
structure SimpleCycle (edge : α → α → Prop) (walk : List α) : Prop where
  nonempty : walk ≠ []
  nodup : walk.Nodup
  linked : (walk ++ walk.take 1).IsChain edge

theorem SimpleCycle.map {edge : α → α → Prop} {other : β → β → Prop} {walk : List α}
    (cycle : SimpleCycle edge walk) {place : α → β}
    (injective : ∀ left ∈ walk, ∀ right ∈ walk, place left = place right → left = right)
    (keeps : ∀ left right, edge left right → other (place left) (place right)) :
    SimpleCycle other (walk.map place) where
  nonempty empty := cycle.nonempty (List.map_eq_nil_iff.mp empty)
  nodup := cycle.nodup.map_on injective
  linked := by
    rw [← List.map_take, ← List.map_append, List.isChain_map]
    exact cycle.linked.imp keeps

namespace Adjacency

variable {graph : Adjacency}

/-- A path from the start that stays among some nodes, its last node first. -/
structure Trail (graph : Adjacency) (start : Nat) (members path : List Nat) : Prop where
  starts : path.reverse.head? = some start
  nodup : path.Nodup
  inside : ∀ node ∈ path, node ∈ members
  linked : path.reverse.IsChain graph.Edge

namespace Trail

variable {start node next : Nat} {members path : List Nat}

theorem single (member : start ∈ members) : graph.Trail start members [start] where
  starts := rfl
  nodup := List.nodup_singleton start
  inside _ listed := List.mem_singleton.mp listed ▸ member
  linked := .singleton start

theorem extend (trail : graph.Trail start members (node :: path))
    (edge : graph.Edge node next) (member : next ∈ members) (fresh : next ∉ node :: path) :
    graph.Trail start members (next :: node :: path) where
  starts := by
    rw [List.reverse_cons, List.head?_append, trail.starts]
    rfl
  nodup := List.nodup_cons.mpr ⟨fresh, trail.nodup⟩
  inside other listed := by
    rcases List.mem_cons.mp listed with equal | earlier
    · exact equal ▸ member
    · exact trail.inside other earlier
  linked := by
    rw [List.reverse_cons, List.isChain_append]
    refine ⟨trail.linked, .singleton next, fun last isLast first isFirst => ?_⟩
    rw [List.getLast?_reverse] at isLast
    cases isLast
    cases isFirst
    exact edge

/-- A path whose last node leads to the start closes a cycle. -/
theorem closes (trail : graph.Trail start members (node :: path))
    (edge : graph.Edge node start) : SimpleCycle graph.Edge (node :: path).reverse where
  nonempty := by simp
  nodup := List.nodup_reverse.mpr trail.nodup
  linked := by
    have first : (node :: path).reverse.take 1 = [start] := by
      rw [List.take_one, trail.starts]
      rfl
    rw [first, List.isChain_append]
    refine ⟨trail.linked, .singleton start, fun last isLast other isFirst => ?_⟩
    rw [List.getLast?_reverse] at isLast
    cases isLast
    cases isFirst
    exact edge

end Trail

/-! ## The search -/

/-- Everything that a node leads to in one step, among some nodes, has been met. -/
def Explored (graph : Adjacency) (start : Nat) (members met : List Nat) (node : Nat) : Prop :=
  ∀ next ∈ graph.successors node, next ∈ members → next ≠ start ∧ next ∈ met

theorem Explored.append {start node : Nat} {members met : List Nat}
    (explored : graph.Explored start members met node) (fresh : List Nat) :
    graph.Explored start members (met ++ fresh) node :=
  fun next edge member => (explored next edge member).imp id (List.mem_append_left _)

/-- A node that does not lead to the start is explored when what is new has been met. -/
theorem explored_of_apart {start node : Nat} {members met : List Nat}
    (apart : start ∉ graph.successors node) :
    graph.Explored start members (met ++ members.filter fun next =>
      (graph.successors node).contains next && !met.contains next) node := by
  intro next edge member
  refine ⟨fun equal => apart (equal ▸ edge), ?_⟩
  by_cases old : next ∈ met
  · exact List.mem_append_left _ old
  · exact List.mem_append_right _ (by simp [member, edge, old])

/-- What holds between the steps of the search. -/
structure Searching (graph : Adjacency) (start : Nat) (members : List Nat)
    (queue : List (List Nat)) (met : List Nat) : Prop where
  trails : ∀ path ∈ queue, graph.Trail start members path
  queued : ∀ path ∈ queue, ∀ node ∈ path, node = start ∨ node ∈ met
  nodup : met.Nodup
  inside : ∀ node ∈ met, node ∈ members ∧ node ≠ start
  opened : ∀ node, node = start ∨ node ∈ met →
    (∃ path ∈ queue, path.head? = some node) ∨ graph.Explored start members met node

namespace Searching

variable {start : Nat} {members path met : List Nat} {queue : List (List Nat)}

theorem begin (member : start ∈ members) : graph.Searching start members [[start]] [] where
  trails path listed := List.mem_singleton.mp listed ▸ .single member
  queued path listed node inPath := by
    cases List.mem_singleton.mp listed
    exact .inl (List.mem_singleton.mp inPath)
  nodup := .nil
  inside node listed := nomatch listed
  opened node known := by
    rcases known with rfl | listed
    · exact .inl ⟨_, List.mem_singleton_self _, rfl⟩
    · cases listed

/-- There is always room for the nodes met: all of them are other nodes than the
start. -/
theorem met_length (searching : graph.Searching start members queue met)
    (member : start ∈ members) : met.length + 1 ≤ members.length := by
  have fresh : start ∉ met := fun listed => (searching.inside start listed).2 rfl
  have subset : start :: met ⊆ members := by
    intro node listed
    rcases List.mem_cons.mp listed with equal | inMet
    · exact equal ▸ member
    · exact (searching.inside node inMet).1
  exact (List.subperm_of_subset (List.nodup_cons.mpr ⟨fresh, searching.nodup⟩) subset).length_le

/-- One step without success: the nodes that are new are met, and the paths to them
are queued. -/
theorem step {node : Nat} (searching : graph.Searching start members ((node :: path) :: queue) met)
    (membersNodup : members.Nodup) (apart : start ∉ graph.successors node) :
    let fresh := members.filter fun next =>
      (graph.successors node).contains next && !met.contains next
    graph.Searching start members
      (queue ++ fresh.map (· :: node :: path)) (met ++ fresh) := by
  intro fresh
  have isFresh : ∀ next, next ∈ fresh ↔
      next ∈ members ∧ next ∈ graph.successors node ∧ next ∉ met := by
    intro next
    simp [fresh]
  have notStart : ∀ next ∈ fresh, next ≠ start := fun next listed equal =>
    apart (equal ▸ ((isFresh next).mp listed).2.1)
  have current := searching.trails _ List.mem_cons_self
  have known := searching.queued _ List.mem_cons_self
  constructor
  · intro path listed
    rcases List.mem_append.mp listed with old | new
    · exact searching.trails path (List.mem_cons_of_mem _ old)
    · obtain ⟨next, nextFresh, rfl⟩ := List.mem_map.mp new
      obtain ⟨member, edge, notMet⟩ := (isFresh next).mp nextFresh
      refine current.extend edge member fun again => ?_
      exact (known next again).elim (notStart next nextFresh) notMet
  · intro path listed other inPath
    rcases List.mem_append.mp listed with old | new
    · exact (searching.queued path (List.mem_cons_of_mem _ old) other inPath).imp id
        (List.mem_append_left _)
    · obtain ⟨next, nextFresh, rfl⟩ := List.mem_map.mp new
      rcases List.mem_cons.mp inPath with equal | earlier
      · exact .inr (List.mem_append_right _ (equal ▸ nextFresh))
      · exact (known other earlier).imp id (List.mem_append_left _)
  · refine List.nodup_append.mpr ⟨searching.nodup, membersNodup.filter _, ?_⟩
    rintro left inMet right inFresh rfl
    exact ((isFresh left).mp inFresh).2.2 inMet
  · intro other listed
    rcases List.mem_append.mp listed with old | new
    · exact searching.inside other old
    · exact ⟨((isFresh other).mp new).1, notStart other new⟩
  · intro other reached
    rw [List.mem_append, ← or_assoc] at reached
    rcases reached with old | new
    · rcases searching.opened other old with ⟨path, listed, last⟩ | explored
      · rcases List.mem_cons.mp listed with rfl | waiting
        · cases last
          exact .inr (explored_of_apart apart)
        · exact .inl ⟨path, List.mem_append_left _ waiting, last⟩
      · exact .inr (explored.append fresh)
    · exact .inl ⟨_, List.mem_append_right _ (List.mem_map_of_mem new), rfl⟩

/-- With nothing left to look at, no path leads back to the start. -/
theorem no_return (searching : graph.Searching start members [] met)
    (complete : ∀ node, graph.Mutual start node → node ∈ members) :
    ¬ Relation.TransGen graph.Edge start start := by
  have explored : ∀ node, node = start ∨ node ∈ met →
      graph.Explored start members met node := by
    intro node known
    rcases searching.opened node known with ⟨path, listed, _⟩ | explored
    · cases listed
    · exact explored
  have along : ∀ node, Relation.TransGen graph.Edge start node → graph.Leads node start →
      node ≠ start ∧ node ∈ met := by
    intro node path
    induction path with
    | single edge =>
        intro back
        exact explored start (.inl rfl) _ edge (complete _ ⟨.single edge, back⟩)
    | tail path edge induction =>
        intro back
        have earlier := induction (.head edge back)
        exact explored _ (.inr earlier.2) _ edge
          (complete _ ⟨path.to_reflTransGen.tail edge, back⟩)
  exact fun circle => (along start circle .refl).1 rfl

/-- The search finds a simple cycle through the start. Each path that leaves the
queue takes one step, and only so many nodes can be met. -/
theorem searchBack_spec (searching : graph.Searching start members queue met)
    (member : start ∈ members) (membersNodup : members.Nodup)
    (complete : ∀ node, graph.Mutual start node → node ∈ members)
    (circle : Relation.TransGen graph.Edge start start) {bound : Nat}
    (enough : queue.length + members.length ≤ bound + met.length + 1) :
    SimpleCycle graph.Edge (graph.searchBack start members bound queue met) ∧
      (graph.searchBack start members bound queue met).head? = some start ∧
      ∀ node ∈ graph.searchBack start members bound queue met, node ∈ members := by
  have room := searching.met_length member
  induction bound generalizing queue met with
  | zero =>
      have empty : queue = [] := List.length_eq_zero_iff.mp (by omega)
      exact absurd circle ((empty ▸ searching).no_return complete)
  | succ bound induction =>
      match queue with
      | [] => exact absurd circle (searching.no_return complete)
      | [] :: rest =>
          cases (searching.trails [] List.mem_cons_self).starts
      | (node :: path) :: rest =>
          have trail := searching.trails _ List.mem_cons_self
          by_cases found : start ∈ graph.successors node
          · simp only [searchBack, List.headD_cons, List.contains_iff_mem, found, if_true]
            exact ⟨trail.closes found, trail.starts, fun other listed =>
              trail.inside other (List.mem_reverse.mp listed)⟩
          · have later := searching.step membersNodup found
            simp only [searchBack, List.headD_cons, List.contains_iff_mem, found, if_false]
            refine induction later ?_ (later.met_length member)
            simp only [List.length_append, List.length_map, List.length_cons] at enough ⊢
            omega

end Searching

/-! ## Cycles in components -/

variable {node : Nat} {component : List Nat}

/-- A node leads back to itself when its component has several nodes or an edge from
one of them to itself. -/
theorem transGen_self_iff (isComponent : graph.IsComponent component)
    (listed : node ∈ component) : Relation.TransGen graph.Edge node node ↔
      1 < component.length ∨ ∃ member ∈ component, graph.Edge member member := by
  have whole := isComponent.whole node listed
  constructor
  · intro circle
    rcases Relation.TransGen.head'_iff.mp circle with ⟨next, edge, back⟩
    by_cases same : next = node
    · exact .inr ⟨node, listed, same ▸ edge⟩
    · have inside := inside_of_leads back (isComponent.inside listed)
      have inComponent := (whole next).mpr ⟨inside, .single edge, back⟩
      exact .inl (one_lt_length_of_ne inComponent listed same)
  · rintro (several | ⟨member, inComponent, edge⟩)
    · have others : 0 < (component.erase node).length := by
        rw [List.length_erase_of_mem listed]
        omega
      rcases List.length_pos_iff_exists_mem.mp others with ⟨other, rest⟩
      rcases isComponent.nodup.mem_erase_iff.mp rest with ⟨different, inComponent⟩
      rcases (whole other).mp inComponent with ⟨_, forward, backward⟩
      have leaves := (Relation.reflTransGen_iff_eq_or_transGen.mp forward).resolve_left different
      exact leaves.trans_left backward
    · rcases (whole member).mp inComponent with ⟨_, forward, backward⟩
      exact .trans_right forward (.head' edge backward)

/-- The walk is a search through the component from its smallest node. -/
theorem IsComponent.cycleWalk_eq (isComponent : graph.IsComponent component) {start : Nat}
    {rest : List Nat} (found : component = start :: rest) :
    graph.cycleWalk component =
      graph.searchBack start component (component.length + 1) [[start]] [] := by
  rw [cycleWalk, isComponent.filter_nodes, found]

/-- A component with a circle gives a simple cycle from its smallest node on. -/
theorem cycleWalk_spec (isComponent : graph.IsComponent component)
    (listed : node ∈ component) (circle : Relation.TransGen graph.Edge node node) :
    SimpleCycle graph.Edge (graph.cycleWalk component) ∧
      (graph.cycleWalk component).head? = component.head? ∧
      ∀ other ∈ graph.cycleWalk component, other ∈ component := by
  rcases List.exists_cons_of_ne_nil isComponent.nonempty with ⟨start, rest, found⟩
  have first : start ∈ component := found ▸ List.mem_cons_self
  have connected := ((isComponent.whole node listed start).mp first).2
  have back : Relation.TransGen graph.Edge start start :=
    .trans_right connected.2 (circle.trans_left connected.1)
  rw [isComponent.cycleWalk_eq found, show component.head? = some start from found ▸ rfl]
  exact (Searching.begin first).searchBack_spec first isComponent.nodup
    (fun _ => isComponent.mem_of_mutual first) back (by simp [Nat.add_comm])

end Adjacency

end StaticInjection
