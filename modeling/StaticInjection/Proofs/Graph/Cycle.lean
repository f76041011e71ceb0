import StaticInjection.Graph.Cycle
import StaticInjection.Proofs.Graph.Dependency
import StaticInjection.Proofs.Graph.Presentation

/-! # Cycles of providers

The graph on positions says which providers need each other, directly or through
others. So the cycles of a dependency graph are its components in which a provider
needs itself, each of them once, with a simple cycle from its first provider on. -/

namespace StaticInjection

namespace Provider

/-- Beans stand before sockets, and both by their numbers. -/
def Before (left right : Provider) : Prop :=
  left.key.1 < right.key.1 ∨ left.key.1 = right.key.1 ∧ left.key.2 < right.key.2

theorem Before.asymm {left right : Provider} (before : left.Before right) :
    ¬ right.Before left := by
  unfold Before at *
  omega

theorem Before.ne {left right : Provider} (before : left.Before right) : left ≠ right := by
  rintro rfl
  exact before.asymm before

/-- Two ascending lists of the same providers are equal. -/
theorem eq_of_ascending {left right : List Provider} (leftAscending : left.Pairwise Before)
    (rightAscending : right.Pairwise Before) (same : ∀ node, node ∈ left ↔ node ∈ right) :
    left = right :=
  eq_of_ordered (fun _ _ => Before.asymm) leftAscending rightAscending same

end Provider

namespace DependencyGraph

/-- An edge that is not lazy leads from one provider to another. -/
def Needs (graph : DependencyGraph) (source target : Provider) : Prop :=
  ∃ edge ∈ graph.edges, edge.isLazy = false ∧ edge.source = source ∧ edge.target = target

/-- Each of two providers needs the other, perhaps through further ones. -/
def Together (graph : DependencyGraph) (left right : Provider) : Prop :=
  Relation.ReflTransGen graph.Needs left right ∧ Relation.ReflTransGen graph.Needs right left

/-- A strongly connected component, ascending. -/
structure IsComponent (graph : DependencyGraph) (members : List Provider) : Prop where
  nonempty : members ≠ []
  ascending : members.Pairwise Provider.Before
  whole : ∀ node ∈ members, ∀ other,
    other ∈ members ↔ other ∈ graph.nodes ∧ graph.Together node other

/-- Several providers, or one that needs itself. -/
def IsCircular (graph : DependencyGraph) (members : List Provider) : Prop :=
  1 < members.length ∨ ∃ node ∈ members, graph.Needs node node

/-- A circular component, with a simple cycle inside it from its first provider on. -/
structure IsCycle (graph : DependencyGraph) (cycle : DependencyCycle) : Prop where
  component : graph.IsComponent cycle.members
  circular : graph.IsCircular cycle.members
  simple : SimpleCycle graph.Needs cycle.nodes
  inside : ∀ node ∈ cycle.nodes, node ∈ cycle.members
  first : cycle.nodes.head? = cycle.members.head?

/-- Nodes ascend, and both ends of an edge are nodes. -/
structure Laid (graph : DependencyGraph) : Prop where
  ascending : graph.nodes.Pairwise Provider.Before
  held : ∀ edge ∈ graph.edges, edge.source ∈ graph.nodes ∧ edge.target ∈ graph.nodes

/-- The graph on the positions, without lazy edges. -/
abbrev eager (graph : DependencyGraph) : Adjacency :=
  graph.adjacency false

variable {graph : DependencyGraph}

/-! ## Positions -/

theorem eager_length (graph : DependencyGraph) : graph.eager.length = graph.nodes.length := by
  simp [eager, adjacency]

theorem hasSelfEdge_iff {node : Provider} :
    graph.hasSelfEdge node = true ↔ graph.Needs node node := by
  simp only [hasSelfEdge, outgoing, List.any_filter, List.any_eq_true, Bool.and_eq_true,
    beq_iff_eq, Bool.not_eq_true', Needs]
  exact exists_congr fun edge => and_congr_right fun _ =>
    ⟨fun ⟨source, eager, target⟩ => ⟨eager, source, target⟩,
      fun ⟨eager, source, target⟩ => ⟨source, eager, target⟩⟩

namespace Laid

variable (laid : graph.Laid)

include laid

theorem nodup : graph.nodes.Nodup :=
  laid.ascending.imp Provider.Before.ne

theorem itemAt_before {left right : Nat} (before : left < right)
    (inside : right < graph.nodes.length) :
    (itemAt graph.nodes left).Before (itemAt graph.nodes right) := by
  have apart := List.pairwise_iff_getElem.mp laid.ascending left right (by omega) inside before
  simpa [itemAt, inside, Nat.lt_trans before inside] using apart

theorem needs_mem {source target : Provider} (needs : graph.Needs source target) :
    source ∈ graph.nodes ∧ target ∈ graph.nodes := by
  obtain ⟨edge, member, _, rfl, rfl⟩ := needs
  exact laid.held edge member

theorem position?_eq_some {node : Provider} {position : Nat} :
    graph.position? node = some position ↔
      position < graph.nodes.length ∧ itemAt graph.nodes position = node :=
  idxOf?_eq_some_itemAt laid.nodup

theorem edge_iff {source target : Nat} : graph.eager.Edge source target ↔
    source < graph.nodes.length ∧ target < graph.nodes.length ∧
      graph.Needs (itemAt graph.nodes source) (itemAt graph.nodes target) := by
  unfold Adjacency.Edge Adjacency.successors eager adjacency
  rw [List.getD_eq_getElem?_getD, List.getElem?_map]
  by_cases inside : source < graph.nodes.length
  · rw [getElem?_eq_itemAt inside]
    simp only [Option.map_some, Option.getD_some, List.mem_filterMap, List.mem_filter, outgoing,
      Bool.false_or, Bool.not_eq_true', beq_iff_eq, laid.position?_eq_some, inside, true_and]
    constructor
    · rintro ⟨edge, ⟨⟨member, isSource⟩, eager⟩, targetInside, isTarget⟩
      exact ⟨targetInside, edge, member, eager, isSource, isTarget.symm⟩
    · rintro ⟨targetInside, edge, member, eager, isSource, isTarget⟩
      exact ⟨edge, ⟨⟨member, isSource⟩, eager⟩, targetInside, isTarget.symm⟩
  · simp [inside]

/-- The graph on the positions says what the nodes need. -/
theorem presents : graph.eager.Presents graph.nodes graph.Needs where
  nodup := laid.nodup
  length := eager_length graph
  edge_iff _ _ := laid.edge_iff
  listed _ _ := laid.needs_mem

/-! ## Components -/

theorem isComponent_iff {members : List Provider} :
    graph.IsComponent members ↔ ComponentOf graph.nodes graph.Needs members := by
  constructor
  · intro isComponent
    have inNodes : ∀ node ∈ members, node ∈ graph.nodes := fun node listed =>
      ((isComponent.whole node listed node).mp listed).1
    refine ⟨isComponent.nonempty, ?_, isComponent.whole⟩
    have equal : members = graph.nodes.filter (· ∈ members) := by
      apply Provider.eq_of_ascending isComponent.ascending (laid.ascending.filter _)
      intro node
      simpa using inNodes node
    exact equal ▸ List.filter_sublist
  · intro isComponent
    exact ⟨isComponent.nonempty, laid.ascending.sublist isComponent.listed, isComponent.whole⟩

/-- The nodes of a circular component need themselves, at whatever distance. -/
theorem isCircular_iff {members : List Provider} (isComponent : graph.IsComponent members)
    {node : Provider} (listed : node ∈ members) :
    graph.IsCircular members ↔ Relation.TransGen graph.Needs node node :=
  (laid.presents.circle_iff (laid.isComponent_iff.mp isComponent) listed).symm

/-! ## Cycles -/

theorem providersAt_component {places : List Nat} (listed : places ∈ graph.eager.components) :
    graph.providersAt places = places.map (itemAt graph.nodes) :=
  filterMap_getElem? (laid.presents.inside_of_mem_components listed)

theorem mem_cyclicComponents {places : List Nat} : places ∈ graph.cyclicComponents ↔
    places ∈ graph.eager.components ∧ graph.IsCircular (places.map (itemAt graph.nodes)) := by
  rw [cyclicComponents, List.mem_mergeSort, List.mem_filter]
  refine and_congr_right fun listed => ?_
  rw [isCyclic, laid.providersAt_component listed, IsCircular, List.length_map]
  simp only [Bool.or_eq_true, decide_eq_true_eq, List.any_eq_true, hasSelfEdge_iff, gt_iff_lt]

theorem isComponent_map {places : List Nat} (listed : places ∈ graph.eager.components) :
    graph.IsComponent (places.map (itemAt graph.nodes)) :=
  laid.isComponent_iff.mpr (laid.presents.mem_components.mp (List.mem_map_of_mem listed))

/-- Components come by their smallest positions. -/
theorem cyclicComponents_ascending :
    graph.cyclicComponents.Pairwise fun left right => left.headD 0 < right.headD 0 := by
  have sorted : graph.cyclicComponents.Pairwise fun left right =>
      decide (left.headD 0 ≤ right.headD 0) = true :=
    List.pairwise_mergeSort (fun _ _ _ first second => by simp at *; omega)
      (fun _ _ => by simp; omega) _
  have apart : graph.cyclicComponents.Pairwise List.Disjoint :=
    ((List.mergeSort_perm _ _).pairwise_iff fun disjoint => disjoint.symm).mpr
      ((Adjacency.components_disjoint laid.presents.closed).filter _)
  refine (sorted.and apart).imp_of_mem fun {left right} leftListed rightListed both => ?_
  have headIn : ∀ places ∈ graph.cyclicComponents, places.headD 0 ∈ places := by
    intro places listed
    have isComponent := laid.isComponent_map (laid.mem_cyclicComponents.mp listed).1
    cases places with
    | nil => exact absurd rfl isComponent.nonempty
    | cons first rest => exact List.mem_cons_self
  have before : left.headD 0 ≤ right.headD 0 := by simpa using both.1
  refine Nat.lt_of_le_of_ne before fun same => ?_
  exact both.2 (headIn left leftListed) (same ▸ headIn right rightListed)

theorem isCycle_of_mem {cycle : DependencyCycle} (member : cycle ∈ graph.cycles) :
    graph.IsCycle cycle := by
  obtain ⟨places, cyclic, rfl⟩ := List.mem_map.mp member
  obtain ⟨listed, circular⟩ := laid.mem_cyclicComponents.mp cyclic
  obtain ⟨within, simple, first⟩ := laid.presents.cycleWalk_map listed
    (circular.imp_left fun several => by simpa using several)
  have members := laid.providersAt_component listed
  have nodes : graph.providersAt (graph.eager.cycleWalk places) =
      (graph.eager.cycleWalk places).map (itemAt graph.nodes) :=
    filterMap_getElem? fun place walked =>
      laid.presents.inside_of_mem_components listed place (within place walked)
  constructor
  · exact members ▸ laid.isComponent_map listed
  · exact members ▸ circular
  · exact nodes ▸ simple
  · change ∀ node ∈ graph.providersAt _, node ∈ graph.providersAt _
    rw [nodes, members]
    intro node walked
    obtain ⟨place, placeWalked, rfl⟩ := List.mem_map.mp walked
    exact List.mem_map_of_mem (within place placeWalked)
  · change (graph.providersAt _).head? = (graph.providersAt _).head?
    rw [nodes, members, first]

theorem exists_cycle {members : List Provider} (isComponent : graph.IsComponent members)
    (circular : graph.IsCircular members) : ∃ cycle ∈ graph.cycles, cycle.members = members := by
  obtain ⟨places, listed, rfl⟩ :=
    List.mem_map.mp (laid.presents.mem_components.mpr (laid.isComponent_iff.mp isComponent))
  exact ⟨_, List.mem_map_of_mem (laid.mem_cyclicComponents.mpr ⟨listed, circular⟩),
    laid.providersAt_component listed⟩

/-- The cycles are the circular components. -/
theorem mem_cycles_members {members : List Provider} :
    members ∈ graph.cycles.map (·.members) ↔
      graph.IsComponent members ∧ graph.IsCircular members := by
  constructor
  · intro listed
    obtain ⟨cycle, member, rfl⟩ := List.mem_map.mp listed
    exact ⟨(laid.isCycle_of_mem member).component, (laid.isCycle_of_mem member).circular⟩
  · rintro ⟨isComponent, circular⟩
    obtain ⟨cycle, member, rfl⟩ := laid.exists_cycle isComponent circular
    exact List.mem_map_of_mem member

/-- Cycles come by their first providers. -/
theorem cycles_ascending : graph.cycles.Pairwise fun left right =>
    ∀ first ∈ left.members.head?, ∀ second ∈ right.members.head?, first.Before second := by
  refine List.pairwise_map.mpr (laid.cyclicComponents_ascending.imp_of_mem ?_)
  intro left right leftListed rightListed before
  obtain ⟨leftPlaces, _⟩ := laid.mem_cyclicComponents.mp leftListed
  obtain ⟨rightPlaces, _⟩ := laid.mem_cyclicComponents.mp rightListed
  simp only [laid.providersAt_component leftPlaces, laid.providersAt_component rightPlaces,
    List.head?_map, Option.mem_def, Option.map_eq_some_iff]
  rintro _ ⟨first, isFirst, rfl⟩ _ ⟨second, isSecond, rfl⟩
  have secondInside := laid.presents.inside_of_mem_components rightPlaces second
    (List.mem_of_mem_head? isSecond)
  rw [List.headD_eq_head?_getD, List.headD_eq_head?_getD, isFirst, isSecond] at before
  exact laid.itemAt_before before secondInside

theorem members_nodup : (graph.cycles.map (·.members)).Nodup := by
  refine List.pairwise_map.mpr (laid.cycles_ascending.imp_of_mem ?_)
  intro left right leftMember _ before same
  cases found : left.members with
  | nil => exact (laid.isCycle_of_mem leftMember).component.nonempty found
  | cons first rest =>
      have again := before first (found ▸ rfl) first (same ▸ found ▸ rfl)
      exact again.ne rfl

/-- A provider on a cycle is in the component of one that is reported. -/
theorem exists_cycle_of_transGen {node : Provider}
    (circle : Relation.TransGen graph.Needs node node) :
    ∃ cycle ∈ graph.cycles, node ∈ cycle.members := by
  obtain ⟨next, needs, _⟩ := Relation.TransGen.head'_iff.mp circle
  obtain ⟨members, isComponent, member⟩ :=
    laid.presents.exists_componentOf (laid.needs_mem needs).1
  have isComponent := laid.isComponent_iff.mpr isComponent
  obtain ⟨cycle, listed, same⟩ := laid.exists_cycle isComponent
    ((laid.isCircular_iff isComponent member).mpr circle)
  exact ⟨cycle, listed, same ▸ member⟩

theorem cycles_eq_nil_iff : graph.cycles = [] ↔
    ∀ node, ¬ Relation.TransGen graph.Needs node node := by
  constructor
  · intro none node circle
    obtain ⟨cycle, listed, _⟩ := laid.exists_cycle_of_transGen circle
    rw [none] at listed
    cases listed
  · intro acyclic
    refine List.eq_nil_iff_forall_not_mem.mpr fun cycle member => ?_
    have isCycle := laid.isCycle_of_mem member
    obtain ⟨node, listed⟩ := List.exists_mem_of_ne_nil _ isCycle.component.nonempty
    exact acyclic node ((laid.isCircular_iff isCycle.component listed).mp isCycle.circular)

end Laid

end DependencyGraph

/-! ## The graph of a model -/

namespace Model

/-- The sockets of modules stand in the order of all sockets. -/
theorem moduleSockets_sublist (declarations : List ModuleDeclaration) :
    ((ofDeclarations declarations).modules.flatMap (·.sockets)).Sublist
      (ofDeclarations declarations).socketIds := by
  rw [socketIds, ofDeclarations_modules, ofDeclarations_sockets, List.flatMap_map,
    List.map_flatMap]
  refine List.Sublist.flatMap_right _ fun site _ => ?_
  have ids : site.moduleSockets.map (·.id) = site.module.sockets :=
    Layout.ofSockets_ids _ _ _ _ _
  rw [Site.sockets, List.map_append, ids]
  exact List.sublist_append_left _ _

theorem graphNodes_ascending (declarations : List ModuleDeclaration) :
    (ofDeclarations declarations).graphNodes.Pairwise Provider.Before := by
  have wellFormed := ofDeclarations_wellFormed declarations
  have sockets : (ofDeclarations declarations).socketIds.Pairwise (·.index < ·.index) :=
    List.pairwise_map.mpr wellFormed.sockets_numbered.ascending
  rw [graphNodes, ← List.map_flatMap]
  refine List.pairwise_append.mpr ⟨?_, ?_, ?_⟩
  · exact List.pairwise_map.mpr (wellFormed.beans_numbered.ascending.imp fun before =>
      .inr ⟨rfl, before⟩)
  · exact List.pairwise_map.mpr ((sockets.sublist (moduleSockets_sublist declarations)).imp
      fun before => .inr ⟨rfl, before⟩)
  · intro left isBean right isSocket
    obtain ⟨bean, _, rfl⟩ := List.mem_map.mp isBean
    obtain ⟨socket, _, rfl⟩ := List.mem_map.mp isSocket
    exact .inl Nat.zero_lt_one

theorem dependencyGraph_laid (declarations : List ModuleDeclaration) (wires : WireSet) :
    ((ofDeclarations declarations).dependencyGraph wires).Laid where
  ascending := graphNodes_ascending declarations
  held edge member := by
    simpa [DependencyGraph.holds, dependencyGraph] using (List.mem_filter.mp member).2

/-- What needs what, read off the wires. -/
theorem needs_iff {model : Model} {wires : WireSet} {source target : Provider} :
    (model.dependencyGraph wires).Needs source target ↔
      source ∈ model.graphNodes ∧ target ∈ model.graphNodes ∧
        ∃ wire ∈ wires.wires, wire.isLazy = false ∧ model.requirer wire.socket = source ∧
          target ∈ wire.targets := by
  simp only [DependencyGraph.Needs, dependencyGraph, dependencies, List.mem_filter,
    List.mem_flatMap, List.mem_map, DependencyGraph.holds, Bool.and_eq_true, List.contains_eq_mem,
    decide_eq_true_eq]
  constructor
  · rintro ⟨_, ⟨⟨wire, member, target, listed, rfl⟩, inside⟩, eager, rfl, rfl⟩
    exact ⟨inside.1, inside.2, wire, member, eager, rfl, listed⟩
  · rintro ⟨sourceInside, targetInside, wire, member, eager, rfl, listed⟩
    exact ⟨_, ⟨⟨wire, member, target, listed, rfl⟩, sourceInside, targetInside⟩, eager, rfl, rfl⟩

end Model

end StaticInjection
