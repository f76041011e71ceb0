import Mathlib.Data.Prod.Lex
import StaticInjection.Proofs.Build.Order
import StaticInjection.Proofs.Plan.Countdown
import StaticInjection.Proofs.Plan.Units

/-! # Plans by counting down

The steps of a module and the order of all beans can be had by counting down the edges of
the dependency graph, over the units of the module and over the nodes of the graph. -/

namespace StaticInjection

section Positions

variable {α : Type} [Inhabited α] [BEq α] [LawfulBEq α] {items : List α}

theorem itemAt_idxOf {item : α} (member : item ∈ items) :
    itemAt items (items.idxOf item) = item := by
  simp [itemAt, List.idxOf_lt_length_iff.mpr member]

theorem idxOf_itemAt (nodup : items.Nodup) {position : Nat} (inside : position < items.length) :
    items.idxOf (itemAt items position) = position := by
  have member := itemAt_mem inside
  exact itemAt_injective nodup (List.idxOf_lt_length_iff.mpr member) inside (itemAt_idxOf member)

end Positions

namespace Countdown

variable {κ : Type u} [LinearOrder κ] {count : Nat} {dependencies : List (Nat × Nat)}
  {included : Nat → Bool} {key : Nat → κ}

/-- A countdown of the places of items is a schedule of the items. -/
theorem order?_placed {α : Type} [BEq α] [LawfulBEq α] {item : Nat → α} {itemNeeds : α → List α}
    (between : Between count dependencies included)
    (placed : Schedule.Placed item (inKeyOrder count included key) itemNeeds
      (needs dependencies)) :
    (order? count dependencies included key).map (·.map item) =
      some (Schedule.order itemNeeds ((inKeyOrder count included key).map item)) := by
  rw [order?_eq between, Option.map_some, placed.order_map]

/-- Numbers as their own keys. -/
theorem inKeyOrder_self (count : Nat) :
    inKeyOrder count (fun _ => true) (fun node => node) = List.range count := by
  apply eq_of_ordered (fun _ _ => Before.asymm _ _) inKeyOrder_ahead
  · exact List.pairwise_lt_range.imp fun less => .inl less
  · simp [mem_inKeyOrder]

end Countdown

namespace Model

variable {model : Model}

/-! ## The steps of a module -/

/-- The edges between units of a module, as pairs of places. -/
def unitLinks (model : Model) (id : ModuleId) : List (Nat × Nat) :=
  (model.crossings model.graph id).map fun crossing =>
    ((model.units id).idxOf crossing.source, (model.units id).idxOf crossing.target)

section

variable (wellFormed : model.WellFormed) {id : ModuleId} (known : id ∈ model.moduleIds)

include wellFormed known

theorem crossing_units {crossing : Crossing} (member : crossing ∈ model.crossings model.graph id) :
    crossing.source ∈ model.units id ∧ crossing.target ∈ model.units id := by
  rcases mem_crossings.mp member with ⟨inside, _, source, target, _⟩
  have offers := wellFormed.edge_offers inside
  exact ⟨unitOf?_mem_units wellFormed known offers.1 source,
    unitOf?_mem_units wellFormed known offers.2 target⟩

theorem unitLinks_between :
    Countdown.Between (model.units id).length (model.unitLinks id) fun _ => true := by
  intro link listed
  rcases List.mem_map.mp listed with ⟨crossing, member, rfl⟩
  have units := crossing_units wellFormed known member
  exact ⟨⟨List.idxOf_lt_length_iff.mpr units.1, rfl⟩, List.idxOf_lt_length_iff.mpr units.2, rfl⟩

theorem units_placed : Schedule.Placed (itemAt (model.units id))
    (List.range (model.units id).length) (model.neededUnits id)
    (Countdown.needs (model.unitLinks id)) where
  apart left leftInside right rightInside same :=
    itemAt_injective (units_nodup wellFormed known) (List.mem_range.mp leftInside)
      (List.mem_range.mp rightInside) same
  inside place _ need needed :=
    List.mem_range.mpr (unitLinks_between wellFormed known _ (Countdown.mem_needs.mp needed)).2.1
  needs_iff place inside need := by
    have nodup := units_nodup wellFormed known
    rw [List.mem_range] at inside
    simp only [neededUnits, unitNeeds, List.mem_map, List.mem_filter, beq_iff_eq,
      Countdown.mem_needs, unitLinks, Prod.mk.injEq]
    constructor
    · rintro ⟨crossing, ⟨member, source⟩, rfl⟩
      refine ⟨_, ⟨crossing, member, ?_, rfl⟩, ?_⟩
      · rw [source, idxOf_itemAt nodup inside]
      · exact itemAt_idxOf (crossing_units wellFormed known member).2
    · rintro ⟨_, ⟨crossing, member, rfl, rfl⟩, rfl⟩
      have units := crossing_units wellFormed known member
      exact ⟨crossing, ⟨member, (itemAt_idxOf units.1).symm⟩, (itemAt_idxOf units.2).symm⟩

/-- The steps of a module are its units as a countdown of the edges between them puts them. -/
theorem steps_counted :
    (Countdown.order? (model.units id).length (model.unitLinks id) (fun _ => true)
        (fun place => place)).map (·.map (itemAt (model.units id))) =
      some (model.steps model.graph id) := by
  have placed := units_placed wellFormed known
  rw [← Countdown.inKeyOrder_self] at placed
  rw [Countdown.order?_placed (unitLinks_between wellFormed known) placed,
    Countdown.inKeyOrder_self, map_itemAt_range]
  rfl

end

/-! ## The order of all beans -/

/-- Nodes by module, sockets before beans, then by declaration. -/
def nodeKey (model : Model) (node : Provider) : Nat ×ₗ Nat ×ₗ Nat :=
  toLex ((model.providerModule node).index, toLex (1 - node.key.1, node.key.2))

/-- The edges between nodes of modules that have not failed, as pairs of places. -/
def aliveLinks (model : Model) (failed : List ModuleId) : List (Nat × Nat) :=
  let alive (node : Provider) := !failed.contains (model.providerModule node)
  (model.graph.edges.filter fun edge =>
    !edge.isLazy && alive edge.source && alive edge.target && edge.source != edge.target).map
      fun edge => (model.graph.nodes.idxOf edge.source, model.graph.nodes.idxOf edge.target)

/-- The places of the nodes of modules that have not failed, by their keys. -/
def alivePlaces (model : Model) (failed : List ModuleId) : List Nat :=
  Countdown.inKeyOrder model.graph.nodes.length
    (fun place => !failed.contains (model.providerModule (itemAt model.graph.nodes place)))
    fun place => model.nodeKey (itemAt model.graph.nodes place)

theorem nodeKey_injective : Function.Injective model.nodeKey := by
  intro left right same
  apply Provider.key_injective
  simp only [nodeKey, EmbeddingLike.apply_eq_iff_eq, Prod.mk.injEq] at same
  rcases left with left | left <;> rcases right with right | right <;> simp_all [Provider.key]

theorem mem_alivePlaces {failed : List ModuleId} {place : Nat} :
    place ∈ model.alivePlaces failed ↔ place < model.graph.nodes.length ∧
      model.providerModule (itemAt model.graph.nodes place) ∉ failed := by
  simp [alivePlaces, Countdown.mem_inKeyOrder]

theorem mem_aliveLinks {failed : List ModuleId} {link : Nat × Nat} :
    link ∈ model.aliveLinks failed ↔ ∃ edge ∈ model.graph.edges, edge.isLazy = false ∧
      model.providerModule edge.source ∉ failed ∧ model.providerModule edge.target ∉ failed ∧
      edge.source ≠ edge.target ∧
      (model.graph.nodes.idxOf edge.source, model.graph.nodes.idxOf edge.target) = link := by
  simp [aliveLinks, and_assoc]

/-- The ids of the sockets, and of the beans, of one module ascend. -/
theorem own_ascending (declarations : List ModuleDeclaration) {module : Module}
    (member : module ∈ (ofDeclarations declarations).modules) :
    module.sockets.Pairwise (·.index < ·.index) ∧ module.beans.Pairwise (·.index < ·.index) := by
  rw [ofDeclarations_modules] at member
  rcases List.mem_map.mp member with ⟨site, _, rfl⟩
  constructor
  · exact List.pairwise_map.mpr List.pairwise_lt_range'
  · exact List.pairwise_map.mpr List.pairwise_lt_range'

theorem nodeKey_lt {left right : Provider} : model.nodeKey left < model.nodeKey right ↔
    (model.providerModule left).index < (model.providerModule right).index ∨
      (model.providerModule left).index = (model.providerModule right).index ∧
        (1 - left.key.1 < 1 - right.key.1 ∨
          1 - left.key.1 = 1 - right.key.1 ∧ left.key.2 < right.key.2) := by
  simp only [nodeKey, Prod.Lex.toLex_lt_toLex]

/-- Nodes of modules that have not failed are listed by their keys. -/
theorem aliveNodes_ascending (declarations : List ModuleDeclaration) (failed : List ModuleId) :
    ((ofDeclarations declarations).aliveNodes failed).Pairwise fun left right =>
      (ofDeclarations declarations).nodeKey left < (ofDeclarations declarations).nodeKey right := by
  have wellFormed := ofDeclarations_wellFormed declarations
  have place {module : Module} (member : module ∈ (ofDeclarations declarations).modules)
      {node : Provider} (own : node ∈ module.sockets.map .socket ++ module.beans.map .bean) :
      (ofDeclarations declarations).providerModule node = module.id :=
    ((mem_ownNodes wellFormed member).mp own).2
  rw [aliveNodes, List.pairwise_flatMap]
  constructor
  · intro module listed
    have member := List.mem_of_mem_filter listed
    rcases own_ascending declarations member with ⟨sockets, beans⟩
    have own : (module.sockets.map Provider.socket ++ module.beans.map Provider.bean).Pairwise
        fun (left right : Provider) => 1 - left.key.1 < 1 - right.key.1 ∨
          1 - left.key.1 = 1 - right.key.1 ∧ left.key.2 < right.key.2 := by
      refine List.pairwise_append.mpr ⟨?_, ?_, ?_⟩
      · exact List.pairwise_map.mpr (sockets.imp fun less => .inr ⟨rfl, less⟩)
      · exact List.pairwise_map.mpr (beans.imp fun less => .inr ⟨rfl, less⟩)
      · intro left isSocket right isBean
        rcases List.mem_map.mp isSocket with ⟨socket, _, rfl⟩
        rcases List.mem_map.mp isBean with ⟨bean, _, rfl⟩
        exact .inl Nat.zero_lt_one
    refine own.imp_of_mem fun leftOwn rightOwn before => nodeKey_lt.mpr (.inr ⟨?_, before⟩)
    rw [place member leftOwn, place member rightOwn]
  · have ascending := List.pairwise_map.mp wellFormed.moduleIds_ascending
    refine (ascending.filter _).imp_of_mem fun leftListed rightListed before left leftOwn right
      rightOwn => nodeKey_lt.mpr (.inl ?_)
    rw [place (List.mem_of_mem_filter leftListed) leftOwn,
      place (List.mem_of_mem_filter rightListed) rightOwn]
    exact before

/-- The places of these nodes by their keys are the places in the list of the nodes. -/
theorem alivePlaces_map (declarations : List ModuleDeclaration) (failed : List ModuleId) :
    ((ofDeclarations declarations).alivePlaces failed).map
        (itemAt (ofDeclarations declarations).graph.nodes) =
      (ofDeclarations declarations).aliveNodes failed := by
  have wellFormed := ofDeclarations_wellFormed declarations
  have laid := dependencyGraph_laid declarations (ofDeclarations declarations).wires
  apply eq_of_ordered (fun _ _ => lt_asymm) _ (aliveNodes_ascending declarations failed)
  · intro node
    rw [mem_aliveNodes wellFormed, ← wellFormed.mem_graphNodes, List.mem_map]
    constructor
    · rintro ⟨place, listed, rfl⟩
      rcases mem_alivePlaces.mp listed with ⟨inside, kept⟩
      exact ⟨itemAt_mem inside, kept⟩
    · rintro ⟨member, kept⟩
      rcases exists_position member with ⟨place, inside, rfl⟩
      exact ⟨place, mem_alivePlaces.mpr ⟨inside, kept⟩, rfl⟩
  · rw [List.pairwise_map]
    refine Countdown.inKeyOrder_ahead.imp_of_mem fun leftListed rightListed ahead => ?_
    rcases ahead with less | ⟨same, less⟩
    · exact less
    · have equal := itemAt_injective laid.nodup (mem_alivePlaces.mp leftListed).1
        (mem_alivePlaces.mp rightListed).1 (nodeKey_injective same)
      omega

section

variable (laid : model.graph.Laid) (failed : List ModuleId)

include laid

theorem aliveLinks_between : Countdown.Between model.graph.nodes.length (model.aliveLinks failed)
    fun place => !failed.contains (model.providerModule (itemAt model.graph.nodes place)) := by
  intro link listed
  rcases mem_aliveLinks.mp listed with ⟨edge, member, _, source, target, _, rfl⟩
  have held := laid.held edge member
  simp [List.idxOf_lt_length_iff, itemAt_idxOf, held, source, target]

theorem nodes_placed : Schedule.Placed (itemAt model.graph.nodes) (model.alivePlaces failed)
    (model.needs model.graph failed) (Countdown.needs (model.aliveLinks failed)) where
  apart left leftListed right rightListed same :=
    itemAt_injective laid.nodup (mem_alivePlaces.mp leftListed).1
      (mem_alivePlaces.mp rightListed).1 same
  inside place _ need needed :=
    Countdown.mem_inKeyOrder.mpr
      (aliveLinks_between laid failed _ (Countdown.mem_needs.mp needed)).2
  needs_iff place listed need := by
    rcases mem_alivePlaces.mp listed with ⟨inside, kept⟩
    simp only [mem_needs, DependencyGraph.Needs, List.mem_map, Countdown.mem_needs, mem_aliveLinks,
      Prod.mk.injEq]
    constructor
    · rintro ⟨⟨edge, member, eager, source, rfl⟩, targetKept, apart⟩
      refine ⟨_, ⟨edge, member, eager, source ▸ kept, targetKept, ?_, ?_, rfl⟩, ?_⟩
      · exact fun same => apart (same ▸ source)
      · rw [source, idxOf_itemAt laid.nodup inside]
      · exact itemAt_idxOf (laid.held edge member).2
    · rintro ⟨_, ⟨edge, member, eager, _, targetKept, apart, rfl, rfl⟩, rfl⟩
      have held := laid.held edge member
      rw [itemAt_idxOf held.1, itemAt_idxOf held.2]
      exact ⟨⟨edge, member, eager, rfl, rfl⟩, targetKept, Ne.symm apart⟩

end

/-- The order of all beans is that of the nodes as a countdown of the edges between them puts
them. -/
theorem beanOrder_counted (declarations : List ModuleDeclaration) (failed : List ModuleId) :
    let model := ofDeclarations declarations
    let nodes := model.graph.nodes
    (Countdown.order? nodes.length (model.aliveLinks failed)
        (fun place => !failed.contains (model.providerModule (itemAt nodes place)))
        (fun place => model.nodeKey (itemAt nodes place))).map
          (fun places => (places.map (itemAt nodes)).filterMap (·.bean?)) =
      some (model.beanOrder model.graph failed) := by
  intro model nodes
  have laid : model.graph.Laid := dependencyGraph_laid declarations _
  have counted := Countdown.order?_placed (aliveLinks_between laid failed)
    (nodes_placed laid failed)
  have places : model.alivePlaces failed = Countdown.inKeyOrder _ _ _ := rfl
  rw [← places, alivePlaces_map declarations failed] at counted
  have beans := congrArg (Option.map fun order => order.filterMap (·.bean?)) counted
  rw [Option.map_map] at beans
  exact beans

end Model

end StaticInjection
