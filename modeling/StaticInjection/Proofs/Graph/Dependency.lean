import StaticInjection.Graph.Dependency
import StaticInjection.Proofs.Wire.Resolution

/-! # The dependency graph of a model

Its nodes are the providers of the model, and its edges lead from what needs a
socket to each target of the socket's wire. -/

namespace StaticInjection.Model

abbrev graph (model : Model) : DependencyGraph :=
  model.dependencyGraph model.wires

/-- The edge for one target of a wire. -/
def wireEdge (model : Model) (wire : Wire) (target : Provider) : Dependency :=
  { source := model.requirer wire.socket, target, socket := wire.socket, isLazy := wire.isLazy }

theorem requirer_of_bean {model : Model} {socket : SocketId} {bean : BeanId}
    (owned : (model.socket socket).owner = .bean bean) : model.requirer socket = .bean bean := by
  simp [requirer, owned]

theorem requirer_of_module {model : Model} {socket : SocketId} {module : ModuleId}
    (owned : (model.socket socket).owner = .module module) :
    model.requirer socket = .socket socket := by
  simp [requirer, owned]

/-- The socket of a bean is resolved in the module of the bean. -/
theorem scope_of_bean {model : Model} {socket : SocketId} {bean : BeanId} {scope : ModuleId}
    (owned : (model.socket socket).owner = .bean bean)
    (wiring : model.wiringModule? socket = some scope) : (model.bean bean).module = scope := by
  simpa [wiringModule?, owned] using wiring

/-- The input of a module is resolved in the module above it. -/
theorem scope_of_module {model : Model} {socket : SocketId} {module scope : ModuleId}
    (owned : (model.socket socket).owner = .module module)
    (wiring : model.wiringModule? socket = some scope) : model.parent module = some scope := by
  simpa [wiringModule?, owned, parent] using wiring

namespace WellFormed

variable {model : Model} (wellFormed : model.WellFormed)

include wellFormed

theorem mem_graphNodes {provider : Provider} :
    provider ∈ model.graphNodes ↔ model.Offers provider := by
  unfold graphNodes
  rw [List.mem_append, List.mem_map, List.mem_flatMap]
  cases provider with
  | bean id => simp [Offers, beanIds]
  | socket id =>
      simp only [reduceCtorEq, and_false, exists_false, List.mem_map, Provider.socket.injEq,
        exists_eq_right, false_or, Offers]
      constructor
      · rintro ⟨module, member, listed⟩
        have known : module.id ∈ model.moduleIds := List.mem_map_of_mem member
        rw [← wellFormed.module_of_mem member] at listed
        obtain ⟨socketKnown, owned⟩ := (wellFormed.moduleSockets _ known id).mp listed
        exact ⟨socketKnown, (wellFormed.owner_module id socketKnown _ owned).2.symm ▸ owned⟩
      · rintro ⟨socketKnown, owned⟩
        have known := (wellFormed.owner_module id socketKnown _ owned).1
        exact ⟨_, (wellFormed.module_mem known).1,
          (wellFormed.moduleSockets _ known id).mpr ⟨socketKnown, owned⟩⟩

theorem offers_requirer {socket : SocketId} (known : socket ∈ model.socketIds) :
    model.Offers (model.requirer socket) := by
  cases owned : (model.socket socket).owner with
  | bean bean =>
      rw [requirer_of_bean owned]
      exact (wellFormed.owner_bean socket known bean owned).1
  | module module =>
      rw [requirer_of_module owned]
      exact ⟨known, (wellFormed.owner_module socket known module owned).2.symm ▸ owned⟩

theorem mem_edges {edge : Dependency} : edge ∈ model.graph.edges ↔
    ∃ wire ∈ model.wires.wires, ∃ target ∈ wire.targets, edge = model.wireEdge wire target := by
  simp only [dependencyGraph, dependencies, List.mem_filter, List.mem_flatMap, List.mem_map]
  constructor
  · rintro ⟨⟨wire, member, target, listed, rfl⟩, _⟩
    exact ⟨wire, member, target, listed, rfl⟩
  · rintro ⟨wire, member, target, listed, rfl⟩
    refine ⟨⟨wire, member, target, listed, rfl⟩, ?_⟩
    obtain ⟨scope, _, wired⟩ := wellFormed.wired_of_mem member
    simp only [DependencyGraph.holds, Bool.and_eq_true, List.contains_eq_mem, decide_eq_true_eq,
      wireEdge]
    exact ⟨wellFormed.mem_graphNodes.mpr (wellFormed.offers_requirer wired.known),
      wellFormed.mem_graphNodes.mpr (wired.suits target listed).offered⟩

theorem edge_offers {edge : Dependency} (member : edge ∈ model.graph.edges) :
    model.Offers edge.source ∧ model.Offers edge.target := by
  rcases wellFormed.mem_edges.mp member with ⟨wire, isWire, target, listed, rfl⟩
  rcases wellFormed.wired_of_mem isWire with ⟨_, _, wired⟩
  exact ⟨wellFormed.offers_requirer wired.known, (wired.suits target listed).offered⟩

end WellFormed

end StaticInjection.Model
