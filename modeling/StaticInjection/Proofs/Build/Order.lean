import StaticInjection.Proofs.Build.Cycle
import StaticInjection.Proofs.Build.Rounds
import StaticInjection.Proofs.Plan.Schedule

/-! # The order of all beans

The final plan orders the beans of all modules that it is made with. Taking ready nodes
would leave out a node on a circle and whatever needs it, but nodes on circles are
reported before planning, so that their modules are left out already. -/

namespace StaticInjection

namespace Model

/-- The final plan is made with the module of a node. -/
def Kept (model : Model) (node : Provider) : Prop :=
  model.providerModule node ∉ model.leftOut

/-- A node needs another at once, and both are in modules of the final plan. -/
def NeedsKept (model : Model) (source target : Provider) : Prop :=
  model.graph.Needs source target ∧ model.Kept source ∧ model.Kept target

variable {model : Model}

/-! ## Modules that are left out -/

section

variable (wellFormed : model.WellFormed)

include wellFormed

/-- The last round knows of everything that was reported before the first one. -/
theorem leftOut_of_blamed {diagnostic : Diagnostic} (reported : diagnostic ∈ model.reportedBeforePlan)
    {id : ModuleId} (known : id ∈ model.moduleIds) (blames : diagnostic.Blames id) :
    id ∈ model.leftOut := by
  rcases exists_settled_round wellFormed model.wires model.reportedBeforePlan with ⟨_, _, _, last⟩
  rw [leftOut, rounds, last]
  apply failed_of_direct wellFormed known
  exact Diagnostic.mem_failingModules.mpr ⟨diagnostic, List.mem_append_left _ reported, blames⟩

theorem not_kept_of_circle (laid : model.graph.Laid) {node : Provider}
    (circle : Relation.TransGen model.graph.Needs node node) : ¬ model.Kept node := by
  intro kept
  rcases laid.exists_cycle_of_transGen circle with ⟨cycle, member, inCycle⟩
  have isCycle := laid.isCycle_of_mem member
  have owner := (wellFormed.mem_cycleModules isCycle).mpr ⟨node, inCycle, rfl⟩
  have known : model.providerModule node ∈ model.moduleIds := List.mem_of_mem_filter owner
  have report := wellFormed.cycleReport isCycle owner
  refine kept (leftOut_of_blamed wellFormed (List.mem_append_right _ ?_) known report.blames)
  exact List.mem_flatMap.mpr ⟨cycle, member, List.mem_map_of_mem owner⟩

/-! ## Nodes for which there is a plan -/

theorem mem_ownNodes {module : Module} (member : module ∈ model.modules) {node : Provider} :
    node ∈ module.sockets.map .socket ++ module.beans.map .bean ↔
      model.Offers node ∧ model.providerModule node = module.id := by
  have known : module.id ∈ model.moduleIds := List.mem_map_of_mem member
  have sockets := wellFormed.moduleSockets module.id known
  have beans := wellFormed.beans module.id known
  rw [wellFormed.module_of_mem member] at sockets beans
  cases node with
  | bean id => simp [beans, Offers, providerModule]
  | socket id =>
      simp only [List.mem_append, List.mem_map, Provider.socket.injEq, exists_eq_right,
        reduceCtorEq, and_false, exists_false, or_false, sockets, Offers, providerModule]
      constructor
      · rintro ⟨inside, owned⟩
        have place := (wellFormed.owner_module id inside module.id owned).2
        exact ⟨⟨inside, place ▸ owned⟩, place⟩
      · rintro ⟨⟨inside, owned⟩, place⟩
        exact ⟨inside, place ▸ owned⟩

theorem mem_aliveNodes {failed : List ModuleId} {node : Provider} :
    node ∈ model.aliveNodes failed ↔ model.Offers node ∧ model.providerModule node ∉ failed := by
  simp only [aliveNodes, List.mem_flatMap, List.mem_filter, Bool.not_eq_true',
    List.contains_eq_mem, decide_eq_false_iff_not]
  constructor
  · rintro ⟨module, ⟨member, kept⟩, inside⟩
    rcases (mem_ownNodes wellFormed member).mp inside with ⟨offered, place⟩
    exact ⟨offered, place ▸ kept⟩
  · rintro ⟨offered, kept⟩
    rcases wellFormed.module_mem (wellFormed.providerModule_known offered) with ⟨member, isId⟩
    exact ⟨_, ⟨member, isId.symm ▸ kept⟩,
      (mem_ownNodes wellFormed member).mpr ⟨offered, isId.symm⟩⟩

theorem aliveNodes_nodup (failed : List ModuleId) : (model.aliveNodes failed).Nodup := by
  unfold aliveNodes
  rw [List.nodup_flatMap]
  constructor
  · intro module listed
    have member := List.mem_of_mem_filter listed
    have known : module.id ∈ model.moduleIds := List.mem_map_of_mem member
    have sockets := (wellFormed.moduleSockets_placed module.id known).nodup
    have beans := (wellFormed.beans_placed module.id known).nodup
    rw [wellFormed.module_of_mem member] at sockets beans
    apply List.Nodup.append
    · exact sockets.map fun _ _ equal => Provider.socket.inj equal
    · exact beans.map fun _ _ equal => Provider.bean.inj equal
    · intro node isSocket isBean
      rcases List.mem_map.mp isSocket with ⟨socket, _, rfl⟩
      rcases List.mem_map.mp isBean with ⟨bean, _, equal⟩
      cases equal
  · have ids : (model.modules.map (·.id)).Nodup := wellFormed.moduleIds_nodup
    have apart := List.Pairwise.filter (fun module => !failed.contains module.id)
      (List.pairwise_map.mp ids)
    refine apart.imp_of_mem fun leftListed rightListed different node inLeft inRight => ?_
    have leftPlace := (mem_ownNodes wellFormed (List.mem_of_mem_filter leftListed)).mp inLeft
    have rightPlace := (mem_ownNodes wellFormed (List.mem_of_mem_filter rightListed)).mp inRight
    exact different (leftPlace.2.symm.trans rightPlace.2)

omit wellFormed in
theorem mem_needs {graph : DependencyGraph} {failed : List ModuleId} {source target : Provider} :
    target ∈ model.needs graph failed source ↔
      graph.Needs source target ∧ model.providerModule target ∉ failed ∧ target ≠ source := by
  simp only [needs, DependencyGraph.outgoing, DependencyGraph.Needs, List.mem_map, List.mem_filter,
    beq_iff_eq, Bool.and_eq_true, Bool.not_eq_true', List.contains_eq_mem,
    decide_eq_false_iff_not, bne_iff_ne]
  constructor
  · rintro ⟨edge, ⟨⟨inside, source⟩, ⟨eager, kept⟩, apart⟩, rfl⟩
    exact ⟨⟨edge, inside, eager, source, rfl⟩, kept, apart⟩
  · rintro ⟨⟨edge, inside, eager, source, rfl⟩, kept, apart⟩
    exact ⟨edge, ⟨⟨inside, source⟩, ⟨eager, kept⟩, apart⟩, rfl⟩

/-! ## The schedule of nodes -/

variable (laid : model.graph.Laid)

include laid

theorem no_alive_circle : ¬ Schedule.HasCircle (model.needs model.graph model.leftOut)
    (model.aliveNodes model.leftOut) := by
  rintro ⟨node, alive, circle⟩
  have eager : Relation.TransGen model.graph.Needs node node :=
    circle.lift id fun _ _ needed => (mem_needs.mp needed).1
  exact not_kept_of_circle wellFormed laid eager ((mem_aliveNodes wellFormed).mp alive).2

theorem needs_alive {node need : Provider}
    (needed : need ∈ model.needs model.graph model.leftOut node) :
    need ∈ model.aliveNodes model.leftOut := by
  rcases mem_needs.mp needed with ⟨needs, kept, _⟩
  have offered := wellFormed.mem_graphNodes.mp (laid.needs_mem needs).2
  exact (mem_aliveNodes wellFormed).mpr ⟨offered, kept⟩

theorem mem_schedule {node : Provider} :
    node ∈ Schedule.order (model.needs model.graph model.leftOut)
        (model.aliveNodes model.leftOut) ↔
      model.Offers node ∧ model.Kept node := by
  rw [Kept, ← mem_aliveNodes wellFormed]
  constructor
  · exact Schedule.mem_of_mem_order
  · exact Schedule.mem_order (fun _ _ _ => needs_alive wellFormed laid)
      (no_alive_circle wellFormed laid)

/-- No node of the plan needs itself, so that nothing is lost with the edges that the
schedule does not look at. -/
theorem needs_of_needsKept {node need : Provider} (needs : model.NeedsKept node need) :
    need ∈ model.needs model.graph model.leftOut node := by
  refine mem_needs.mpr ⟨needs.1, needs.2.2, ?_⟩
  intro same
  rw [same] at needs
  exact not_kept_of_circle wellFormed laid (.single needs.1) needs.2.1

end

theorem bean?_eq_some {node : Provider} {bean : BeanId} :
    node.bean? = some bean ↔ node = .bean bean := by
  cases node <;> simp [Provider.bean?]

theorem bean_mem_filterMap {nodes : List Provider} {bean : BeanId} :
    bean ∈ nodes.filterMap (·.bean?) ↔ .bean bean ∈ nodes := by
  simp [List.mem_filterMap, bean?_eq_some]

/-- A place among the beans of some nodes is a place among the nodes. -/
theorem exists_node_split {nodes : List Provider} {before after : List BeanId} {bean : BeanId}
    (split : nodes.filterMap (·.bean?) = before ++ bean :: after) :
    ∃ left right, nodes = left ++ .bean bean :: right ∧ left.filterMap (·.bean?) = before := by
  rcases List.filterMap_eq_append_iff.mp split with ⟨left, right, rfl, rfl, rest⟩
  rcases List.filterMap_eq_cons_iff.mp rest with ⟨sockets, node, others, rfl, none, isBean, _⟩
  rw [bean?_eq_some] at isBean
  refine ⟨left ++ sockets, others, by rw [isBean, List.append_assoc], ?_⟩
  rw [List.filterMap_append, List.filterMap_eq_nil_iff.mpr none, List.append_nil]

end Model

/-- The final plan orders the beans of all modules that it is made with, each once, and
each after whatever it needs through nodes of such modules. -/
theorem bean_order_complete (declarations : List ModuleDeclaration) :
    let model := Model.ofDeclarations declarations
    let order := model.finalPlan.order
    order.Nodup ∧
    (∀ bean, bean ∈ order ↔ bean ∈ model.beanIds ∧ (model.bean bean).module ∉ model.leftOut) ∧
    ∀ bean need, Relation.TransGen model.NeedsKept (.bean bean) (.bean need) →
      bean ∈ order ∧ ∀ before after, order = before ++ bean :: after → need ∈ before := by
  intro model order
  have wellFormed : model.WellFormed := Model.ofDeclarations_wellFormed declarations
  have laid : model.graph.Laid := Model.dependencyGraph_laid declarations _
  let nodes := Schedule.order (model.needs model.graph model.leftOut)
    (model.aliveNodes model.leftOut)
  have isOrder : order = nodes.filterMap (·.bean?) := by
    rw [show order = model.finalPlan.order from rfl, Model.finalPlan_eq]
    rfl
  have listed : ∀ bean, bean ∈ order ↔
      bean ∈ model.beanIds ∧ (model.bean bean).module ∉ model.leftOut := by
    intro bean
    rw [isOrder, Model.bean_mem_filterMap, Model.mem_schedule wellFormed laid]
    rfl
  refine ⟨?_, listed, ?_⟩
  · rw [isOrder]
    apply (Schedule.nodup_order (Model.aliveNodes_nodup wellFormed model.leftOut)).filterMap
    intro left right bean isLeft isRight
    rw [Model.bean?_eq_some.mp isLeft, Model.bean?_eq_some.mp isRight]
  · intro bean need path
    rcases Relation.TransGen.head'_iff.mp path with ⟨_, ⟨needs, kept, _⟩, _⟩
    have offered := wellFormed.mem_graphNodes.mp (laid.needs_mem needs).1
    refine ⟨(listed bean).mpr ⟨offered, kept⟩, ?_⟩
    intro before after split
    rw [isOrder] at split
    rcases Model.exists_node_split split with ⟨left, right, placed, rfl⟩
    have scheduled : Relation.TransGen
        (fun node need => need ∈ model.needs model.graph model.leftOut node)
        (.bean bean) (.bean need) :=
      path.lift id fun _ _ => Model.needs_of_needsKept wellFormed laid
    exact Model.bean_mem_filterMap.mpr
      ((Schedule.order_inOrder _).reached_before scheduled placed)

set_option maxRecDepth 100000 in
/-- A bean comes after the one that it is given through the bean of a child. -/
theorem sampleApplication_ordered :
    let model := Model.ofDeclarations sampleApplication
    Relation.TransGen model.NeedsKept (.bean ⟨1⟩) (.bean ⟨0⟩) ∧
      ∀ before after, model.finalPlan.order = before ++ ⟨1⟩ :: after → ⟨0⟩ ∈ before := by
  intro model
  have kept : model.leftOut = [] := by decide +kernel
  have first : model.NeedsKept (.bean ⟨1⟩) (.bean ⟨2⟩) := by
    unfold Model.NeedsKept Model.Kept DependencyGraph.Needs
    rw [kept]
    decide +kernel
  have second : model.NeedsKept (.bean ⟨2⟩) (.bean ⟨0⟩) := by
    unfold Model.NeedsKept Model.Kept DependencyGraph.Needs
    rw [kept]
    decide +kernel
  have path : Relation.TransGen model.NeedsKept (.bean ⟨1⟩) (.bean ⟨0⟩) := .head first (.single second)
  exact ⟨path, ((bean_order_complete sampleApplication).2.2 _ _ path).2⟩

end StaticInjection
