import StaticInjection.Proofs.Graph.Cycle
import StaticInjection.Proofs.Plan.Planning
import StaticInjection.Proofs.Plan.Units

/-! # The construction of a module

The units of a module depend on each other through edges that may start and end deep in
the subtrees of its children. Units that depend on each other in a circle are reported
together, with the nodes at the ends of those edges. Otherwise the units are built in the
order of their declaration, except that each waits for what it depends on. -/

namespace StaticInjection

namespace Model

/-! ## Edges between units -/

/-- A bean holds itself, and a child whatever is in its subtree. -/
def InUnit (model : Model) (node : Provider) : PlanStep → Prop
  | .bean id => node = .bean id
  | .module id => model.isWithin (model.providerModule node) id = true

/-- An edge of the graph that is not lazy leads from inside one unit of a module to inside
another. The module's own sockets are inputs, and no edge from one of them counts. -/
structure Crosses (model : Model) (id : ModuleId) (edge : Dependency) (unit need : PlanStep) :
    Prop where
  member : edge ∈ model.graph.edges
  eager : edge.isLazy = false
  notInput : ∀ socket, edge.source = .socket socket → model.providerModule edge.source ≠ id
  isUnit : unit ∈ model.units id
  isNeed : need ∈ model.units id
  source : model.InUnit edge.source unit
  target : model.InUnit edge.target need
  apart : unit ≠ need

def UnitDepends (model : Model) (id : ModuleId) (unit need : PlanStep) : Prop :=
  ∃ edge, model.Crosses id edge unit need

/-- A node at an end of an edge between two of some units. -/
def EndsCrossing (model : Model) (id : ModuleId) (members : List PlanStep) (node : Provider) :
    Prop :=
  ∃ edge, ∃ unit ∈ members, ∃ need ∈ members,
    model.Crosses id edge unit need ∧ (edge.source = node ∨ edge.target = node)

/-- A diagnostic about units of a module that depend on each other. -/
structure ReportsUnits (model : Model) (id : ModuleId) (members : List PlanStep)
    (diagnostic : Diagnostic) : Prop where
  kind : diagnostic.kind = .cyclicDependency
  scope : diagnostic.scope = some id
  location : diagnostic.location = (model.module id).location
  implicated : ∃ nodes : List Provider, nodes.Pairwise Provider.Before ∧
    (∀ node, node ∈ nodes ↔ model.EndsCrossing id members node) ∧
    diagnostic.implicated = nodes.map model.qualifiedName
  message : ∃ walk, SimpleCycle (model.UnitDepends id) walk ∧ (∀ unit ∈ walk, unit ∈ members) ∧
    walk.head? = members.head? ∧
    diagnostic.message =
      s!"模块 `{model.path id}` 的构造单元之间存在循环: {cycleText (walk.map model.unitName)}"

/-- A plan builds each unit of a module once, after what it depends on. Whenever several
units could be built, the one that is declared first is next. -/
structure Constructs (model : Model) (id : ModuleId) (plan : ModulePlan) : Prop where
  steps : plan.steps.Perm (model.units id)
  after : ∀ before unit rest, plan.steps = before ++ unit :: rest →
    ∀ need, model.UnitDepends id unit need → need ∈ before
  first : ∀ before unit rest, plan.steps = before ++ unit :: rest →
    ∀ other ∈ model.units id, other ∉ before →
      (∀ need, model.UnitDepends id other need → need ∈ before) →
        other = unit ∨ [unit, other].Sublist (model.units id)
  singletons : ∀ bean, bean ∈ plan.singletons ↔ bean ∈ model.beanIds ∧
    (model.bean bean).module = id ∧ (model.bean bean).lifetime = .singleton
  singletons_ordered : (plan.singletons.map PlanStep.bean).Sublist plan.steps
  perRequest : ∀ bean, bean ∈ plan.perRequest ↔ bean ∈ model.beanIds ∧
    (model.bean bean).module = id ∧ (model.bean bean).lifetime = .perRequest
  perRequest_ordered : (plan.perRequest.map PlanStep.bean).Sublist plan.steps

variable {model : Model}

section

variable (wellFormed : model.WellFormed) {id : ModuleId} (known : id ∈ model.moduleIds)

include wellFormed known

theorem unitOf?_eq_some_iff {node : Provider} (offered : model.Offers node) {unit : PlanStep} :
    model.unitOf? id node = some unit ↔ unit ∈ model.units id ∧ model.InUnit node unit := by
  cases unit with
  | bean bean =>
      rw [unitOf?_eq_bean, mem_units_bean wellFormed known]
      constructor
      · rintro ⟨rfl, here⟩
        exact ⟨⟨offered, here⟩, rfl⟩
      · rintro ⟨⟨_, here⟩, rfl⟩
        exact ⟨rfl, here⟩
  | module child =>
      rw [unitOf?_eq_module wellFormed offered, mem_units_module wellFormed known]
      constructor
      · rintro ⟨isChild, within⟩
        have owner := wellFormed.providerModule_known offered
        exact ⟨⟨wellFormed.isWithin_known owner within, isChild⟩, within⟩
      · rintro ⟨⟨_, isChild⟩, within⟩
        exact ⟨isChild, within⟩

omit wellFormed known in
/-- The module's own sockets belong to none of its units. -/
theorem not_input_of_unit {node : Provider} {unit : PlanStep}
    (found : model.unitOf? id node = some unit) {socket : SocketId}
    (isSocket : node = .socket socket) : model.providerModule node ≠ id := by
  intro here
  subst isSocket
  unfold unitOf? at found
  rw [if_pos here] at found
  cases found

theorem crosses_iff {edge : Dependency} {unit need : PlanStep} :
    model.Crosses id edge unit need ↔
      ⟨unit, need, edge⟩ ∈ model.crossings model.graph id := by
  rw [mem_crossings]
  constructor
  · intro crosses
    rcases wellFormed.edge_offers crosses.member with ⟨source, target⟩
    exact ⟨crosses.member, crosses.eager,
      (unitOf?_eq_some_iff wellFormed known source).mpr ⟨crosses.isUnit, crosses.source⟩,
      (unitOf?_eq_some_iff wellFormed known target).mpr ⟨crosses.isNeed, crosses.target⟩,
      crosses.apart⟩
  · rintro ⟨member, eager, source, target, apart⟩
    rcases wellFormed.edge_offers member with ⟨sourceOffered, targetOffered⟩
    have unit := (unitOf?_eq_some_iff wellFormed known sourceOffered).mp source
    have need := (unitOf?_eq_some_iff wellFormed known targetOffered).mp target
    exact ⟨member, eager, fun _ => not_input_of_unit source, unit.1, need.1, unit.2, need.2, apart⟩

theorem unitDepends_iff {unit need : PlanStep} :
    model.UnitDepends id unit need ↔ need ∈ model.neededUnits id unit := by
  simp only [UnitDepends, crosses_iff wellFormed known, neededUnits, unitNeeds, List.mem_map,
    List.mem_filter, beq_iff_eq]
  constructor
  · rintro ⟨edge, crossing⟩
    exact ⟨_, ⟨crossing, rfl⟩, rfl⟩
  · rintro ⟨crossing, ⟨member, rfl⟩, rfl⟩
    exact ⟨crossing.edge, member⟩

theorem unitDepends_eq :
    model.UnitDepends id = fun unit need => need ∈ model.neededUnits id unit := by
  funext unit need
  exact propext (unitDepends_iff wellFormed known)

theorem unitGraph_presents_depends :
    (unitGraph (model.units id) (model.crossings model.graph id)).Presents (model.units id)
      (model.UnitDepends id) := by
  rw [unitDepends_eq wellFormed known]
  exact unitGraph_presents wellFormed known

/-! ## Circles of units -/

theorem exists_error_iff {deferred : List DeferredEdge} :
    (∃ cycles, model.planModule model.graph deferred id = .error cycles) ↔
      ∃ unit, Relation.TransGen (model.UnitDepends id) unit unit := by
  rw [unitDepends_eq wellFormed known]
  calc (∃ cycles, model.planModule model.graph deferred id = .error cycles)
    _ ↔ model.unitCycles model.graph id ≠ [] := by
      unfold planModule
      by_cases clean : model.unitCycles model.graph id = [] <;> simp [clean]
    _ ↔ Schedule.HasCircle (model.neededUnits id) (model.units id) := by
      rw [ne_eq, unitCycles_eq_nil_iff wellFormed known, not_not]
    _ ↔ _ := by
      refine exists_congr fun unit => and_iff_right_of_imp fun circle => ?_
      rcases Relation.TransGen.head'_iff.mp circle with ⟨_, needed, _⟩
      exact ((unitGraph_presents wellFormed known).listed _ _ needed).1

/-- The units at the places of a component. -/
abbrev unitsAt (model : Model) (id : ModuleId) (places : List Nat) : List PlanStep :=
  places.map (itemAt (model.units id))

variable (laid : model.graph.Laid)

include laid

/-- The ends of the edges between the units of a component are what its diagnostic names. -/
theorem mem_implicated {component : List Nat}
    (inside : ∀ place ∈ component, place < (model.units id).length) {node : Provider} :
    node ∈ (unitCycle model.graph (model.units id) (model.crossings model.graph id)
        component).implicated ↔
      model.EndsCrossing id (unitsAt model id component) node := by
  simp only [unitCycle, filterMap_getElem? inside, List.mem_filter, List.any_eq_true,
    List.contains_eq_mem, Bool.and_eq_true, Bool.or_eq_true, decide_eq_true_eq, beq_iff_eq]
  constructor
  · rintro ⟨_, ⟨unit, need, edge⟩, ⟨member, isUnit, isNeed⟩, isEnd⟩
    exact ⟨edge, unit, isUnit, need, isNeed, (crosses_iff wellFormed known).mpr member, isEnd⟩
  · rintro ⟨edge, unit, isUnit, need, isNeed, crosses, isEnd⟩
    refine ⟨?_, _, ⟨(crosses_iff wellFormed known).mp crosses, isUnit, isNeed⟩, isEnd⟩
    have held := laid.held edge crosses.member
    rcases isEnd with isSource | isTarget
    · exact isSource ▸ held.1
    · exact isTarget ▸ held.2

theorem reportsUnits {component : List Nat}
    (listed : component ∈
      (unitGraph (model.units id) (model.crossings model.graph id)).components)
    (several : 1 < component.length) :
    let cycle := unitCycle model.graph (model.units id) (model.crossings model.graph id) component
    model.ReportsUnits id (unitsAt model id component) (model.unitCycleDiagnostic id cycle) := by
  intro cycle
  have presents := unitGraph_presents_depends wellFormed known
  have inside := presents.inside_of_mem_components listed
  rcases presents.cycleWalk_map listed (.inl several) with ⟨within, simple, head⟩
  have walk : cycle.walk = unitsAt model id (Adjacency.cycleWalk _ component) :=
    filterMap_getElem? fun place walked => inside place (within place walked)
  refine ⟨rfl, rfl, rfl, ⟨cycle.implicated, laid.ascending.filter _, fun _ => ?_, rfl⟩,
    ⟨cycle.walk, walk ▸ simple, ?_, walk ▸ head, rfl⟩⟩
  · exact mem_implicated wellFormed known laid inside
  · intro unit walked
    rw [walk] at walked
    rcases List.mem_map.mp walked with ⟨place, placeWalked, rfl⟩
    exact List.mem_map_of_mem (within place placeWalked)

theorem exists_reported_components {deferred : List DeferredEdge} {cycles : List UnitCycle}
    (stopped : model.planModule model.graph deferred id = .error cycles) :
    ∃ components : List (List PlanStep), components.Nodup ∧
      (∀ members, members ∈ components ↔
        ComponentOf (model.units id) (model.UnitDepends id) members ∧ 1 < members.length) ∧
      List.Forall₂ (model.ReportsUnits id) components
        (cycles.map (model.unitCycleDiagnostic id)) := by
  have presents := unitGraph_presents_depends wellFormed known
  simp only [planModule] at stopped
  split at stopped
  · cases stopped
  cases stopped
  let several := (unitGraph (model.units id) (model.crossings model.graph id)).components.filter
    fun component => component.length > 1
  refine ⟨several.map (unitsAt model id), ?_, fun members => ?_, ?_⟩
  · exact presents.components_nodup.sublist (List.filter_sublist.map _)
  · rw [← presents.mem_components]
    simp only [several, List.mem_map, List.mem_filter, decide_eq_true_eq, gt_iff_lt]
    constructor
    · rintro ⟨component, ⟨listed, long⟩, rfl⟩
      exact ⟨⟨component, listed, rfl⟩, by simpa using long⟩
    · rintro ⟨⟨component, listed, rfl⟩, long⟩
      exact ⟨component, ⟨listed, by simpa using long⟩, rfl⟩
  · unfold unitCycles
    rw [List.map_map, List.forall₂_map_left_iff, List.forall₂_map_right_iff, List.forall₂_same]
    intro component member
    rcases List.mem_filter.mp member with ⟨listed, long⟩
    exact reportsUnits wellFormed known laid listed (by simpa using long)

/-! ## Plans -/

omit wellFormed known laid in
theorem stepBean?_eq_some {step : PlanStep} {bean : BeanId} :
    stepBean? step = some bean ↔ step = .bean bean := by
  cases step <;> simp [stepBean?]

omit laid in
/-- Among the steps of a module, the beans of one lifetime are its own of that lifetime. -/
theorem mem_stepBeans {steps : List PlanStep} (perm : steps.Perm (model.units id))
    {lives : BeanId → Bool} {bean : BeanId} :
    bean ∈ (steps.filterMap stepBean?).filter lives ↔
      bean ∈ model.beanIds ∧ (model.bean bean).module = id ∧ lives bean = true := by
  have isStep : bean ∈ steps.filterMap stepBean? ↔ .bean bean ∈ steps := by
    simp [List.mem_filterMap, stepBean?_eq_some]
  rw [List.mem_filter, isStep, perm.mem_iff, mem_units_bean wellFormed known, and_assoc]

omit wellFormed known laid in
theorem stepBeans_sublist (steps : List PlanStep) (lives : BeanId → Bool) :
    (((steps.filterMap stepBean?).filter lives).map PlanStep.bean).Sublist steps := by
  have beans : ((steps.filterMap stepBean?).map PlanStep.bean).Sublist (steps.map id) :=
    sublist_of_filterMap (fun _ _ made => (stepBean?_eq_some.mp made).symm) steps
  rw [List.map_id] at beans
  exact (List.filter_sublist.map _).trans beans

omit laid in
theorem constructs_of_ok {deferred : List DeferredEdge} {plan : ModulePlan}
    (planned : model.planModule model.graph deferred id = .ok plan) :
    model.Constructs id plan := by
  simp only [planModule] at planned
  split at planned
  case isFalse => cases planned
  rename_i clean
  cases planned
  have perm := steps_perm wellFormed known (List.isEmpty_iff.mp clean)
  have depends : ∀ {unit need}, model.UnitDepends id unit need ↔ need ∈ model.neededUnits id unit :=
    unitDepends_iff wellFormed known
  constructor
  case steps => exact perm
  case after =>
      intro before unit rest split need needed
      exact need_before split (depends.mp needed)
  case first =>
      intro before unit rest split other listed fresh ready
      exact Schedule.order_first split listed fresh fun need needed => ready need (depends.mpr needed)
  case singletons =>
      intro bean
      rw [mem_stepBeans wellFormed known perm, beq_iff_eq]
  case singletons_ordered => exact stepBeans_sublist _ _
  case perRequest =>
      intro bean
      rw [mem_stepBeans wellFormed known perm, bne_iff_ne]
      cases (model.bean bean).lifetime <;> simp
  case perRequest_ordered => exact stepBeans_sublist _ _

end

end Model

/-- A module has a plan unless units of it depend on each other in a circle. If they do,
each component of several units is reported once, and the plan constructs the module
otherwise. -/
theorem module_construction (declarations : List ModuleDeclaration) {id : ModuleId}
    (known : id ∈ (Model.ofDeclarations declarations).moduleIds) (deferred : List DeferredEdge) :
    let model := Model.ofDeclarations declarations
    let planned := model.planModule model.graph deferred id
    ((∃ cycles, planned = .error cycles) ↔
      ∃ unit, Relation.TransGen (model.UnitDepends id) unit unit) ∧
    (∀ cycles, planned = .error cycles → ∃ components : List (List PlanStep), components.Nodup ∧
      (∀ members, members ∈ components ↔
        ComponentOf (model.units id) (model.UnitDepends id) members ∧ 1 < members.length) ∧
      List.Forall₂ (model.ReportsUnits id) components
        (cycles.map (model.unitCycleDiagnostic id))) ∧
    ∀ plan, planned = .ok plan → model.Constructs id plan := by
  intro model planned
  have wellFormed : model.WellFormed := Model.ofDeclarations_wellFormed declarations
  have laid : model.graph.Laid := Model.dependencyGraph_laid declarations _
  refine ⟨Model.exists_error_iff wellFormed known, ?_, ?_⟩
  · exact fun _ => Model.exists_reported_components wellFormed known laid
  · exact fun _ => Model.constructs_of_ok wellFormed known

/-- A server needs the store of a child, where a log needs the server. -/
def sampleEntwined : List ModuleDeclaration :=
  [{ name := "app"
     beans := [{
      name := "server", declaredType := .ofText "Server", visibility := .isPublic
      sockets := [{ name := "store", requiredType := .ofText "Store" }] }]
     modules := [{
      name := "data"
      beans := [
        { name := "log", declaredType := .ofText "Log"
          sockets := [{ name := "server", requiredType := .ofText "Server" },
            { name := "store", requiredType := .ofText "Store" }] },
        { name := "store", declaredType := .ofText "Store", visibility := .isPublic }] }] }]

set_option maxRecDepth 100000 in
/-- The application cannot be built, since its bean and its child depend on each other. The
child could be, with its second bean first. -/
theorem sampleEntwined_construction :
    let model := Model.ofDeclarations sampleEntwined
    (∃ unit, Relation.TransGen (model.UnitDepends ⟨0⟩) unit unit) ∧
      (∃ members diagnostic, ComponentOf (model.units ⟨0⟩) (model.UnitDepends ⟨0⟩) members ∧
        model.ReportsUnits ⟨0⟩ members diagnostic ∧
        diagnostic.message = "模块 `app` 的构造单元之间存在循环: app:server -> 模块 app.data -> app:server") ∧
      ∃ plan, model.Constructs ⟨1⟩ plan ∧ plan.steps = [.bean ⟨2⟩, .bean ⟨1⟩] := by
  intro model
  have outer := module_construction sampleEntwined (by decide +kernel : ⟨0⟩ ∈ model.moduleIds) []
  have inner := module_construction sampleEntwined (by decide +kernel : ⟨1⟩ ∈ model.moduleIds) []
  have stopped : model.planModule model.graph [] ⟨0⟩ = .error (model.unitCycles model.graph ⟨0⟩) := by
    decide +kernel
  refine ⟨outer.1.mp ⟨_, stopped⟩, ?_, ?_⟩
  · rcases outer.2.1 _ stopped with ⟨components, _, isComponent, reported⟩
    have messages : ((model.unitCycles model.graph ⟨0⟩).map (model.unitCycleDiagnostic ⟨0⟩)).map
        (·.message) =
          ["模块 `app` 的构造单元之间存在循环: app:server -> 模块 app.data -> app:server"] := by
      decide +kernel
    rcases List.map_eq_singleton_iff.mp messages with ⟨diagnostic, single, message⟩
    rw [single] at reported
    rcases List.forall₂_cons_right_iff.mp reported with ⟨members, rest, report, _, rfl⟩
    exact ⟨members, diagnostic, ((isComponent members).mp List.mem_cons_self).1, report, message⟩
  · have clean : model.unitCycles model.graph ⟨1⟩ = [] := by decide +kernel
    have steps : model.steps model.graph ⟨1⟩ = [.bean ⟨2⟩, .bean ⟨1⟩] := by decide +kernel
    rcases Model.exists_plan [] clean with ⟨plan, built⟩
    exact ⟨plan, inner.2.2 plan built, (Model.isPlanFor_of_ok built).steps.trans steps⟩

end StaticInjection
