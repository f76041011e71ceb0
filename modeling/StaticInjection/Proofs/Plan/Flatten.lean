import StaticInjection.Proofs.Build.Survival
import StaticInjection.Proofs.Plan.Units

/-! # Building a whole subtree

The steps of a module come to a sequence of beans when each child is built by the
steps of its own plan. In that sequence every bean of the subtree stands once, and
after the beans that it needs at once: an edge between two units of a module is
respected by the order of its steps, and every other edge lies within one of its
children. -/

namespace StaticInjection

/-- The beans that steps come to. -/
inductive Plan.Expands (plan : Plan) : List PlanStep → List BeanId → Prop
  | done : Expands plan [] []
  | bean {id : BeanId} {steps : List PlanStep} {beans : List BeanId} :
      Expands plan steps beans → Expands plan (.bean id :: steps) (id :: beans)
  | module {id : ModuleId} {child : ModulePlan} {steps : List PlanStep}
      {inner beans : List BeanId} :
      plan.module? id = some child → Expands plan child.steps inner →
      Expands plan steps beans → Expands plan (.module id :: steps) (inner ++ beans)

namespace Plan.Expands

variable {plan : Plan}

theorem unique {steps : List PlanStep} {left right : List BeanId}
    (first : plan.Expands steps left) (second : plan.Expands steps right) : left = right := by
  induction first generalizing right with
  | done =>
      cases second
      rfl
  | bean _ induction =>
      cases second with
      | bean rest => rw [induction rest]
  | module found _ _ innerInduction restInduction =>
      cases second with
      | module otherFound inner rest =>
          rw [found] at otherFound
          cases otherFound
          rw [innerInduction inner, restInduction rest]

theorem append_inv {before after : List PlanStep} {beans : List BeanId}
    (expands : plan.Expands (before ++ after) beans) :
    ∃ left right, beans = left ++ right ∧ plan.Expands before left ∧
      plan.Expands after right := by
  induction before generalizing beans with
  | nil => exact ⟨[], beans, rfl, .done, expands⟩
  | cons step steps induction =>
      cases expands with
      | bean rest =>
          obtain ⟨left, right, rfl, first, second⟩ := induction rest
          exact ⟨_, right, rfl, .bean first, second⟩
      | module found inner rest =>
          obtain ⟨left, right, rfl, first, second⟩ := induction rest
          exact ⟨_, right, (List.append_assoc _ _ _).symm, .module found inner first, second⟩

theorem cons_inv {step : PlanStep} {steps : List PlanStep} {beans : List BeanId}
    (expands : plan.Expands (step :: steps) beans) :
    ∃ left right, beans = left ++ right ∧ plan.Expands [step] left ∧
      plan.Expands steps right :=
  append_inv (show plan.Expands ([step] ++ steps) beans from expands)

end Plan.Expands

namespace Model

/-- A bean is built when what a node stands for is built in a module: the bean
itself, or all of the child whose input the node is. -/
def BuiltFor (model : Model) (id : ModuleId) (bean : BeanId) : Provider → Prop
  | .bean source => bean = source ∧ model.isWithin (model.bean bean).module id = true
  | .socket socket => (model.socket socket).module ≠ id ∧
      model.isWithin (model.socket socket).module id = true ∧
      model.isWithin (model.bean bean).module (model.socket socket).module = true

/-- A sequence that builds the subtree of a module. -/
structure BuildsAll (model : Model) (id : ModuleId) (beans : List BeanId) : Prop where
  nodup : beans.Nodup
  complete : ∀ bean, bean ∈ beans ↔
    bean ∈ model.beanIds ∧ model.isWithin (model.bean bean).module id = true
  ordered : ∀ edge ∈ model.graph.edges, edge.isLazy = false →
    ∀ target, edge.target = .bean target →
      model.isWithin (model.bean target).module id = true →
      ∀ bean ∈ model.beanIds, model.BuiltFor id bean edge.source → [target, bean].Sublist beans

variable {model : Model} (wellFormed : model.WellFormed)

include wellFormed

/-! ## Units of beans -/

/-- A node strictly below a module belongs to one of its children. -/
theorem exists_child_unit {id : ModuleId} {node : Provider} (offered : model.Offers node)
    (within : model.isWithin (model.providerModule node) id = true)
    (different : model.providerModule node ≠ id) :
    ∃ child, model.unitOf? id node = some (.module child) := by
  obtain ⟨child, _, isChild, inside⟩ := wellFormed.exists_child_of_isWithin
    (wellFormed.providerModule_known offered) within different
  exact ⟨child, (unitOf?_eq_module wellFormed offered).mpr ⟨isChild, inside⟩⟩

theorem exists_unit {id : ModuleId} {bean : BeanId} (known : bean ∈ model.beanIds)
    (within : model.isWithin (model.bean bean).module id = true) :
    ∃ unit, model.unitOf? id (.bean bean) = some unit := by
  by_cases here : (model.bean bean).module = id
  · exact ⟨.bean bean, unitOf?_eq_bean.mpr ⟨rfl, here⟩⟩
  · obtain ⟨child, found⟩ := exists_child_unit wellFormed (offers_bean known) within here
    exact ⟨.module child, found⟩

theorem within_of_unit {id : ModuleId} {bean : BeanId} (known : bean ∈ model.beanIds)
    {unit : PlanStep} (found : model.unitOf? id (.bean bean) = some unit) :
    model.isWithin (model.bean bean).module id = true := by
  cases unit with
  | bean other =>
      obtain ⟨equal, here⟩ := unitOf?_eq_bean.mp found
      cases equal
      exact here ▸ WellFormed.isWithin_self _
  | module child =>
      obtain ⟨isChild, inside⟩ := (unitOf?_eq_module wellFormed (offers_bean known)).mp found
      have place := wellFormed.bean_module bean known
      exact wellFormed.isWithin_trans place inside
        (wellFormed.isWithin_parent (wellFormed.isWithin_known place inside) isChild)

/-- A node and the beans that are built for it belong to one unit. -/
theorem BuiltFor.unit {id : ModuleId} {bean : BeanId} (known : bean ∈ model.beanIds)
    {node : Provider} (offered : model.Offers node) (built : model.BuiltFor id bean node) :
    ∃ unit, model.unitOf? id node = some unit ∧ model.unitOf? id (.bean bean) = some unit := by
  cases node with
  | bean source =>
      obtain ⟨rfl, within⟩ := built
      obtain ⟨unit, found⟩ := exists_unit wellFormed known within
      exact ⟨unit, found, found⟩
  | socket socket =>
      obtain ⟨different, within, below⟩ := built
      obtain ⟨child, found⟩ := exists_child_unit wellFormed offered within different
      obtain ⟨isChild, inside⟩ := (unitOf?_eq_module wellFormed offered).mp found
      exact ⟨.module child, found, (unitOf?_eq_module wellFormed (offers_bean known)).mpr ⟨isChild,
        wellFormed.isWithin_trans (wellFormed.bean_module bean known) below inside⟩⟩

/-! ## One module -/

/-- What is assumed of the children of a module. -/
def ChildrenBuilt (model : Model) (id : ModuleId) : Prop :=
  ∀ child ∈ model.moduleIds, model.parent child = some id → ∀ plan beans,
    model.Planned child plan → model.finalPlan.Expands plan.steps beans →
    model.BuildsAll child beans

omit wellFormed in
theorem expands_child {child : ModuleId} {plan : ModulePlan} (planned : model.Planned child plan)
    {part : List BeanId} (expands : model.finalPlan.Expands [.module child] part) :
    model.finalPlan.Expands plan.steps part := by
  cases expands with
  | module found inner rest =>
      rw [planned.found] at found
      cases found
      cases rest
      simpa using inner

/-- One step comes to the beans of its unit. -/
theorem step_covers {id : ModuleId} (survives : model.Survives id)
    (below : model.ChildrenBuilt id) {unit : PlanStep} (inside : unit ∈ model.units id)
    {part : List BeanId} (expands : model.finalPlan.Expands [unit] part) :
    part.Nodup ∧ ∀ bean, bean ∈ part ↔
      bean ∈ model.beanIds ∧ model.unitOf? id (.bean bean) = some unit := by
  cases unit with
  | bean own =>
      obtain ⟨known, here⟩ := (mem_units_bean wellFormed survives.known).mp inside
      cases expands with
      | bean rest =>
          cases rest
          refine ⟨List.nodup_singleton own, fun bean => ?_⟩
          rw [List.mem_singleton, unitOf?_eq_bean]
          constructor
          · rintro rfl
            exact ⟨known, rfl, here⟩
          · rintro ⟨_, equal, _⟩
            exact Provider.bean.inj equal
  | module child =>
      obtain ⟨known, isChild⟩ := (mem_units_module wellFormed survives.known).mp inside
      obtain ⟨plan, planned⟩ := (survives.child wellFormed known isChild).planned wellFormed
      have builds := below child known isChild plan part planned (expands_child planned expands)
      refine ⟨builds.nodup, fun bean => ?_⟩
      rw [builds.complete]
      refine and_congr_right fun beanKnown => ?_
      rw [unitOf?_eq_module wellFormed (offers_bean beanKnown)]
      exact (and_iff_right isChild).symm

/-- Steps come to the beans of their units. -/
theorem steps_cover {id : ModuleId} (survives : model.Survives id)
    (below : model.ChildrenBuilt id) {steps : List PlanStep}
    (inside : ∀ unit ∈ steps, unit ∈ model.units id) (once : steps.Nodup)
    {beans : List BeanId} (expands : model.finalPlan.Expands steps beans) :
    beans.Nodup ∧ ∀ bean, bean ∈ beans ↔
      bean ∈ model.beanIds ∧ ∃ unit ∈ steps, model.unitOf? id (.bean bean) = some unit := by
  induction steps generalizing beans with
  | nil =>
      cases expands
      exact ⟨.nil, by simp⟩
  | cons unit steps induction =>
      obtain ⟨part, rest, rfl, first, others⟩ := expands.cons_inv
      obtain ⟨fresh, onceLater⟩ := List.nodup_cons.mp once
      obtain ⟨partNodup, partMem⟩ :=
        step_covers wellFormed survives below (inside unit List.mem_cons_self) first
      obtain ⟨restNodup, restMem⟩ := induction
        (fun unit later => inside unit (List.mem_cons_of_mem _ later)) onceLater others
      refine ⟨List.nodup_append.mpr ⟨partNodup, restNodup, ?_⟩, fun bean => ?_⟩
      · rintro bean inPart _ inRest rfl
        obtain ⟨_, found⟩ := (partMem bean).mp inPart
        obtain ⟨_, other, later, otherFound⟩ := (restMem bean).mp inRest
        rw [found] at otherFound
        cases otherFound
        exact fresh later
      · rw [List.mem_append, partMem, restMem, ← and_or_left]
        simp [List.mem_cons]

/-- What is built for a node in a module is also built for it in the child that the
node lies in, unless the node is an input of that child. -/
theorem BuiltFor.in_child {id child : ModuleId} {bean : BeanId} {node : Provider}
    (offered : model.Offers node) (built : model.BuiltFor id bean node)
    (found : model.unitOf? id node = some (.module child))
    (notTop : ∀ socket, node = .socket socket → (model.socket socket).module ≠ child) :
    model.BuiltFor child bean node := by
  obtain ⟨isChild, inside⟩ := (unitOf?_eq_module wellFormed offered).mp found
  cases node with
  | bean source =>
      obtain ⟨rfl, _⟩ := built
      exact ⟨rfl, inside⟩
  | socket socket =>
      obtain ⟨_, _, below⟩ := built
      exact ⟨notTop socket rfl, inside, below⟩

/-- Nothing inside a module provides what its own inputs use. -/
theorem input_outside {wire : Wire} (isWire : wire ∈ model.wires.wires) {target : Provider}
    (listed : target ∈ wire.targets) {socket : SocketId}
    (isSocket : model.requirer wire.socket = .socket socket) :
    model.isWithin (model.providerModule target) (model.socket socket).module = false := by
  obtain ⟨scope, _, wired⟩ := wellFormed.wired_of_mem isWire
  cases owned : (model.socket wire.socket).owner with
  | bean owner =>
      rw [requirer_of_bean owned] at isSocket
      cases isSocket
  | module owner =>
      rw [requirer_of_module owned] at isSocket
      cases isSocket
      rw [(wellFormed.owner_module _ wired.known owner owned).2]
      exact (wired.suits target listed).outside owner owned

/-- A unit that holds both ends of a wire is a child: a bean does not need itself. -/
theorem exists_child_of_same_unit {wire : Wire} (isWire : wire ∈ model.wires.wires)
    {target : BeanId} (listed : .bean target ∈ wire.targets) {id : ModuleId} {unit : PlanStep}
    (sourceUnit : model.unitOf? id (model.requirer wire.socket) = some unit)
    (targetUnit : model.unitOf? id (.bean target) = some unit) :
    ∃ child, unit = .module child := by
  cases unit with
  | module child => exact ⟨child, rfl⟩
  | bean own =>
      obtain ⟨scope, _, wired⟩ := wellFormed.wired_of_mem isWire
      obtain ⟨source, here⟩ := unitOf?_eq_bean.mp sourceUnit
      obtain ⟨again, _⟩ := unitOf?_eq_bean.mp targetUnit
      cases again
      cases owned : (model.socket wire.socket).owner with
      | bean owner =>
          rw [requirer_of_bean owned] at source
          cases source
          exact absurd rfl ((wired.suits _ listed).notItself _ owned)
      | module owner =>
          rw [requirer_of_module owned] at source
          cases source

/-- A wire within one unit is respected by what that unit comes to. -/
theorem ordered_in_unit {id : ModuleId} (survives : model.Survives id)
    (below : model.ChildrenBuilt id) {wire : Wire} (isWire : wire ∈ model.wires.wires)
    (eager : wire.isLazy = false) {target : BeanId} (listed : .bean target ∈ wire.targets)
    {unit : PlanStep} (targetUnit : model.unitOf? id (.bean target) = some unit)
    (sourceUnit : model.unitOf? id (model.requirer wire.socket) = some unit)
    {part : List BeanId} (expands : model.finalPlan.Expands [unit] part) {bean : BeanId}
    (known : bean ∈ model.beanIds) (built : model.BuiltFor id bean (model.requirer wire.socket)) :
    [target, bean].Sublist part := by
  obtain ⟨child, rfl⟩ := exists_child_of_same_unit wellFormed isWire listed sourceUnit targetUnit
  obtain ⟨scope, _, wired⟩ := wellFormed.wired_of_mem isWire
  have offered := (wired.suits _ listed).offered
  obtain ⟨isChild, inside⟩ := (unitOf?_eq_module wellFormed (offers_bean offered)).mp targetUnit
  have childKnown := wellFormed.isWithin_known (wellFormed.providerModule_known offered) inside
  obtain ⟨plan, planned⟩ := (survives.child wellFormed childKnown isChild).planned wellFormed
  have builds := below child childKnown isChild plan part planned (expands_child planned expands)
  have edge : model.wireEdge wire (.bean target) ∈ model.graph.edges :=
    wellFormed.mem_edges.mpr ⟨wire, isWire, _, listed, rfl⟩
  have deeper := built.in_child wellFormed (wellFormed.offers_requirer wired.known) sourceUnit
    fun socket isSocket place => Bool.noConfusion
      (inside.symm.trans (place ▸ input_outside wellFormed isWire listed isSocket))
  exact builds.ordered _ edge eager target rfl inside bean known deeper

/-- The units of a module hold exactly the beans of its subtree. -/
theorem exists_unit_iff {id : ModuleId} (idKnown : id ∈ model.moduleIds) {bean : BeanId}
    (known : bean ∈ model.beanIds) :
    (∃ unit ∈ model.units id, model.unitOf? id (.bean bean) = some unit) ↔
      model.isWithin (model.bean bean).module id = true := by
  constructor
  · rintro ⟨unit, _, found⟩
    exact within_of_unit wellFormed known found
  · intro within
    obtain ⟨unit, found⟩ := exists_unit wellFormed known within
    exact ⟨unit, unitOf?_mem_units wellFormed idKnown (offers_bean known) found, found⟩

/-- What holds of the children's sequences holds of the module's. -/
theorem buildsAll_of_children {id : ModuleId} (survives : model.Survives id)
    (below : model.ChildrenBuilt id) {plan : ModulePlan} (planned : model.Planned id plan)
    {beans : List BeanId} (expands : model.finalPlan.Expands plan.steps beans) :
    model.BuildsAll id beans := by
  have steps := planned.steps
  have perm := steps_perm wellFormed survives.known planned.noCycle
  rw [← steps] at perm
  have isUnit : ∀ unit, unit ∈ plan.steps ↔ unit ∈ model.units id := fun unit => perm.mem_iff
  have once := perm.nodup_iff.mpr (units_nodup wellFormed survives.known)
  obtain ⟨nodup, mem⟩ := steps_cover wellFormed survives below
    (fun unit => (isUnit unit).mp) once expands
  refine ⟨nodup, fun bean => ?_, ?_⟩
  · rw [mem bean]
    refine and_congr_right fun known => ?_
    simp only [isUnit]
    exact exists_unit_iff wellFormed survives.known known
  · intro edge member eager target isTarget targetWithin bean known built
    obtain ⟨wire, isWire, provider, listed, rfl⟩ := wellFormed.mem_edges.mp member
    obtain ⟨scope, _, wired⟩ := wellFormed.wired_of_mem isWire
    simp only [wireEdge] at isTarget built eager
    subst isTarget
    have suits := wired.suits _ listed
    have sourceOffered := wellFormed.offers_requirer wired.known
    obtain ⟨unit, sourceUnit, beanUnit⟩ := built.unit wellFormed known sourceOffered
    obtain ⟨targetUnit, targetFound⟩ := exists_unit wellFormed suits.offered targetWithin
    have unitListed : unit ∈ plan.steps := (isUnit unit).mpr
      (unitOf?_mem_units wellFormed survives.known sourceOffered sourceUnit)
    obtain ⟨before, after, split⟩ := List.append_of_mem unitListed
    rw [split] at expands
    obtain ⟨left, others, rfl, leftExpands, othersExpand⟩ := expands.append_inv
    obtain ⟨part, right, rfl, partExpands, _⟩ := othersExpand.cons_inv
    by_cases same : unit = targetUnit
    · -- Both ends lie in one child, whose beans stand together.
      have inner := ordered_in_unit wellFormed survives below isWire eager listed
        (same ▸ targetFound) sourceUnit partExpands known built
      exact inner.trans ((List.sublist_append_left part right).trans
        (List.sublist_append_right left _))
    · have earlier : targetUnit ∈ before := step_before (steps ▸ split) member eager sourceUnit
        targetFound same
      have inLeft : target ∈ left := ((steps_cover wellFormed survives below
        (fun unit listed => (isUnit unit).mp (split ▸ List.mem_append_left _ listed))
        ((List.nodup_append.mp (split ▸ once)).1) leftExpands).2 target).mpr
          ⟨suits.offered, targetUnit, earlier, targetFound⟩
      have inPart : bean ∈ part := ((step_covers wellFormed survives below
        ((isUnit unit).mp unitListed) partExpands).2 bean).mpr ⟨known, beanUnit⟩
      exact (List.singleton_sublist.mpr inLeft).append
        ((List.singleton_sublist.mpr inPart).trans (List.sublist_append_left part right))

/-! ## All modules -/

theorem exists_expansion {id : ModuleId} (survives : model.Survives id)
    (below : ∀ child ∈ model.moduleIds, model.parent child = some id → ∀ plan,
      model.Planned child plan → ∃ beans, model.finalPlan.Expands plan.steps beans)
    {steps : List PlanStep} (inside : ∀ unit ∈ steps, unit ∈ model.units id) :
    ∃ beans, model.finalPlan.Expands steps beans := by
  induction steps with
  | nil => exact ⟨[], .done⟩
  | cons unit steps induction =>
      obtain ⟨rest, others⟩ := induction fun unit later => inside unit (List.mem_cons_of_mem _ later)
      cases unit with
      | bean own => exact ⟨own :: rest, .bean others⟩
      | module child =>
          obtain ⟨known, isChild⟩ := (mem_units_module wellFormed survives.known).mp
            (inside _ List.mem_cons_self)
          obtain ⟨plan, planned⟩ := (survives.child wellFormed known isChild).planned wellFormed
          obtain ⟨inner, first⟩ := below child known isChild plan planned
          exact ⟨inner ++ rest, .module planned.found first others⟩

/-- The steps of a survivor come to a sequence that builds its subtree. -/
theorem exists_buildsAll {id : ModuleId} (survives : model.Survives id) {plan : ModulePlan}
    (planned : model.Planned id plan) :
    ∃ beans, model.finalPlan.Expands plan.steps beans ∧ model.BuildsAll id beans := by
  refine wellFormed.ascend (motive := fun id => model.Survives id → ∀ plan,
    model.Planned id plan → ∃ beans, model.finalPlan.Expands plan.steps beans ∧
      model.BuildsAll id beans) ?_ survives.known survives plan planned
  intro id _ below survives plan planned
  have children : model.ChildrenBuilt id := by
    intro child known isChild childPlan beans childPlanned expands
    obtain ⟨others, otherExpands, builds⟩ := below child known isChild
      (survives.child wellFormed known isChild) childPlan childPlanned
    exact expands.unique otherExpands ▸ builds
  obtain ⟨beans, expands⟩ := exists_expansion wellFormed survives
    (fun child known isChild childPlan childPlanned =>
      (below child known isChild (survives.child wellFormed known isChild) childPlan
        childPlanned).imp fun _ facts => facts.1)
    (fun unit listed => (steps_perm wellFormed survives.known planned.noCycle).mem_iff.mp
      (planned.steps ▸ listed))
  exact ⟨beans, expands, buildsAll_of_children wellFormed survives children planned expands⟩

end Model

/-- The steps of every emitted module come to one sequence of beans, in which each bean
of its subtree stands once, after all beans of the subtree that it needs at once and
after all those that an input of a module around it, below the emitted one, needs at
once. -/
theorem emitted_steps_build_in_order (declarations : List ModuleDeclaration) (header : String)
    (artifact : Artifact)
    (emitted : artifact ∈ (Build.ofDeclarations declarations header).artifacts) :
    let model := Model.ofDeclarations declarations
    ∃ plan beans,
      model.finalPlan.module? artifact.module = some plan ∧
      artifact = model.artifact model.wires model.finalPlan plan header ∧
      (∀ others, model.finalPlan.Expands plan.steps others ↔ others = beans) ∧
      (∀ bean, beans.count bean =
        if bean ∈ model.beanIds ∧ model.isWithin (model.bean bean).module artifact.module = true
        then 1 else 0) ∧
      ∀ wire ∈ model.wires.wires, wire.isLazy = false →
        ∀ target, .bean target ∈ wire.targets →
          model.isWithin (model.bean target).module artifact.module = true →
          (∀ bean, (model.socket wire.socket).owner = .bean bean →
            model.isWithin (model.bean bean).module artifact.module = true →
            [target, bean].Sublist beans) ∧
          ∀ module, (model.socket wire.socket).owner = .module module →
            module ≠ artifact.module → model.isWithin module artifact.module = true →
            ∀ bean ∈ model.beanIds, model.isWithin (model.bean bean).module module = true →
              [target, bean].Sublist beans := by
  intro model
  have wellFormed := Model.ofDeclarations_wellFormed declarations
  obtain ⟨id, plan, survives, planned, rfl⟩ := (Model.mem_artifacts wellFormed).mp emitted
  obtain ⟨beans, expands, builds⟩ := Model.exists_buildsAll wellFormed survives planned
  have isModule : (model.artifact model.wires model.finalPlan plan header).module = id :=
    planned.module
  rw [isModule]
  refine ⟨plan, beans, planned.found, rfl, fun others => ⟨fun other => other.unique expands,
    fun equal => equal ▸ expands⟩, fun bean => ?_, ?_⟩
  · rw [builds.nodup.count, if_congr (builds.complete bean) rfl rfl]
  · intro wire member eager target listed targetWithin
    have edge : model.wireEdge wire (.bean target) ∈ model.graph.edges :=
      wellFormed.mem_edges.mpr ⟨wire, member, _, listed, rfl⟩
    obtain ⟨scope, _, wired⟩ := wellFormed.wired_of_mem member
    have order := builds.ordered _ edge eager target rfl targetWithin
    refine ⟨fun bean owned within => ?_, fun module owned different within bean known below => ?_⟩
    · have known := (wellFormed.owner_bean _ wired.known bean owned).1
      refine order bean known ?_
      rw [Model.wireEdge, Model.requirer_of_bean owned]
      exact ⟨rfl, within⟩
    · have place := (wellFormed.owner_module _ wired.known module owned).2
      refine order bean known ?_
      rw [Model.wireEdge, Model.requirer_of_module owned]
      exact ⟨place.symm ▸ different, place.symm ▸ within, place.symm ▸ below⟩

set_option maxRecDepth 100000 in
/-- The clock is built before the file two levels below, and the limit, which the
module of the store takes as an input, before that file too. -/
theorem sampleApplication_built_in_order :
    let model := Model.ofDeclarations sampleApplication
    ∃ plan beans, model.finalPlan.module? ⟨0⟩ = some plan ∧
      (∀ others, model.finalPlan.Expands plan.steps others ↔ others = beans) ∧
      [(⟨0⟩ : BeanId), ⟨3⟩].Sublist beans ∧ [(⟨4⟩ : BeanId), ⟨3⟩].Sublist beans := by
  intro model
  have root : (⟨0⟩ : ModuleId) ∈ model.moduleIds := by decide +kernel
  obtain ⟨artifact, emitted, isRoot⟩ := sampleApplication_emitted root
  obtain ⟨plan, beans, found, _, expands, _, order⟩ :=
    emitted_steps_build_in_order sampleApplication "" artifact emitted
  rw [isRoot] at found order
  refine ⟨plan, beans, found, expands, ?_, ?_⟩
  · obtain ⟨wire, member, eager, listed, owner⟩ : ∃ wire ∈ model.wires.wires,
        wire.isLazy = false ∧ .bean ⟨0⟩ ∈ wire.targets ∧
          (model.socket wire.socket).owner = .bean ⟨3⟩ := by
      decide +kernel
    exact (order wire member eager _ listed (by decide +kernel)).1 _ owner (by decide +kernel)
  · obtain ⟨wire, member, eager, listed, owner⟩ : ∃ wire ∈ model.wires.wires,
        wire.isLazy = false ∧ .bean ⟨4⟩ ∈ wire.targets ∧
          (model.socket wire.socket).owner = .module ⟨1⟩ := by
      decide +kernel
    exact (order wire member eager _ listed (by decide +kernel)).2 _ owner (by decide)
      (by decide +kernel) _ (by decide +kernel) (by decide +kernel)

end StaticInjection
