import StaticInjection.Proofs.Build.Names
import StaticInjection.Proofs.Emission.Argument

/-! # Constructors are well scoped

Before the first step the constructor of a survivor binds its inputs, its imports and
its cells. A step finds what its unit needs among these or among the locals of earlier
steps, since the order of steps respects every edge between units. After the last step
all beans and children are bound, so patches and the result find theirs. -/

namespace StaticInjection

namespace Model

open Code

variable {model : Model} (wellFormed : model.WellFormed)

/-- The constructor of a module with a plan. -/
abbrev constructorFor (model : Model) (plan : ModulePlan) : Constructor :=
  model.constructor model.wires model.finalPlan plan

/-- The locals bound before the steps that follow the given ones. -/
def knownAfter (model : Model) (plan : ModulePlan) (before : List PlanStep) : List Local :=
  (model.constructorFor plan).boundFirst ++
    (before.filterMap (model.buildStep? model.wires model.finalPlan plan.module)).flatMap (·.bound)

theorem boundFirst_eq (model : Model) (plan : ModulePlan) :
    (model.constructorFor plan).boundFirst =
      (model.module plan.module).sockets.map model.inputLocal ++
        plan.imports.map model.importLocal ++ plan.deferredIn.map model.cellLocal ++
        plan.deferredOwned.map model.cellLocal := by
  simp [Constructor.boundFirst, constructor, inputFields, declaredField, importField, cellField,
    Function.comp_def]

theorem mem_knownAfter {plan : ModulePlan} {before : List PlanStep} {name : Local}
    (member : name ∈ (model.constructorFor plan).boundFirst) :
    name ∈ model.knownAfter plan before :=
  List.mem_append_left _ member

theorem mem_knownAfter_of_step {plan : ModulePlan} {before : List PlanStep} {unit : PlanStep}
    (earlier : unit ∈ before) {step : BuildStep}
    (built : model.buildStep? model.wires model.finalPlan plan.module unit = some step)
    {name : Local} (member : name ∈ step.bound) : name ∈ model.knownAfter plan before :=
  List.mem_append_right _ (List.mem_flatMap.mpr
    ⟨step, List.mem_filterMap.mpr ⟨unit, earlier, built⟩, member⟩)

theorem cellLocal_known {plan : ModulePlan} {before : List PlanStep} {socket : SocketId}
    (listed : socket ∈ plan.deferredIn ∨ socket ∈ plan.deferredOwned) :
    model.cellLocal socket ∈ model.knownAfter plan before := by
  apply mem_knownAfter
  rw [boundFirst_eq]
  rcases listed with handedIn | made
  · exact List.mem_append_left _ (List.mem_append_right _ (List.mem_map_of_mem handedIn))
  · exact List.mem_append_right _ (List.mem_map_of_mem made)

theorem importLocal_known {plan : ModulePlan} {before : List PlanStep} {bean : BeanId}
    (listed : bean ∈ plan.imports) : model.importLocal bean ∈ model.knownAfter plan before := by
  apply mem_knownAfter
  rw [boundFirst_eq]
  exact List.mem_append_left _ (List.mem_append_left _
    (List.mem_append_right _ (List.mem_map_of_mem listed)))

theorem inputLocal_known {plan : ModulePlan} {before : List PlanStep} {socket : SocketId}
    (listed : socket ∈ (model.module plan.module).sockets) :
    model.inputLocal socket ∈ model.knownAfter plan before := by
  apply mem_knownAfter
  rw [boundFirst_eq]
  exact List.mem_append_left _ (List.mem_append_left _
    (List.mem_append_left _ (List.mem_map_of_mem listed)))

/-! ## What steps bind -/

theorem ownLocal_bound (model : Model) (wires : WireSet) (scope : ModuleId) (bean : BeanId) :
    ownLocal (model.bean bean) ∈ (model.beanStep wires scope bean).bound := by
  simp only [beanStep, ownLocal]
  cases (model.bean bean).lifetime <;> simp [BuildStep.bound]

theorem childLocal_bound (model : Model) (wires : WireSet) (scope : ModuleId) (plan : ModulePlan) :
    ⟨.child, (model.module plan.module).name⟩ ∈ (model.childStep wires scope plan).bound := by
  simp [childStep, BuildStep.bound]

theorem issuedLocal_bound (model : Model) (wires : WireSet) (scope : ModuleId) {bean : BeanId}
    (tracked : (model.bean bean).isTracked = true) :
    ⟨.issued, (model.bean bean).name⟩ ∈ (model.beanStep wires scope bean).bound := by
  have lifetime : (model.bean bean).lifetime = .perRequest := by
    simp only [Bean.isTracked, Bool.and_eq_true, beq_iff_eq] at tracked
    exact tracked.1
  simp [beanStep, lifetime, BuildStep.bound, tracked]

theorem buildStep?_module {scope child : ModuleId} {plan : ModulePlan}
    (planned : model.Planned child plan) :
    model.buildStep? model.wires model.finalPlan scope (.module child) =
      some (model.childStep model.wires scope plan) := by
  simp [buildStep?, planned.found]

include wellFormed

/-! ## Providers in reach -/

variable {id : ModuleId} {plan : ModulePlan} (survives : model.Survives id)
  (planned : model.Planned id plan)

include survives planned

/-- A provider is known once its unit is built, or handed in. -/
theorem localOf_known {before : List PlanStep} {target : Provider}
    (reached : model.Reached id plan target)
    (built : ∀ unit, model.unitOf? id target = some unit → unit ∈ before) :
    model.localOf id target ∈ model.knownAfter plan before := by
  cases reached with
  | input listed => exact inputLocal_known (planned.module.symm ▸ listed)
  | @own bean listed =>
      obtain ⟨_, here⟩ := (wellFormed.beans id survives.known bean).mp listed
      rw [localOf_own here]
      exact mem_knownAfter_of_step (built _ (unitOf?_eq_bean.mpr ⟨rfl, here⟩)) rfl
        (ownLocal_bound ..)
  | @child bean known isChild isPublic =>
      have unit := (unitOf?_eq_module wellFormed (offers_bean known)).mpr
        ⟨isChild, WellFormed.isWithin_self _⟩
      obtain ⟨childPlan, childPlanned⟩ := (survives.child wellFormed
        (wellFormed.bean_module bean known) isChild).planned wellFormed
      rw [localOf_child wellFormed known isChild, ← childPlanned.module]
      exact mem_knownAfter_of_step (built _ unit)
        (buildStep?_module childPlanned) (childLocal_bound ..)
  | imported listed apart =>
      rw [localOf_outside apart]
      exact importLocal_known listed

/-- What a socket of a unit needs is known before the unit. -/
theorem argumentLocals_known {before after : List PlanStep} {unit : PlanStep}
    (split : plan.steps = before ++ unit :: after) {socket : SocketId}
    (isSocket : model.UnitSocket id plan socket)
    (isUnit : model.unitOf? id (model.requirer socket) = some unit) :
    ∀ name ∈ model.argumentLocals model.wires id socket, name ∈ model.knownAfter plan before := by
  obtain ⟨known, wiring, cell⟩ := isSocket
  intro name member
  simp only [argumentLocals] at member
  split at member
  · rename_i isLazy
    rw [List.mem_singleton.mp member]
    exact cellLocal_known (cell isLazy)
  · rename_i notLazy
    obtain ⟨wire, found, wired⟩ := survives.exists_wire wellFormed known wiring
    obtain ⟨isWire, rfl⟩ := WireSet.get?_eq_some.mp found
    have eager : wire.isLazy = false := wired.isLazy.trans (by simpa using notLazy)
    obtain ⟨target, used, rfl⟩ := List.mem_map.mp member
    have listed : target ∈ wire.targets := by
      simp only [targets, found] at used
      split at used
      · exact used
      · exact List.mem_of_mem_take used
    have suits := wired.suits target listed
    have edge := wellFormed.mem_edges.mpr ⟨wire, isWire, target, listed, rfl⟩
    have reached := reached_target wellFormed survives planned isWire wired eager listed
    refine localOf_known wellFormed survives planned reached fun other inUnit => ?_
    refine step_before (planned.steps ▸ split) edge eager isUnit inUnit ?_
    -- A socket is not satisfied from its own unit.
    rintro rfl
    have source := unit_of_requirer wellFormed known wiring
    rw [isUnit, Option.some.injEq] at source
    cases owned : (model.socket wire.socket).owner with
    | bean owner =>
        simp only [owned] at source
        subst source
        obtain ⟨same, _⟩ := unitOf?_eq_bean.mp inUnit
        exact suits.notItself owner owned same
    | module owner =>
        simp only [owned] at source
        subst source
        have inside := ((unitOf?_eq_module wellFormed suits.offered).mp inUnit).2
        rw [suits.outside owner owned] at inside
        cases inside

/-! ## Steps -/

theorem mem_steps {unit : PlanStep} : unit ∈ plan.steps ↔ unit ∈ model.units id := by
  rw [planned.steps]
  exact (steps_perm wellFormed survives.known planned.noCycle).mem_iff

theorem beanStep_scoped {before after : List PlanStep} {bean : BeanId}
    (split : plan.steps = before ++ .bean bean :: after) :
    (model.beanStep model.wires id bean).ScopedIn (model.knownAfter plan before) := by
  have isUnit : .bean bean ∈ model.units id :=
    (mem_steps wellFormed survives planned).mp (by simp [split])
  have listed : bean ∈ (model.module id).beans := by simpa [units] using isUnit
  obtain ⟨beanKnown, here⟩ := (wellFormed.beans id survives.known bean).mp listed
  have needs : ∀ socket ∈ (model.bean bean).sockets,
      ∀ name ∈ model.argumentLocals model.wires id socket,
        name ∈ model.knownAfter plan before := by
    intro socket owned
    have owner := ((wellFormed.beanSockets bean beanKnown socket).mp owned).2
    refine argumentLocals_known wellFormed survives planned split
      (unitSocket_of_bean wellFormed survives planned listed owned) ?_
    rw [requirer_of_bean owner]
    exact unitOf?_eq_bean.mpr ⟨rfl, here⟩
  simp only [beanStep, construction, List.filterMap_map, List.map_map]
  cases lifetime : (model.bean bean).lifetime with
  | singleton => exact arguments_scoped _ needs
  | perRequest =>
      refine ⟨?_, arguments_scoped _ fun socket owned name member => ?_⟩
      · intro name captured
        simp only [Model.captured, List.mem_eraseDups, List.mem_mergeSort, List.mem_append,
          List.mem_flatMap] at captured
        rcases captured with ⟨socket, owned, member⟩ | issued
        · exact .inl (needs socket owned name member)
        · by_cases tracked : (model.bean bean).isTracked = true
          · simp only [tracked, if_true, List.mem_singleton] at issued
            exact .inr ⟨tracked, issued⟩
          · simp [tracked] at issued
      · simp only [Model.captured, List.mem_eraseDups, List.mem_mergeSort, List.mem_append,
          List.mem_flatMap]
        exact .inl ⟨socket, owned, member⟩

/-- An import of a child is known before the child is built. -/
theorem childImport_known {before after : List PlanStep} {child : ModuleId}
    (split : plan.steps = before ++ .module child :: after)
    (childSurvives : model.Survives child) (isChild : model.parent child = some id)
    {childPlan : ModulePlan} (childPlanned : model.Planned child childPlan) {bean : BeanId}
    (listed : bean ∈ childPlan.imports) :
    model.localOf id (.bean bean) ∈ model.knownAfter plan before := by
  obtain ⟨known, apart, _⟩ := (mem_imports wellFormed childPlanned).mp listed
  obtain ⟨edge, member, eager, isTarget, isUnit⟩ :=
    child_import_edge wellFormed isChild childPlanned listed
  have reached := reached_import wellFormed survives planned childSurvives isChild childPlanned
    listed
  refine localOf_known wellFormed survives planned reached fun unit inUnit => ?_
  refine step_before (planned.steps ▸ split) member eager isUnit (isTarget ▸ inUnit) ?_
  rintro rfl
  have inside := ((unitOf?_eq_module wellFormed (offers_bean known)).mp inUnit).2
  rw [show model.providerModule (.bean bean) = (model.bean bean).module from rfl, apart] at inside
  cases inside

theorem childStep_scoped {before after : List PlanStep} {child : ModuleId}
    (split : plan.steps = before ++ .module child :: after) {childPlan : ModulePlan}
    (childPlanned : model.Planned child childPlan) :
    (model.childStep model.wires id childPlan).ScopedIn (model.knownAfter plan before) := by
  have isUnit : .module child ∈ model.units id :=
    (mem_steps wellFormed survives planned).mp (by simp [split])
  have isListed : child ∈ (model.module id).children := by simpa [units] using isUnit
  obtain ⟨childKnown, isChild⟩ := (wellFormed.children id survives.known child).mp isListed
  have childSurvives := survives.child wellFormed childKnown isChild
  have needs : ∀ socket ∈ (model.module child).sockets,
      ∀ name ∈ model.argumentLocals model.wires id socket,
        name ∈ model.knownAfter plan before := by
    intro socket listed
    have isSocket : model.UnitSocket id plan socket :=
      unitSocket_of_child wellFormed survives isListed listed
    have source := unit_of_requirer wellFormed isSocket.known isSocket.wiring
    rw [((wellFormed.moduleSockets child childKnown socket).mp listed).2] at source
    exact argumentLocals_known wellFormed survives planned split isSocket source
  simp only [childStep, childPlanned.module, List.filterMap_map, List.map_map]
  obtain ⟨gathered, values⟩ := arguments_scoped
    (fun socket => childGatheredLocal (model.module child) (model.socket socket)) needs
  refine ⟨gathered, fun value member name mention => ?_⟩
  simp only [List.map_append, List.map_map, List.mem_append] at member
  rcases member with (argument | imported) | cell
  · exact values value argument name mention
  · obtain ⟨bean, listed, rfl⟩ := List.mem_map.mp imported
    rw [mem_importValue_locals mention]
    exact .inl (childImport_known wellFormed survives planned split childSurvives isChild
      childPlanned listed)
  · obtain ⟨socket, listed, rfl⟩ := List.mem_map.mp cell
    have equal : name = model.cellLocal socket := by simpa [Value.locals] using mention
    rw [equal]
    exact .inl (cellLocal_known (child_cell wellFormed childKnown isChild planned childPlanned
      listed))

/-- Every step finds what it needs. -/
theorem steps_scoped {before after : List BuildStep} {step : BuildStep}
    (split : (model.constructorFor plan).steps = before ++ step :: after) :
    step.ScopedIn ((model.constructorFor plan).boundFirst ++ before.flatMap (·.bound)) := by
  obtain ⟨first, rest, planSplit, rfl, others⟩ := List.filterMap_eq_append_iff.mp split
  obtain ⟨skipped, unit, last, restSplit, none, built, _⟩ := List.filterMap_eq_cons_iff.mp others
  have together : (first ++ skipped).filterMap
      (model.buildStep? model.wires model.finalPlan plan.module) =
        first.filterMap (model.buildStep? model.wires model.finalPlan plan.module) := by
    rw [List.filterMap_append, List.filterMap_eq_nil_iff.mpr none, List.append_nil]
  have unitSplit : plan.steps = (first ++ skipped) ++ unit :: last := by
    rw [planSplit, restSplit, List.append_assoc]
  rw [← together]
  rw [planned.module] at built
  cases unit with
  | bean bean =>
      cases built
      exact beanStep_scoped wellFormed survives planned unitSplit
  | module child =>
      obtain ⟨childPlan, found, rfl⟩ := Option.map_eq_some_iff.mp built
      have isUnit : .module child ∈ model.units id :=
        (mem_steps wellFormed survives planned).mp (by simp [unitSplit])
      obtain ⟨childKnown, isChild⟩ := (mem_units_module wellFormed survives.known).mp isUnit
      obtain ⟨other, childPlanned⟩ :=
        (survives.child wellFormed childKnown isChild).planned wellFormed
      have same := childPlanned.found
      rw [found] at same
      cases same
      exact childStep_scoped wellFormed survives planned unitSplit childPlanned

/-- The steps build the own beans and the children, which all have plans. -/
theorem mem_constructor_steps {step : BuildStep} :
    step ∈ (model.constructorFor plan).steps ↔
      (∃ bean ∈ (model.module id).beans, step = model.beanStep model.wires id bean) ∨
        ∃ child ∈ (model.module id).children, ∃ childPlan, model.Planned child childPlan ∧
          step = model.childStep model.wires id childPlan := by
  simp only [constructorFor, constructor, planned.module, List.mem_filterMap,
    mem_steps wellFormed survives planned]
  constructor
  · rintro ⟨unit, isUnit, built⟩
    cases unit with
    | bean bean =>
        cases built
        exact .inl ⟨bean, by simpa [units] using isUnit, rfl⟩
    | module child =>
        have listed : child ∈ (model.module id).children := by simpa [units] using isUnit
        obtain ⟨known, isChild⟩ := (wellFormed.children id survives.known child).mp listed
        obtain ⟨childPlan, childPlanned⟩ :=
          (survives.child wellFormed known isChild).planned wellFormed
        rw [buildStep?_module childPlanned] at built
        cases built
        exact .inr ⟨child, listed, childPlan, childPlanned, rfl⟩
  · rintro (⟨bean, listed, rfl⟩ | ⟨child, listed, childPlan, childPlanned, rfl⟩)
    · exact ⟨.bean bean, by simpa [units] using listed, rfl⟩
    · exact ⟨.module child, by simpa [units] using listed, buildStep?_module childPlanned⟩

/-! ## Patches and the result -/

omit wellFormed survives in
/-- Patches fill the cells that are made in the module. -/
theorem mem_constructor_patches {patch : Patch}
    (listed : patch ∈ (model.constructorFor plan).patches) :
    ∃ edge ∈ model.finalPlan.deferred, edge.anchor = id ∧ edge.socket ∈ plan.deferredOwned ∧
      model.patch? id edge = some patch := by
  simp only [constructorFor, constructor, planned.module, List.mem_filterMap] at listed
  obtain ⟨edge, ⟨socket, owned, found⟩, patched⟩ := listed
  obtain ⟨other, inDeferred, isAnchor, rfl⟩ := (mem_deferredOwned planned).mp owned
  rw [deferredEdge?_of_mem inDeferred] at found
  cases found
  exact ⟨edge, inDeferred, isAnchor, owned, patched⟩

omit wellFormed survives planned in
theorem knownAfter_steps (model : Model) (plan : ModulePlan) :
    model.knownAfter plan plan.steps = (model.constructorFor plan).bound := rfl

theorem patches_scoped :
    ∀ patch ∈ (model.constructorFor plan).patches, ∀ name ∈ patch.locals,
      name ∈ (model.constructorFor plan).bound := by
  intro patch listed name member
  rw [← knownAfter_steps]
  obtain ⟨edge, inDeferred, isAnchor, owned, patched⟩ :=
    mem_constructor_patches planned listed
  have cell : model.cellLocal edge.socket ∈ model.knownAfter plan plan.steps :=
    cellLocal_known (.inr owned)
  have reached : ∀ target, edge.target = some target →
      model.localOf id target ∈ model.knownAfter plan plan.steps := by
    intro target isTarget
    obtain ⟨wire, isDeferred⟩ := isDeferred_of_mem inDeferred
    have offered := ((isDeferred.anchored wellFormed).2 target isTarget).1.offered
    refine localOf_known wellFormed survives planned
      (reached_deferred wellFormed survives planned inDeferred isAnchor isTarget)
      fun unit found => ?_
    exact (mem_steps wellFormed survives planned).mpr
      (unitOf?_mem_units wellFormed survives.known offered found)
  simp only [patch?] at patched
  split at patched
  · cases patched
  · rename_i bean isTarget
    cases patched
    simp only [Patch.locals, List.mem_cons] at member
    rcases member with equal | mention
    · exact equal ▸ cell
    · rw [mem_coercedValue_locals mention]
      exact reached _ isTarget
  · rename_i input isTarget
    have source := reached _ isTarget
    simp only [localOf] at source
    split at patched <;> cases patched
    all_goals
      simp only [Patch.locals, Value.locals, List.mem_cons, List.not_mem_nil, or_false] at member
      rcases member with equal | equal
      · exact equal ▸ cell
      · exact equal ▸ source

theorem fields_scoped :
    ∀ field ∈ (model.constructorFor plan).fields, field.2 ∈ (model.constructorFor plan).bound := by
  intro field listed
  rw [← knownAfter_steps]
  simp only [constructorFor, constructor, resultFields, planned.module, List.mem_append,
    List.mem_flatMap, List.mem_map] at listed
  rcases listed with ⟨bean, own, listed⟩ | ⟨child, own, rfl⟩
  · have isStep : .bean bean ∈ plan.steps := by
      rw [mem_steps wellFormed survives planned]
      simpa [units] using own
    rcases List.mem_cons.mp listed with equal | issued
    · rw [equal]
      exact mem_knownAfter_of_step isStep rfl (ownLocal_bound ..)
    · by_cases tracked : (model.bean bean).isTracked = true
      · rw [if_pos tracked, List.mem_singleton] at issued
        rw [issued]
        exact mem_knownAfter_of_step isStep rfl (issuedLocal_bound _ _ _ tracked)
      · rw [if_neg tracked] at issued
        cases issued
  · obtain ⟨childKnown, isChild⟩ := (wellFormed.children id survives.known child).mp own
    obtain ⟨childPlan, childPlanned⟩ :=
      (survives.child wellFormed childKnown isChild).planned wellFormed
    have isStep : .module child ∈ plan.steps := by
      rw [mem_steps wellFormed survives planned]
      simpa [units] using own
    have bound := childLocal_bound model model.wires plan.module childPlan
    rw [childPlanned.module] at bound
    exact mem_knownAfter_of_step isStep (buildStep?_module childPlanned) bound

theorem constructor_scoped :
    Statement.AllScoped [] (model.constructorFor plan).statements :=
  Constructor.statements_scoped
    (fun _ _ _ split => steps_scoped wellFormed survives planned split)
    (patches_scoped wellFormed survives planned) (fields_scoped wellFormed survives planned)

end Model

end StaticInjection
