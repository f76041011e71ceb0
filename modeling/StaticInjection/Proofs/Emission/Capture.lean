import StaticInjection.Proofs.Code.Move
import StaticInjection.Proofs.Emission.Shape
import StaticInjection.Proofs.Order.Repetition

/-! # Factories capture what they mention

The captured locals of a factory are collected apart from the code of its closure, target
by target. Each target is reached through the one local that is collected for it, so that
the closure mentions all of them, and besides them only the collections that it gathers
itself. -/

namespace StaticInjection

namespace Model

open Code

variable {model : Model} {id : ModuleId}

/-! ## Values are made of clones -/

theorem throughChild_still {bean : Bean} {reach : Local → List String → String → Value}
    (still : ∀ child through name, (reach child through name).moved = []) :
    (model.throughChild id bean reach).moved = [] := by
  unfold throughChild
  split
  · rfl
  · exact still ..

theorem takenFrom_still (bean : Bean) (source : Local) : (takenFrom bean source).moved = [] := by
  unfold takenFrom
  cases bean.lifetime <;> rfl

theorem beanValue_still (model : Model) (id : ModuleId) (bean : BeanId) :
    (model.beanValue id bean).moved = [] := by
  simp only [beanValue]
  split
  · exact takenFrom_still ..
  · split
    · exact throughChild_still fun _ _ _ => rfl
    · exact takenFrom_still ..

theorem importValue_still (model : Model) (id : ModuleId) (bean : BeanId) :
    (model.importValue id bean).moved = [] := by
  simp only [importValue]
  split
  · exact beanValue_still ..
  · split
    · rfl
    · split
      · exact throughChild_still fun _ _ _ => rfl
      · rfl

theorem coercedValue_still (model : Model) (id : ModuleId) (required : TypeName) (bean : BeanId) :
    (model.coercedValue id required bean).moved = [] := by
  simp only [coercedValue]
  split <;> exact beanValue_still ..

theorem gatherStep_still (model : Model) (id : ModuleId) (target : Provider) :
    (model.gatherStep id target).moved = [] := by
  cases target with
  | bean bean => exact beanValue_still ..
  | socket socket =>
      simp only [gatherStep]
      split <;> rfl

theorem singleValue_still (model : Model) (id : ModuleId) (targets : List Provider) :
    (model.singleValue id targets).moved = [] := by
  match targets with
  | [] => rfl
  | .bean bean :: _ => exact beanValue_still ..
  | .socket socket :: _ => rfl

theorem optionalValue_still (model : Model) (id : ModuleId) (required : TypeName)
    (targets : List Provider) : (model.optionalValue id required targets).moved = [] := by
  match targets with
  | [] => rfl
  | .bean bean :: _ => exact coercedValue_still ..
  | .socket socket :: _ =>
      simp only [optionalValue]
      split <;> rfl

/-- What is passed for a socket moves the collection that is gathered for it, if any. -/
theorem argument_moved {wires : WireSet} {target name : Local} {socket : SocketId}
    (member : name ∈ (model.argument wires id target socket).value.moved) :
    ∃ gathering, (model.argument wires id target socket).gathering = some gathering ∧
      gathering.target = name := by
  simp only [argument] at member ⊢
  split at member
  · cases member
  · rename_i eager
    rw [if_neg eager]
    split at member
    · rw [singleValue_still] at member
      cases member
    · rw [optionalValue_still] at member
      cases member
    · exact ⟨_, rfl, (List.mem_singleton.mp member).symm⟩

/-! ## Locals of providers -/

theorem localOf_plain (model : Model) (id : ModuleId) (target : Provider) :
    ¬ (model.localOf id target).Temporary := by
  cases target with
  | socket socket => simp [localOf, inputLocal]
  | bean bean =>
      simp only [localOf]
      split
      · simp only [ownLocal]
        cases (model.bean bean).lifetime <;> simp
      · split <;> simp [importLocal]

theorem argumentLocals_plain {wires : WireSet} {socket : SocketId} {name : Local}
    (member : name ∈ model.argumentLocals wires id socket) : ¬ name.Temporary := by
  simp only [argumentLocals] at member
  split at member
  · rw [List.mem_singleton.mp member]
    simp [cellLocal]
  · rcases List.mem_map.mp member with ⟨target, _, rfl⟩
    exact localOf_plain model id target

/-- The locals of the collections gathered for a unit. -/
def unitTemporaries (model : Model) : PlanStep → List Local
  | .bean bean => model.beanGathered bean
  | .module child => model.childGathered child

/-- The statements in the closure of the factory of a bean. -/
def closureBody (model : Model) (id : ModuleId) (bean : BeanId) : List Statement :=
  BuildStep.factoryStatements (model.bean bean).name (model.bean bean).isTracked
    (model.construction model.wires id (model.bean bean)) (model.bean bean).init

section

variable (wellFormed : model.WellFormed) (survives : model.Survives id)
  {plan : ModulePlan} (planned : model.Planned id plan)

include wellFormed survives

theorem mem_beanValue {bean : BeanId} (reached : model.Reached id plan (.bean bean)) :
    model.localOf id (.bean bean) ∈ (model.beanValue id bean).locals := by
  have taken (source : Local) : source ∈ (takenFrom (model.bean bean) source).locals := by
    simp only [takenFrom]
    cases (model.bean bean).lifetime <;> simp [Value.locals]
  cases reached with
  | own listed =>
      have here := ((wellFormed.beans id survives.known bean).mp listed).2
      rw [beanValue_own here, localOf_own here]
      exact taken _
  | child known isChild _ =>
      rw [beanValue_child wellFormed known isChild, localOf_child wellFormed known isChild]
      exact List.mem_singleton_self _
  | imported _ apart =>
      rw [beanValue_outside apart, localOf_outside apart]
      exact taken _

theorem mem_gatherStep {target : Provider} (reached : model.Reached id plan target) :
    model.localOf id target ∈ (model.gatherStep id target).locals := by
  cases target with
  | bean bean => exact mem_beanValue wellFormed survives reached
  | socket socket =>
      simp only [gatherStep, localOf]
      split <;> simp [GatherStep.locals, Value.locals]

theorem mem_coercedValue {required : TypeName} {bean : BeanId}
    (reached : model.Reached id plan (.bean bean)) :
    model.localOf id (.bean bean) ∈ (model.coercedValue id required bean).locals := by
  simp only [coercedValue]
  split <;> exact mem_beanValue wellFormed survives reached

theorem mem_singleValue {targets : List Provider}
    (reached : ∀ target ∈ targets, model.Reached id plan target) {name : Local}
    (member : name ∈ (targets.take 1).map (model.localOf id)) :
    name ∈ (model.singleValue id targets).locals := by
  match targets with
  | [] => cases member
  | .bean bean :: _ =>
      rw [List.mem_singleton.mp member]
      exact mem_beanValue wellFormed survives (reached _ List.mem_cons_self)
  | .socket socket :: _ => simpa [singleValue, Value.locals, localOf] using member

theorem mem_optionalValue {required : TypeName} {targets : List Provider}
    (reached : ∀ target ∈ targets, model.Reached id plan target) {name : Local}
    (member : name ∈ (targets.take 1).map (model.localOf id)) :
    name ∈ (model.optionalValue id required targets).locals := by
  match targets with
  | [] => cases member
  | .bean bean :: _ =>
      rw [List.mem_singleton.mp member]
      exact mem_coercedValue wellFormed survives (reached _ List.mem_cons_self)
  | .socket socket :: _ =>
      rw [List.mem_singleton.mp member]
      simp only [optionalValue, localOf]
      split <;> simp [Value.locals]

include planned

/-- No local is collected for a socket that its argument does not mention. -/
theorem argumentLocals_used {target name : Local} {socket : SocketId}
    (isSocket : model.UnitSocket id plan socket)
    (member : name ∈ model.argumentLocals model.wires id socket) :
    name ∈ (model.argument model.wires id target socket).value.locals ∨
      ∃ gathering, (model.argument model.wires id target socket).gathering = some gathering ∧
        ∃ gather ∈ gathering.steps, name ∈ gather.locals := by
  simp only [argumentLocals] at member
  simp only [argument]
  cases isLazy : (model.socket socket).isLazy with
  | true => exact .inl (by simpa [isLazy, Value.locals] using member)
  | false =>
      have reached := (targets_reached wellFormed survives planned isSocket.known isSocket.wiring
        isLazy).2
      simp only [isLazy, Bool.false_eq_true, if_false] at member ⊢
      cases multiplicity : (model.socket socket).multiplicity with
      | single =>
          rw [multiplicity, if_neg (by decide)] at member
          exact .inl (mem_singleValue wellFormed survives
            (fun target listed => (reached target listed).1) member)
      | optional =>
          rw [multiplicity, if_neg (by decide)] at member
          exact .inl (mem_optionalValue wellFormed survives
            (fun target listed => (reached target listed).1) member)
      | collection =>
          rw [multiplicity, if_pos rfl] at member
          rcases List.mem_map.mp member with ⟨provider, listed, rfl⟩
          exact .inr ⟨_, rfl, _, List.mem_map_of_mem listed,
            mem_gatherStep wellFormed survives (reached provider listed).1⟩

/-! ## Captured locals -/

omit wellFormed survives planned in
theorem mem_captured {wires : WireSet} {bean : Bean} {name : Local} :
    name ∈ model.captured wires id bean ↔
      (∃ socket ∈ bean.sockets, name ∈ model.argumentLocals wires id socket) ∨
        (bean.isTracked = true ∧ name = ⟨.issued, bean.name⟩) := by
  simp only [captured, List.mem_eraseDups, List.mem_mergeSort, List.mem_append, List.mem_flatMap]
  cases bean.isTracked <;> simp

omit wellFormed survives planned in
theorem captured_plain {wires : WireSet} {bean : Bean} {name : Local}
    (member : name ∈ model.captured wires id bean) : ¬ name.Temporary := by
  rcases mem_captured.mp member with ⟨socket, _, needed⟩ | ⟨_, rfl⟩
  · exact argumentLocals_plain needed
  · simp

/-! ## Steps are tidy -/

omit wellFormed survives planned in
theorem temporaries_beanStep (wires : WireSet) (bean : BeanId) :
    (model.beanStep wires id bean).temporaries = model.beanGathered bean := by
  rw [BuildStep.temporaries, beanStep_gatherings, gatherings_targets]
  rfl

omit wellFormed survives planned in
theorem temporaries_childStep (wires : WireSet) (childPlan : ModulePlan) :
    (model.childStep wires id childPlan).temporaries = model.childGathered childPlan.module := by
  rw [BuildStep.temporaries, childStep_gatherings, gatherings_targets]
  rfl

/-- A step passes on arguments of sockets, and otherwise clones. -/
theorem passed_of_step {step : BuildStep} (isStep : step ∈ (model.constructorFor plan).steps)
    {value : Value} (listed : value ∈ step.passed) :
    (∃ target socket, value = (model.argument model.wires id target socket).value ∧
      ∀ gathering, (model.argument model.wires id target socket).gathering = some gathering →
        gathering ∈ step.gatherings) ∨
      (value.moved = [] ∧ ∀ name ∈ value.locals, ¬ name.Temporary) := by
  rcases (mem_constructor_steps wellFormed survives planned).mp isStep with
    ⟨bean, own, rfl⟩ | ⟨child, own, childPlan, childPlanned, rfl⟩
  · rw [BuildStep.passed, beanStep_arguments, beanStep_fields, List.map_nil, List.append_nil]
      at listed
    rcases List.mem_map.mp listed with ⟨socket, owned, rfl⟩
    refine .inl ⟨_, socket, rfl, fun gathering gathered => ?_⟩
    rw [beanStep_gatherings]
    exact List.mem_filterMap.mpr ⟨socket, owned, gathered⟩
  · have arguments : (model.childStep model.wires id childPlan).arguments = [] := rfl
    rw [BuildStep.passed, arguments, childStep_fields, List.nil_append, List.map_append,
      List.map_append, List.mem_append, List.mem_append, List.map_map, List.map_map,
      List.map_map] at listed
    rcases listed with (argument | imported) | handed
    · rcases List.mem_map.mp argument with ⟨socket, declared, rfl⟩
      refine .inl ⟨_, socket, rfl, fun gathering gathered => ?_⟩
      rw [childStep_gatherings]
      exact List.mem_filterMap.mpr ⟨socket, declared, gathered⟩
    · rcases List.mem_map.mp imported with ⟨bean, _, rfl⟩
      refine .inr ⟨importValue_still .., fun name isLocal => ?_⟩
      exact mem_importValue_locals isLocal ▸ localOf_plain model id (.bean bean)
    · rcases List.mem_map.mp handed with ⟨socket, _, rfl⟩
      refine .inr ⟨rfl, fun name isLocal => ?_⟩
      rw [List.mem_singleton.mp isLocal]
      simp [cellLocal]

theorem step_tidy {step : BuildStep} (isStep : step ∈ (model.constructorFor plan).steps) :
    step.Tidy where
  temporary := by
    intro name member
    rcases (mem_constructor_steps wellFormed survives planned).mp isStep with
      ⟨bean, _, rfl⟩ | ⟨child, _, childPlan, _, rfl⟩
    · rw [temporaries_beanStep] at member
      rcases List.mem_map.mp member with ⟨socket, _, rfl⟩
      exact .inl rfl
    · rw [temporaries_childStep] at member
      rcases List.mem_map.mp member with ⟨socket, _, rfl⟩
      exact .inr rfl
  gathered := by
    intro gathering listed gather added
    rcases gather_reached wellFormed survives planned isStep listed gather added with
      ⟨provider, _, rfl⟩
    exact ⟨gatherStep_still .., fun name isLocal =>
      mem_gatherStep_locals isLocal ▸ localOf_plain model id provider⟩
  moved := by
    intro name member
    rcases List.mem_flatMap.mp member with ⟨value, listed, isMoved⟩
    rcases passed_of_step wellFormed survives planned isStep listed with
      ⟨target, socket, rfl, gathered⟩ | ⟨still, _⟩
    · rcases argument_moved isMoved with ⟨gathering, found, rfl⟩
      exact List.mem_map_of_mem (gathered gathering found)
    · rw [still] at isMoved
      cases isMoved
  mentioned := by
    intro name member temporary
    rcases List.mem_flatMap.mp member with ⟨value, listed, isLocal⟩
    rcases passed_of_step wellFormed survives planned isStep listed with
      ⟨target, socket, rfl, gathered⟩ | ⟨_, plain⟩
    · rcases argument_value (fun _ needed => needed) isLocal with needed | ⟨gathering, found, rfl⟩
      · exact absurd temporary (argumentLocals_plain needed)
      · exact List.mem_map_of_mem (gathered gathering found)
    · exact absurd temporary (plain name isLocal)
  owns := by
    rcases List.append_of_mem isStep with ⟨before, after, split⟩
    have known := steps_scoped wellFormed survives planned split
    rcases (mem_constructor_steps wellFormed survives planned).mp isStep with
      ⟨bean, _, rfl⟩ | ⟨child, _, childPlan, _, rfl⟩
    · simp only [beanStep] at known ⊢
      cases lifetime : (model.bean bean).lifetime with
      | singleton => trivial
      | perRequest =>
          rw [lifetime] at known
          exact ⟨known.2, fun tracked => mem_captured.mpr (.inr ⟨tracked, rfl⟩),
            fun _ member => captured_plain member⟩
    · trivial

omit wellFormed survives planned in
theorem temporaries_of_unit {unit : PlanStep} {step : BuildStep}
    (built : model.buildStep? model.wires model.finalPlan id unit = some step) :
    step.temporaries = model.unitTemporaries unit := by
  cases unit with
  | bean bean =>
      cases built
      exact temporaries_beanStep ..
  | module child =>
      rcases Option.map_eq_some_iff.mp built with ⟨childPlan, found, rfl⟩
      have isModule : childPlan.module = child := by simpa using List.find?_some found
      rw [temporaries_childStep, isModule]
      rfl

theorem temporaries_apart : (model.constructorFor plan).steps.Pairwise fun earlier later =>
    earlier.temporaries.Disjoint later.temporaries := by
  have inOrder : plan.steps.Perm (model.units id) :=
    planned.steps ▸ steps_perm wellFormed survives.known planned.noCycle
  have once : (plan.steps.flatMap model.unitTemporaries).Nodup := by
    rw [(inOrder.flatMap_right _).nodup_iff, units, List.flatMap_append, List.flatMap_map,
      List.flatMap_map]
    exact gatheredLocals_nodup wellFormed survives
  have apart := (List.nodup_flatMap.mp once).2
  simp only [constructorFor, constructor, planned.module]
  apply List.pairwise_filterMap.mpr
  apply apart.imp
  intro left right disjoint earlier builtEarlier later builtLater
  rw [temporaries_of_unit builtEarlier, temporaries_of_unit builtLater]
  exact disjoint

omit wellFormed survives in
theorem patches_tidy : ∀ patch ∈ (model.constructorFor plan).patches,
    patch.moved = [] ∧ ∀ name ∈ patch.locals, ¬ name.Temporary := by
  intro patch listed
  rcases mem_constructor_patches planned listed with ⟨edge, _, _, _, patched⟩
  have cell : ¬ (model.cellLocal edge.socket).Temporary := by simp [cellLocal]
  have input (socket : SocketId) : ¬ (model.inputLocal socket).Temporary := by
    simp [inputLocal]
  simp only [patch?] at patched
  split at patched
  · cases patched
  · cases patched
    refine ⟨coercedValue_still .., List.forall_mem_cons.mpr ⟨cell, fun name isLocal => ?_⟩⟩
    exact mem_coercedValue_locals isLocal ▸ localOf_plain model id (.bean _)
  · split at patched <;> cases patched
    all_goals simp [Patch.moved, Patch.locals, Value.moved, Value.locals, cell, input]

omit wellFormed survives planned in
theorem fields_tidy (plan : ModulePlan) :
    ∀ field ∈ (model.constructorFor plan).fields, ¬ field.2.Temporary := by
  intro field listed
  simp only [constructorFor, constructor, resultFields, List.mem_append, List.mem_flatMap,
    List.mem_map, List.mem_cons] at listed
  rcases listed with ⟨bean, _, rfl | issued⟩ | ⟨child, _, rfl⟩
  · simp only [ownLocal]
    cases (model.bean bean).lifetime <;> simp
  · split at issued
    · rw [List.mem_singleton.mp issued]
      simp
    · cases issued
  · simp

omit wellFormed survives planned in
theorem boundFirst_plain (plan : ModulePlan) :
    ∀ name ∈ (model.constructorFor plan).boundFirst, ¬ name.Temporary := by
  intro name member
  simp only [boundFirst_eq, List.mem_append, List.mem_map] at member
  rcases member with ((⟨_, _, rfl⟩ | ⟨_, _, rfl⟩) | ⟨_, _, rfl⟩) | ⟨_, _, rfl⟩ <;>
    simp [inputLocal, importLocal, cellLocal]

theorem constructor_tidy : (model.constructorFor plan).Tidy where
  first := boundFirst_plain plan
  steps _ isStep := step_tidy wellFormed survives planned isStep
  apart := temporaries_apart wellFormed survives planned
  patches := patches_tidy planned
  fields := fields_tidy plan

/-! ## What factories capture -/

/-- All captured locals of a bean of the module are mentioned in the closure. -/
theorem captured_used {bean : BeanId} (listed : bean ∈ (model.module id).beans) {name : Local}
    (member : name ∈ model.captured model.wires id (model.bean bean)) :
    name ∈ Statement.allMentions (model.closureBody id bean) := by
  rw [closureBody, BuildStep.mem_allMentions_factoryStatements, mem_allMentions_gatheringStatements]
  rcases mem_captured.mp member with ⟨socket, owned, needed⟩ | issued
  · have isSocket := unitSocket_of_bean wellFormed survives planned listed owned
    simp only [construction, List.filterMap_map, List.map_map, List.mem_filterMap, List.mem_map]
    rcases argumentLocals_used wellFormed survives planned isSocket needed with
      isLocal | ⟨gathering, gathered, gather, added, isLocal⟩
    · exact .inr (.inl ⟨_, ⟨socket, owned, rfl⟩, isLocal⟩)
    · exact .inl ⟨gathering, ⟨socket, owned, gathered⟩, gather, added, .inr isLocal⟩
  · exact .inr (.inr issued)

/-- The factory of a bean of the module captures what its closure mentions. -/
theorem factory_captures {bean : BeanId} (listed : bean ∈ (model.module id).beans)
    (lifetime : (model.bean bean).lifetime = .perRequest) :
    ∃ front rest, (model.constructorFor plan).statements = front ++
        .factory (model.bean bean).name (model.bean bean).declaredType.text
          (model.captured model.wires id (model.bean bean)) (model.closureBody id bean) :: rest ∧
      Statement.Captures (model.constructorFor plan).statements front
        (model.captured model.wires id (model.bean bean)) (model.closureBody id bean) := by
  have isStep := (mem_constructor_steps wellFormed survives planned).mpr (.inl ⟨bean, listed, rfl⟩)
  rcases List.append_of_mem isStep with ⟨before, after, split⟩
  simp only [beanStep, lifetime] at split
  have once : (model.captured model.wires id (model.bean bean)).Nodup := nodup_eraseDups _
  exact (constructor_tidy wellFormed survives planned).captures
    (constructor_scoped wellFormed survives planned) split once
    fun _ member => captured_used wellFormed survives planned listed member

end

end Model

/-- A session for each request, with one store of its own and all stores as a
collection, which has to be closed. -/
def sampleSessions : List ModuleDeclaration :=
  let memory : BeanDeclaration :=
    { name := "memory", declaredType := .ofText "Memory", provides := [.ofText "dyn Store"] }
  let disk : BeanDeclaration :=
    { name := "disk", declaredType := .ofText "Disk", provides := [.ofText "dyn Store"]
      visibility := .isPublic }
  let session : BeanDeclaration :=
    { name := "session", declaredType := .ofText "Session", lifetime := .perRequest
      destroy := ["close"]
      sockets := [{ name := "cache", requiredType := .ofText "Memory" },
        { name := "stores", requiredType := .ofText "dyn Store", multiplicity := .collection }] }
  [{ name := "app"
     beans := [memory, session]
     modules := [{ name := "files", beans := [disk] }] }]

end StaticInjection
