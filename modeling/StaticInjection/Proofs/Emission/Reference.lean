import StaticInjection.Proofs.Emission.Shape

/-! # References between modules

The only functions of other modules that a constructor calls are accessors of children:
each names a public bean of the child and is generated with it. What a child takes as
inputs is what it is given, and all modules that are referred to are emitted. -/

namespace StaticInjection

namespace Code

/-- A call of an accessor for a bean or for its factory, on the module in a local,
through accessors of modules below it. -/
structure AccessorCall where
  child : Local
  through : List String
  bean : String
  isFactory : Bool
deriving DecidableEq

/-- The name of the function that is called. -/
def AccessorCall.function (call : AccessorCall) : String :=
  if call.isFactory then call.bean ++ "_provider" else call.bean

def Value.calls : Value → List AccessorCall
  | beanOf child through bean => [⟨child, through, bean, false⟩]
  | factoryOf child through bean => [⟨child, through, bean, true⟩]
  | coerced value _ => value.calls
  | present value => value.calls
  | _ => []

end Code

namespace Model

open Code

/-- The call stands for a public bean of a child, or for its factory when it has one. -/
structure IsAccess (model : Model) (id : ModuleId) (call : AccessorCall) (child : ModuleId)
    (bean : BeanId) : Prop where
  isChild : child ∈ (model.module id).children
  child_local : call.child = ⟨.child, (model.module child).name⟩
  direct : call.through = []
  owned : bean ∈ (model.module child).beans
  name : call.bean = (model.bean bean).name
  isPublic : (model.bean bean).isPublic = true
  factory : call.isFactory = true → (model.bean bean).lifetime = .perRequest

/-- All accessors that a value calls are those of children. -/
def Accesses (model : Model) (id : ModuleId) (value : Value) : Prop :=
  ∀ call ∈ value.calls, ∃ child bean, model.IsAccess id call child bean

variable {model : Model}

theorem accesses_of_no_calls {id : ModuleId} {value : Value} (none : value.calls = []) :
    model.Accesses id value := by
  intro call listed
  rw [none] at listed
  cases listed

theorem takenFrom_accesses (id : ModuleId) (bean : Bean) (source : Local) :
    model.Accesses id (takenFrom bean source) := by
  apply accesses_of_no_calls
  rw [takenFrom]
  cases bean.lifetime <;> rfl

section

variable (wellFormed : model.WellFormed) {id : ModuleId} (survives : model.Survives id)
  {plan : ModulePlan}

include wellFormed survives

/-- An accessor of a child's public bean, as it is called. -/
theorem isAccess_of_child {bean : BeanId} (known : bean ∈ model.beanIds)
    (isChild : model.parent (model.bean bean).module = some id)
    (isPublic : (model.bean bean).isPublic = true) {isFactory : Bool}
    (factory : isFactory = true → (model.bean bean).lifetime = .perRequest) :
    model.IsAccess id ⟨⟨.child, (model.module (model.bean bean).module).name⟩, [],
      (model.bean bean).name, isFactory⟩ (model.bean bean).module bean := by
  have place := wellFormed.bean_module bean known
  exact ⟨(wellFormed.children id survives.known _).mpr ⟨place, isChild⟩, rfl, rfl,
    (wellFormed.beans _ place bean).mpr ⟨known, rfl⟩, rfl, isPublic, factory⟩

theorem beanValue_accesses {bean : BeanId} (reached : model.Reached id plan (.bean bean)) :
    model.Accesses id (model.beanValue id bean) := by
  cases reached with
  | own listed =>
      rw [beanValue_own ((wellFormed.beans id survives.known bean).mp listed).2]
      exact takenFrom_accesses _ _ _
  | child known isChild isPublic =>
      rw [beanValue_child wellFormed known isChild]
      intro call listed
      rw [List.mem_singleton.mp listed]
      exact ⟨_, _, isAccess_of_child wellFormed survives known isChild isPublic (by simp)⟩
  | imported listed apart =>
      rw [beanValue_outside apart]
      exact takenFrom_accesses _ _ _

theorem importValue_accesses {bean : BeanId} (reached : model.Reached id plan (.bean bean)) :
    model.Accesses id (model.importValue id bean) := by
  cases reached with
  | own listed =>
      rw [importValue_own ((wellFormed.beans id survives.known bean).mp listed).2]
      exact accesses_of_no_calls rfl
  | child known isChild isPublic =>
      rw [importValue_child wellFormed known isChild]
      intro call listed
      cases lifetime : (model.bean bean).lifetime with
      | singleton =>
          rw [lifetime] at listed
          rw [List.mem_singleton.mp listed]
          exact ⟨_, _, isAccess_of_child wellFormed survives known isChild isPublic (by simp)⟩
      | perRequest =>
          rw [lifetime] at listed
          rw [List.mem_singleton.mp listed]
          exact ⟨_, _, isAccess_of_child wellFormed survives known isChild isPublic
            fun _ => lifetime⟩
  | imported listed apart =>
      rw [importValue_outside apart]
      exact accesses_of_no_calls rfl

theorem coercedValue_accesses {required : TypeName} {bean : BeanId}
    (reached : model.Reached id plan (.bean bean)) :
    model.Accesses id (model.coercedValue id required bean) := by
  have value := beanValue_accesses wellFormed survives reached
  simp only [coercedValue]
  split
  · exact value
  · exact value

theorem gatherStep_accesses {provider : Provider} (reached : model.Reached id plan provider)
    {value : Value} (pushed : (model.gatherStep id provider).value? = some value) :
    model.Accesses id value := by
  cases provider with
  | bean bean =>
      cases pushed
      exact beanValue_accesses wellFormed survives reached
  | socket input =>
      apply accesses_of_no_calls
      simp only [gatherStep] at pushed
      split at pushed <;> cases pushed
      rfl

theorem singleValue_accesses {targets : List Provider}
    (reached : ∀ target ∈ targets, model.Reached id plan target) :
    model.Accesses id (model.singleValue id targets) := by
  match targets with
  | [] => exact accesses_of_no_calls rfl
  | .bean bean :: _ => exact beanValue_accesses wellFormed survives (reached _ List.mem_cons_self)
  | .socket socket :: _ => exact accesses_of_no_calls rfl

theorem optionalValue_accesses {required : TypeName} {targets : List Provider}
    (reached : ∀ target ∈ targets, model.Reached id plan target) :
    model.Accesses id (model.optionalValue id required targets) := by
  match targets with
  | [] => exact accesses_of_no_calls rfl
  | .bean bean :: _ =>
      exact coercedValue_accesses wellFormed survives (reached _ List.mem_cons_self)
  | .socket socket :: _ =>
      apply accesses_of_no_calls
      simp only [optionalValue]
      split <;> rfl

variable (planned : model.Planned id plan)

include planned

/-! ## Arguments -/

theorem argument_accesses {target : Local} {socket : SocketId}
    (isSocket : model.UnitSocket id plan socket) :
    model.Accesses id (model.argument model.wires id target socket).value := by
  simp only [argument]
  cases isLazy : (model.socket socket).isLazy with
  | true => exact accesses_of_no_calls rfl
  | false =>
      obtain ⟨_, reached⟩ :=
        targets_reached wellFormed survives planned isSocket.known isSocket.wiring isLazy
      simp only [Bool.false_eq_true, if_false]
      cases (model.socket socket).multiplicity with
      | single =>
          exact singleValue_accesses wellFormed survives fun target listed =>
            (reached target listed).1
      | optional =>
          exact optionalValue_accesses wellFormed survives fun target listed =>
            (reached target listed).1
      | collection => exact accesses_of_no_calls rfl

/-! ## Constructors -/

theorem child_fields_access {child : ModuleId} (listed : child ∈ (model.module id).children)
    {childPlan : ModulePlan} (childPlanned : model.Planned child childPlan) :
    ∀ field ∈ (model.childStep model.wires id childPlan).fields, model.Accesses id field.2 := by
  obtain ⟨known, isChild⟩ := (wellFormed.children id survives.known child).mp listed
  have childSurvives := survives.child wellFormed known isChild
  intro field given
  rw [childStep_fields, childPlanned.module] at given
  simp only [List.mem_append, List.mem_map] at given
  rcases given with (⟨socket, declared, rfl⟩ | ⟨bean, imported, rfl⟩) | ⟨socket, _, rfl⟩
  · exact argument_accesses wellFormed survives planned
      (unitSocket_of_child wellFormed survives listed declared)
  · exact importValue_accesses wellFormed survives
      (reached_import wellFormed survives planned childSurvives isChild childPlanned imported)
  · exact accesses_of_no_calls rfl

theorem step_accesses {step : BuildStep} (isStep : step ∈ (model.constructorFor plan).steps) :
    ∀ value ∈ step.values, model.Accesses id value := by
  intro value inStep
  rcases BuildStep.mem_values.mp inStep with
    ⟨gathering, inside, gather, added, pushed⟩ | argument | ⟨field, given, rfl⟩
  · obtain ⟨provider, reached, rfl⟩ :=
      gather_reached wellFormed survives planned isStep inside gather added
    exact gatherStep_accesses wellFormed survives reached pushed
  · rcases (mem_constructor_steps wellFormed survives planned).mp isStep with
      ⟨bean, own, rfl⟩ | ⟨child, _, childPlan, _, rfl⟩
    · rw [beanStep_arguments] at argument
      obtain ⟨socket, owned, rfl⟩ := List.mem_map.mp argument
      exact argument_accesses wellFormed survives planned
        (unitSocket_of_bean wellFormed survives planned own owned)
    · cases argument
  · rcases (mem_constructor_steps wellFormed survives planned).mp isStep with
      ⟨bean, _, rfl⟩ | ⟨child, own, childPlan, childPlanned, rfl⟩
    · rw [beanStep_fields] at given
      cases given
    · exact child_fields_access wellFormed survives planned own childPlanned field given

theorem patch_accesses {patch : Patch} (isPatch : patch ∈ (model.constructorFor plan).patches)
    {value : Value} (filled : patch.value? = some value) : model.Accesses id value := by
  obtain ⟨edge, inDeferred, isAnchor, _, patched⟩ :=
    mem_constructor_patches planned isPatch
  simp only [patch?] at patched
  split at patched
  · cases patched
  · rename_i bean isTarget
    cases patched
    cases filled
    exact coercedValue_accesses wellFormed survives
      (reached_deferred wellFormed survives planned inDeferred isAnchor isTarget)
  · split at patched <;> cases patched <;> cases filled
    exact accesses_of_no_calls rfl

/-- Everything that a constructor calls are accessors of children. -/
theorem values_access : ∀ value ∈ (model.constructorFor plan).values, model.Accesses id value := by
  intro value listed
  rcases Constructor.mem_values.mp listed with ⟨step, isStep, inStep⟩ | ⟨patch, isPatch, filled⟩
  · exact step_accesses wellFormed survives planned isStep value inStep
  · exact patch_accesses wellFormed survives planned isPatch filled

/-- A child is built as a step with the names of its code. -/
theorem child_of_step {name moduleType inputsType : String} {gatherings : List Gathering}
    {fields : List (String × Value)}
    (isStep : .child name moduleType inputsType gatherings fields ∈
      (model.constructorFor plan).steps) (header : String) :
    ∃ child ∈ (model.module id).children, ∃ childPlan, model.Planned child childPlan ∧
      name = (model.module child).name ∧
      moduleType = (model.codeFor childPlan header).moduleType ∧
      inputsType = (model.codeFor childPlan header).inputsType ∧
      fields = (model.childStep model.wires id childPlan).fields := by
  rcases (mem_constructor_steps wellFormed survives planned).mp isStep with
    ⟨bean, _, same⟩ | ⟨child, listed, childPlan, childPlanned, same⟩
  · simp only [beanStep] at same
    cases lifetime : (model.bean bean).lifetime <;> simp [lifetime] at same
  · refine ⟨child, listed, childPlan, childPlanned, ?_⟩
    simp only [childStep, BuildStep.child.injEq] at same
    obtain ⟨rfl, rfl, rfl, _, rfl⟩ := same
    exact ⟨by rw [childPlanned.module], rfl, rfl, rfl⟩

omit wellFormed survives planned in
theorem childStep_names (wires : WireSet) (scope : ModuleId) (childPlan : ModulePlan)
    (header : String) :
    (model.childStep wires scope childPlan).fields.map (·.1) =
      (model.codeFor childPlan header).inputs.map (·.name) := by
  rw [childStep_fields, inputs_codeFor]
  simp [Function.comp_def, declaredField, importField, cellField]

end

/-! ## What is referred to -/

/-- Code is generated for each accessor that is called. -/
theorem IsAccess.function_listed {id child : ModuleId} {call : AccessorCall} {bean : BeanId}
    (access : model.IsAccess id call child bean) {childPlan : ModulePlan}
    (isPlan : childPlan.module = child) (header : String) :
    call.function ∈ (model.codeFor childPlan header).accessors.map (·.name) := by
  have ofBean : call.function ∈ (beanAccessors (model.bean bean)).map (·.name) := by
    rw [AccessorCall.function, access.name]
    cases isFactory : call.isFactory with
    | false =>
        simp only [beanAccessors, access.isPublic]
        cases (model.bean bean).lifetime <;> simp [Accessor.name]
    | true => simp [beanAccessors, access.isPublic, access.factory isFactory, Accessor.name]
  obtain ⟨accessor, listed, same⟩ := List.mem_map.mp ofBean
  have generated : accessor ∈ model.accessors (model.module child) :=
    List.mem_append_left _ (List.mem_flatMap.mpr ⟨bean, access.owned, listed⟩)
  refine List.mem_map.mpr ⟨accessor, ?_, same⟩
  simpa only [codeFor, moduleCode, isPlan] using generated

/-- A build emits the code for a module. -/
structure Emits (model : Model) (header : String) (id : ModuleId) (code : ModuleCode) : Prop where
  planned : ∃ plan, model.finalPlan.module? id = some plan ∧ code = model.codeFor plan header
  emitted : ∃ artifact ∈ (Build.ofModel model header).artifacts,
    artifact.module = id ∧ artifact.source = code.text

theorem Survives.emits (wellFormed : model.WellFormed) {id : ModuleId}
    (survives : model.Survives id) {plan : ModulePlan} (planned : model.Planned id plan)
    (header : String) : model.Emits header id (model.codeFor plan header) :=
  ⟨⟨plan, planned.found, rfl⟩, model.artifact model.wires model.finalPlan plan header,
    (mem_artifacts wellFormed).mpr ⟨id, plan, survives, planned, rfl⟩, planned.module,
    artifact_source ..⟩

end Model

end StaticInjection
