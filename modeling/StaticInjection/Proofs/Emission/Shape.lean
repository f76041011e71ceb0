import StaticInjection.Proofs.Code.Shape
import StaticInjection.Proofs.Emission.Binding

/-! # Values have the shapes that are asked for

The locals of a survivor's constructor have one shape each. Whatever way a bean is
reached, one shared value of it can be had, and an input stands in only where its
number of values is accepted, so that every argument has the shape of its socket. -/

namespace StaticInjection

namespace Code

/-- The shape of a local whose kind tells it. -/
def LocalKind.shape? : LocalKind → Option Shape
  | input | imported => none
  | cell => some .cell
  | singleton | child => some .one
  | factory => some .factory
  | issued => some .issued
  | gathered | childGathered => some .several

end Code

namespace Model

open Code

variable {model : Model}

/-! ## Shapes of locals -/

theorem mem_gatherings {wires : WireSet} {scope : ModuleId} {target : SocketId → Local}
    {sockets : List SocketId} {gathering : Gathering}
    (listed : gathering ∈ sockets.filterMap fun socket =>
      (model.argument wires scope (target socket) socket).gathering) :
    ∃ socket ∈ sockets, gathering.target = target socket := by
  have inside := List.mem_map_of_mem (f := (·.target)) listed
  rw [gatherings_targets] at inside
  obtain ⟨socket, kept, same⟩ := List.mem_map.mp inside
  exact ⟨socket, (List.mem_filter.mp kept).1, same.symm⟩

theorem shapes_codeFor (plan : ModulePlan) (header : String) :
    (model.codeFor plan header).shapes =
      (model.inputFields plan).map (fun input => (input.taken, input.field.type.shape)) ++
        plan.deferredOwned.map (fun socket => (model.cellLocal socket, .cell)) ++
        (model.constructorFor plan).steps.flatMap (·.shapes) := by
  simp only [ModuleCode.shapes, codeFor, moduleCode, constructor, List.zip_map', List.map_map]
  rfl

theorem beanStep_shapes {wires : WireSet} {scope : ModuleId} {bean : BeanId}
    {entry : Local × Shape} (listed : entry ∈ (model.beanStep wires scope bean).shapes) :
    entry.1.kind.shape? = some entry.2 := by
  have gathered : ∀ gathering ∈ (model.construction wires scope (model.bean bean)).gatherings,
      gathering.shape.1.kind.shape? = some gathering.shape.2 := by
    intro gathering inside
    simp only [construction, List.filterMap_map, Function.comp_def] at inside
    obtain ⟨socket, _, same⟩ := mem_gatherings inside
    rw [Gathering.shape, same]
    rfl
  simp only [beanStep] at listed
  cases lifetime : (model.bean bean).lifetime with
  | singleton =>
      simp only [lifetime, BuildStep.shapes, List.mem_append, List.mem_map,
        List.mem_singleton] at listed
      rcases listed with ⟨gathering, inside, rfl⟩ | rfl
      · exact gathered gathering inside
      · rfl
  | perRequest =>
      simp only [lifetime, BuildStep.shapes, List.mem_append, List.mem_map,
        List.mem_singleton] at listed
      rcases listed with (⟨gathering, inside, rfl⟩ | issued) | rfl
      · exact gathered gathering inside
      · split at issued
        · rw [List.mem_singleton.mp issued]
          rfl
        · cases issued
      · rfl

theorem childStep_shapes {wires : WireSet} {scope : ModuleId} {plan : ModulePlan}
    {entry : Local × Shape} (listed : entry ∈ (model.childStep wires scope plan).shapes) :
    entry.1.kind.shape? = some entry.2 := by
  simp only [childStep, BuildStep.shapes, List.mem_append, List.mem_map, List.mem_singleton,
    List.filterMap_map, Function.comp_def] at listed
  rcases listed with ⟨gathering, inside, rfl⟩ | rfl
  · obtain ⟨socket, _, same⟩ := mem_gatherings inside
    rw [Gathering.shape, same]
    rfl
  · rfl

/-- The sockets that a unit asks its module for. -/
def unitSockets (model : Model) : PlanStep → List SocketId
  | .bean bean => (model.bean bean).sockets
  | .module child => (model.module child).sockets

/-- A step passes values with the shapes of the sockets of a bean, or with the names and
shapes of the inputs of a child. -/
def StepFits (model : Model) (header : String) (code : ModuleCode) : PlanStep → BuildStep → Prop
  | .bean bean, step =>
    List.Forall₂ (fun value socket =>
        value.HasShape code.shape? (socketType (model.socket socket)).shape)
      step.arguments (model.bean bean).sockets
  | .module child, step =>
    ∃ childPlan, model.finalPlan.module? child = some childPlan ∧
      List.Forall₂ (fun passed input => passed.1 = input.name ∧
          passed.2.HasShape code.shape? input.type.shape)
        step.fields (model.codeFor childPlan header).inputs

section

variable (wellFormed : model.WellFormed) {id : ModuleId} (survives : model.Survives id)
  {plan : ModulePlan} (planned : model.Planned id plan) (header : String)

include wellFormed survives planned

theorem mem_shapes {name : Local} {shape : Shape}
    (listed : (name, shape) ∈ (model.codeFor plan header).shapes) :
    (name.kind = .input ∧ ∃ socket ∈ (model.module plan.module).sockets,
        model.inputLocal socket = name ∧ (socketType (model.socket socket)).shape = shape) ∨
      (name.kind = .imported ∧ ∃ bean ∈ plan.imports,
        model.importLocal bean = name ∧ (beanType (model.bean bean)).shape = shape) ∨
      name.kind.shape? = some shape := by
  simp only [shapes_codeFor, inputFields, List.mem_append, List.mem_map, List.mem_flatMap] at listed
  rcases listed with (⟨field, inside, same⟩ | ⟨socket, _, same⟩) | ⟨step, isStep, inside⟩
  · rcases inside with (⟨socket, declared, rfl⟩ | ⟨bean, imported, rfl⟩) | ⟨socket, _, rfl⟩
    · cases same
      exact .inl ⟨rfl, socket, declared, rfl, rfl⟩
    · cases same
      exact .inr (.inl ⟨rfl, bean, imported, rfl, rfl⟩)
    · cases same
      exact .inr (.inr rfl)
  · cases same
    exact .inr (.inr rfl)
  · rcases (mem_constructor_steps wellFormed survives planned).mp isStep with
      ⟨bean, _, rfl⟩ | ⟨child, _, childPlan, _, rfl⟩
    · exact .inr (.inr (beanStep_shapes inside))
    · exact .inr (.inr (childStep_shapes inside))

theorem shape_unique {name : Local} {left right : Shape}
    (leftListed : (name, left) ∈ (model.codeFor plan header).shapes)
    (rightListed : (name, right) ∈ (model.codeFor plan header).shapes) : left = right := by
  rcases mem_shapes wellFormed survives planned header leftListed with
    ⟨isInput, socket, declared, same, rfl⟩ | ⟨isImport, bean, imported, same, rfl⟩ | known
  · rcases mem_shapes wellFormed survives planned header rightListed with
      ⟨_, other, otherDeclared, otherSame, rfl⟩ | ⟨isImport, _⟩ | otherKnown
    · rw [List.inj_on_of_nodup_map (inputLocals_nodup wellFormed survives planned) declared
        otherDeclared (same.trans otherSame.symm)]
    · rw [isInput] at isImport
      cases isImport
    · rw [isInput] at otherKnown
      cases otherKnown
  · rcases mem_shapes wellFormed survives planned header rightListed with
      ⟨isInput, _⟩ | ⟨_, other, otherImported, otherSame, rfl⟩ | otherKnown
    · rw [isImport] at isInput
      cases isInput
    · rw [List.inj_on_of_nodup_map (importLocals_nodup wellFormed survives planned) imported
        otherImported (same.trans otherSame.symm)]
    · rw [isImport] at otherKnown
      cases otherKnown
  · rcases mem_shapes wellFormed survives planned header rightListed with
      ⟨isInput, _⟩ | ⟨isImport, _⟩ | otherKnown
    · rw [isInput] at known
      cases known
    · rw [isImport] at known
      cases known
    · exact Option.some.inj (known.symm.trans otherKnown)

/-- Each local has one shape. -/
theorem shape?_eq {name : Local} {shape : Shape}
    (listed : (name, shape) ∈ (model.codeFor plan header).shapes) :
    (model.codeFor plan header).shape? name = some shape :=
  ModuleCode.shape?_of_mem listed fun _ otherListed =>
    shape_unique wellFormed survives planned header otherListed listed

theorem shape?_field {field : InputField} (listed : field ∈ model.inputFields plan) :
    (model.codeFor plan header).shape? field.taken = some field.field.type.shape := by
  apply shape?_eq wellFormed survives planned header
  rw [shapes_codeFor]
  exact List.mem_append_left _ (List.mem_append_left _ (List.mem_map_of_mem listed))

theorem shape?_step {step : BuildStep} (isStep : step ∈ (model.constructorFor plan).steps)
    {entry : Local × Shape} (listed : entry ∈ step.shapes) :
    (model.codeFor plan header).shape? entry.1 = some entry.2 := by
  apply shape?_eq wellFormed survives planned header
  rw [shapes_codeFor]
  exact List.mem_append_right _ (List.mem_flatMap.mpr ⟨step, isStep, listed⟩)

theorem shape?_input {socket : SocketId} (declared : socket ∈ (model.module id).sockets) :
    (model.codeFor plan header).shape? (model.inputLocal socket) =
      some (socketType (model.socket socket)).shape := by
  have listed : model.declaredField socket ∈ model.inputFields plan := by
    simp [inputFields, planned.module, List.mem_map_of_mem declared]
  exact shape?_field wellFormed survives planned header listed

theorem shape?_import {bean : BeanId} (imported : bean ∈ plan.imports) :
    (model.codeFor plan header).shape? (model.importLocal bean) =
      some (beanType (model.bean bean)).shape := by
  have listed : model.importField bean ∈ model.inputFields plan :=
    List.mem_append_left _ (List.mem_append_right _ (List.mem_map_of_mem imported))
  exact shape?_field wellFormed survives planned header listed

theorem shape?_cell {socket : SocketId}
    (listed : socket ∈ plan.deferredIn ∨ socket ∈ plan.deferredOwned) :
    (model.codeFor plan header).shape? (model.cellLocal socket) = some .cell := by
  rcases listed with handedIn | made
  · have listed : model.cellField socket ∈ model.inputFields plan :=
      List.mem_append_right _ (List.mem_map_of_mem handedIn)
    exact shape?_field wellFormed survives planned header listed
  · apply shape?_eq wellFormed survives planned header
    rw [shapes_codeFor]
    exact List.mem_append_left _ (List.mem_append_right _
      (List.mem_map_of_mem (f := fun socket => (model.cellLocal socket, Shape.cell)) made))

theorem shape?_own {bean : BeanId} (listed : bean ∈ (model.module id).beans) :
    (model.codeFor plan header).shape? (ownLocal (model.bean bean)) =
      some (beanType (model.bean bean)).shape := by
  have isStep := (mem_constructor_steps wellFormed survives planned).mpr (.inl ⟨bean, listed, rfl⟩)
  have entry : (ownLocal (model.bean bean), (beanType (model.bean bean)).shape) ∈
      (model.beanStep model.wires id bean).shapes := by
    simp only [beanStep, ownLocal, beanType]
    cases (model.bean bean).lifetime <;> simp [BuildStep.shapes, ValueType.shape]
  exact shape?_step wellFormed survives planned header isStep entry

theorem shape?_child {child : ModuleId} (listed : child ∈ (model.module id).children) :
    (model.codeFor plan header).shape? ⟨.child, (model.module child).name⟩ = some .one := by
  obtain ⟨known, isChild⟩ := (wellFormed.children id survives.known child).mp listed
  obtain ⟨childPlan, childPlanned⟩ := (survives.child wellFormed known isChild).planned wellFormed
  have isStep := (mem_constructor_steps wellFormed survives planned).mpr
    (.inr ⟨child, listed, childPlan, childPlanned, rfl⟩)
  have entry : (⟨.child, (model.module child).name⟩, .one) ∈
      (model.childStep model.wires id childPlan).shapes := by
    simp [childStep, BuildStep.shapes, childPlanned.module]
  exact shape?_step wellFormed survives planned header isStep entry

/-! ## Values of beans -/

omit wellFormed survives planned in
theorem takenFrom_shape {locals : Local → Option Shape} {bean : Bean} {source : Local}
    (found : locals source = some (beanType bean).shape) :
    (takenFrom bean source).HasShape locals .one := by
  simp only [takenFrom]
  simp only [beanType] at found
  cases lifetime : bean.lifetime with
  | singleton =>
      rw [lifetime] at found
      exact .cloneOf found
  | perRequest =>
      rw [lifetime] at found
      exact .callOf found

theorem beanValue_shape {bean : BeanId} (reached : model.Reached id plan (.bean bean)) :
    (model.beanValue id bean).HasShape (model.codeFor plan header).shape? .one := by
  cases reached with
  | own listed =>
      rw [beanValue_own ((wellFormed.beans id survives.known bean).mp listed).2]
      exact takenFrom_shape (shape?_own wellFormed survives planned header listed)
  | child known isChild isPublic =>
      have listed := (wellFormed.children id survives.known _).mpr
        ⟨wellFormed.bean_module bean known, isChild⟩
      rw [beanValue_child wellFormed known isChild]
      exact .beanOf (shape?_child wellFormed survives planned header listed)
  | imported listed apart =>
      rw [beanValue_outside apart]
      exact takenFrom_shape (shape?_import wellFormed survives planned header listed)

theorem importValue_shape {bean : BeanId} (reached : model.Reached id plan (.bean bean)) :
    (model.importValue id bean).HasShape (model.codeFor plan header).shape?
      (beanType (model.bean bean)).shape := by
  cases reached with
  | own listed =>
      rw [importValue_own ((wellFormed.beans id survives.known bean).mp listed).2]
      exact .cloneOf (shape?_own wellFormed survives planned header listed)
  | child known isChild isPublic =>
      have listed := (wellFormed.children id survives.known _).mpr
        ⟨wellFormed.bean_module bean known, isChild⟩
      have found := shape?_child wellFormed survives planned header listed
      rw [importValue_child wellFormed known isChild, beanType]
      cases (model.bean bean).lifetime with
      | singleton => exact .beanOf found
      | perRequest => exact .factoryOf found
  | imported listed apart =>
      rw [importValue_outside apart]
      exact .cloneOf (shape?_import wellFormed survives planned header listed)

theorem coercedValue_shape {required : TypeName} {bean : BeanId}
    (reached : model.Reached id plan (.bean bean)) :
    (model.coercedValue id required bean).HasShape (model.codeFor plan header).shape? .one := by
  have value := beanValue_shape wellFormed survives planned header reached
  simp only [coercedValue]
  split
  · exact value
  · exact .coerced value

/-! ## Arguments -/

/-- An input has the shape that its number of values asks for. -/
theorem shape?_reached_input {socket : SocketId} (reached : model.Reached id plan (.socket socket)) :
    (model.codeFor plan header).shape? (model.inputLocal socket) =
      some (match (model.socket socket).multiplicity.cardinality with
        | .one => .one
        | .maybeOne => .optional
        | .many => .several) := by
  cases reached with
  | input declared =>
      have eager := (survives.sound wellFormed).inputNotLazy socket declared
      rw [shape?_input wellFormed survives planned header declared, socketType]
      simp only [eager]
      cases (model.socket socket).multiplicity <;> rfl

theorem gatherStep_fits {target : Provider} (reached : model.Reached id plan target) :
    (model.gatherStep id target).Fits (model.codeFor plan header).shape? := by
  cases target with
  | bean bean => exact beanValue_shape wellFormed survives planned header reached
  | socket socket =>
      have found := shape?_reached_input wellFormed survives planned header reached
      simp only [gatherStep]
      cases cardinality : (model.socket socket).multiplicity.cardinality with
      | one => exact .cloneOf (by rw [found, cardinality])
      | maybeOne => rw [GatherStep.Fits, found, cardinality]
      | many => rw [GatherStep.Fits, found, cardinality]

theorem singleValue_shape {targets : List Provider} (allowed : Multiplicity.single.Allows targets)
    (reached : ∀ target ∈ targets, model.Reached id plan target)
    (accepted : ∀ target ∈ targets,
      Multiplicity.single.accepts (model.providerCardinality target) = true) :
    (model.singleValue id targets).HasShape (model.codeFor plan header).shape? .one := by
  obtain ⟨only, rfl⟩ := allowed
  have reachedOnly := reached only List.mem_cons_self
  cases only with
  | bean bean => exact beanValue_shape wellFormed survives planned header reachedOnly
  | socket socket =>
      have one : (model.socket socket).multiplicity.cardinality = .one := by
        simpa [Multiplicity.accepts, providerCardinality] using accepted _ List.mem_cons_self
      exact .cloneOf (by rw [shape?_reached_input wellFormed survives planned header reachedOnly, one])

theorem optionalValue_shape {required : TypeName} {targets : List Provider}
    (reached : ∀ target ∈ targets, model.Reached id plan target)
    (accepted : ∀ target ∈ targets,
      Multiplicity.optional.accepts (model.providerCardinality target) = true) :
    (model.optionalValue id required targets).HasShape (model.codeFor plan header).shape?
      .optional := by
  match targets with
  | [] => exact .absent
  | .bean bean :: _ =>
      exact .present (coercedValue_shape wellFormed survives planned header
        (reached _ List.mem_cons_self))
  | .socket socket :: _ =>
      have notMany : (model.socket socket).multiplicity.cardinality ≠ .many := by
        simpa [Multiplicity.accepts, providerCardinality] using accepted _ List.mem_cons_self
      have found := shape?_reached_input wellFormed survives planned header
        (reached _ List.mem_cons_self)
      simp only [optionalValue]
      cases cardinality : (model.socket socket).multiplicity.cardinality with
      | one => exact .present (.cloneOf (by rw [found, cardinality]))
      | maybeOne => exact .cloneOf (by rw [found, cardinality])
      | many => exact absurd cardinality notMany

/-- The targets of a socket that is not lazy are reached, and as many as it allows. -/
theorem targets_reached {socket : SocketId} (known : socket ∈ model.socketIds)
    (wiring : model.wiringModule? socket = some id) (eager : (model.socket socket).isLazy = false) :
    (model.socket socket).multiplicity.Allows (targets model.wires socket) ∧
      ∀ target ∈ targets model.wires socket, model.Reached id plan target ∧
        (model.socket socket).multiplicity.accepts (model.providerCardinality target) = true := by
  obtain ⟨wire, found, wired⟩ := survives.exists_wire wellFormed known wiring
  obtain ⟨isWire, rfl⟩ := WireSet.get?_eq_some.mp found
  have same : targets model.wires wire.socket = wire.targets := by simp only [targets, found]
  rw [same]
  exact ⟨wired.allowed, fun target listed =>
    ⟨reached_target wellFormed survives planned isWire wired (wired.isLazy.trans eager) listed,
      (wired.suits target listed).accepted⟩⟩

/-- What is passed for a socket of a unit has its shape. -/
theorem argument_shape {target : Local} {socket : SocketId}
    (isSocket : model.UnitSocket id plan socket)
    (gathered : ∀ gathering,
      (model.argument model.wires id target socket).gathering = some gathering →
        (model.codeFor plan header).shape? gathering.target = some .several) :
    (model.argument model.wires id target socket).value.HasShape (model.codeFor plan header).shape?
      (socketType (model.socket socket)).shape := by
  simp only [argument, socketType] at gathered ⊢
  cases isLazy : (model.socket socket).isLazy with
  | true => exact .cloneOf (shape?_cell wellFormed survives planned header (isSocket.cell isLazy))
  | false =>
      obtain ⟨allowed, reached⟩ :=
        targets_reached wellFormed survives planned isSocket.known isSocket.wiring isLazy
      simp only [isLazy, Bool.false_eq_true, if_false] at gathered ⊢
      cases multiplicity : (model.socket socket).multiplicity with
      | single =>
          rw [multiplicity] at allowed reached
          exact singleValue_shape wellFormed survives planned header allowed
            (fun target listed => (reached target listed).1) fun target listed =>
              (reached target listed).2
      | optional =>
          rw [multiplicity] at reached
          exact optionalValue_shape wellFormed survives planned header
            (fun target listed => (reached target listed).1) fun target listed =>
              (reached target listed).2
      | collection =>
          rw [multiplicity] at gathered
          exact .whole (gathered _ rfl)

/-- What is gathered for a socket of a unit comes from what the module reaches. -/
theorem gathering_reached {target : Local} {socket : SocketId}
    (isSocket : model.UnitSocket id plan socket) {gathering : Gathering}
    (gathered : (model.argument model.wires id target socket).gathering = some gathering) :
    ∀ gather ∈ gathering.steps, ∃ provider, model.Reached id plan provider ∧
      gather = model.gatherStep id provider := by
  simp only [argument] at gathered
  cases isLazy : (model.socket socket).isLazy with
  | true => simp [isLazy] at gathered
  | false =>
      obtain ⟨_, reached⟩ :=
        targets_reached wellFormed survives planned isSocket.known isSocket.wiring isLazy
      simp only [isLazy, Bool.false_eq_true, if_false] at gathered
      split at gathered
      · cases gathered
      · cases gathered
      · cases gathered
        intro gather listed
        obtain ⟨provider, isTarget, rfl⟩ := List.mem_map.mp listed
        exact ⟨provider, (reached provider isTarget).1, rfl⟩

/-! ## Steps -/

omit wellFormed survives planned in
theorem beanStep_gatherings (wires : WireSet) (scope : ModuleId) (bean : BeanId) :
    (model.beanStep wires scope bean).gatherings =
      (model.bean bean).sockets.filterMap fun socket =>
        (model.argument wires scope (gatheredLocal (model.bean bean) (model.socket socket))
          socket).gathering := by
  simp only [beanStep]
  cases (model.bean bean).lifetime <;>
    simp [BuildStep.gatherings, construction, List.filterMap_map, Function.comp_def]

omit wellFormed survives planned in
theorem beanStep_arguments (wires : WireSet) (scope : ModuleId) (bean : BeanId) :
    (model.beanStep wires scope bean).arguments =
      (model.bean bean).sockets.map fun socket =>
        (model.argument wires scope (gatheredLocal (model.bean bean) (model.socket socket))
          socket).value := by
  simp only [beanStep]
  cases (model.bean bean).lifetime <;> simp [BuildStep.arguments, construction]

omit wellFormed survives planned in
theorem beanStep_fields (wires : WireSet) (scope : ModuleId) (bean : BeanId) :
    (model.beanStep wires scope bean).fields = [] := by
  simp only [beanStep]
  cases (model.bean bean).lifetime <;> rfl

omit wellFormed survives planned in
theorem childStep_gatherings (wires : WireSet) (scope : ModuleId) (childPlan : ModulePlan) :
    (model.childStep wires scope childPlan).gatherings =
      (model.module childPlan.module).sockets.filterMap fun socket =>
        (model.argument wires scope
          (childGatheredLocal (model.module childPlan.module) (model.socket socket))
          socket).gathering := by
  simp [childStep, BuildStep.gatherings, List.filterMap_map, Function.comp_def]

omit wellFormed survives planned in
theorem childStep_fields (wires : WireSet) (scope : ModuleId) (childPlan : ModulePlan) :
    (model.childStep wires scope childPlan).fields =
      (model.module childPlan.module).sockets.map (fun socket =>
        ((model.socket socket).name, (model.argument wires scope
          (childGatheredLocal (model.module childPlan.module) (model.socket socket))
          socket).value)) ++
      childPlan.imports.map (fun bean =>
        ("import__" ++ (model.importLocal bean).name, model.importValue scope bean)) ++
      childPlan.deferredIn.map fun socket =>
        ("deferred__" ++ (model.cellLocal socket).name, .cloneOf (model.cellLocal socket)) := by
  simp [childStep, BuildStep.fields, Function.comp_def]

omit wellFormed survives planned in
theorem inputs_codeFor (plan : ModulePlan) (header : String) :
    (model.codeFor plan header).inputs =
      (model.module plan.module).sockets.map (fun socket => (model.declaredField socket).field) ++
      plan.imports.map (fun bean => (model.importField bean).field) ++
      plan.deferredIn.map fun socket => (model.cellField socket).field := by
  simp [codeFor, moduleCode, inputFields, Function.comp_def]

theorem shape?_gathering {step : BuildStep} (isStep : step ∈ (model.constructorFor plan).steps)
    {gathering : Gathering} (listed : gathering ∈ step.gatherings) :
    (model.codeFor plan header).shape? gathering.target = some .several := by
  have entry : gathering.shape ∈ step.shapes := by
    cases step <;> simp only [BuildStep.gatherings] at listed <;>
      simp [BuildStep.shapes, List.mem_map_of_mem listed]
  exact shape?_step wellFormed survives planned header isStep entry

/-- The arguments of a bean have the shapes of its sockets. -/
theorem beanStep_fits {bean : BeanId} (listed : bean ∈ (model.module id).beans) :
    List.Forall₂ (fun value socket => value.HasShape (model.codeFor plan header).shape?
        (socketType (model.socket socket)).shape)
      (model.beanStep model.wires id bean).arguments (model.bean bean).sockets := by
  have isStep := (mem_constructor_steps wellFormed survives planned).mpr (.inl ⟨bean, listed, rfl⟩)
  rw [beanStep_arguments, List.forall₂_map_left_iff, List.forall₂_same]
  intro socket owned
  refine argument_shape wellFormed survives planned header
    (unitSocket_of_bean wellFormed survives planned listed owned) fun gathering gathered => ?_
  refine shape?_gathering wellFormed survives planned header isStep ?_
  rw [beanStep_gatherings]
  exact List.mem_filterMap.mpr ⟨socket, owned, gathered⟩

/-- The values passed to a child have the names and shapes of its inputs. -/
theorem childStep_fits {child : ModuleId} (listed : child ∈ (model.module id).children)
    {childPlan : ModulePlan} (childPlanned : model.Planned child childPlan) :
    List.Forall₂ (fun passed input => passed.1 = input.name ∧
        passed.2.HasShape (model.codeFor plan header).shape? input.type.shape)
      (model.childStep model.wires id childPlan).fields
      (model.codeFor childPlan header).inputs := by
  have isStep := (mem_constructor_steps wellFormed survives planned).mpr
    (.inr ⟨child, listed, childPlan, childPlanned, rfl⟩)
  obtain ⟨known, isChild⟩ := (wellFormed.children id survives.known child).mp listed
  have childSurvives := survives.child wellFormed known isChild
  rw [childStep_fields, inputs_codeFor]
  refine List.rel_append (List.rel_append ?_ ?_) ?_
  all_goals rw [List.forall₂_map_left_iff, List.forall₂_map_right_iff, List.forall₂_same]
  · intro socket declared
    rw [childPlanned.module] at declared
    refine ⟨rfl, argument_shape wellFormed survives planned header
      (unitSocket_of_child wellFormed survives listed declared) fun gathering gathered => ?_⟩
    refine shape?_gathering wellFormed survives planned header isStep ?_
    rw [childStep_gatherings, childPlanned.module]
    rw [childPlanned.module] at gathered
    exact List.mem_filterMap.mpr ⟨socket, declared, gathered⟩
  · intro bean imported
    exact ⟨rfl, importValue_shape wellFormed survives planned header
      (reached_import wellFormed survives planned childSurvives isChild childPlanned imported)⟩
  · intro socket handedIn
    exact ⟨rfl, .cloneOf (shape?_cell wellFormed survives planned header
      (child_cell wellFormed known isChild planned childPlanned handedIn))⟩

theorem gather_reached {step : BuildStep} (isStep : step ∈ (model.constructorFor plan).steps)
    {gathering : Gathering} (listed : gathering ∈ step.gatherings) :
    ∀ gather ∈ gathering.steps, ∃ provider, model.Reached id plan provider ∧
      gather = model.gatherStep id provider := by
  rcases (mem_constructor_steps wellFormed survives planned).mp isStep with
    ⟨bean, own, rfl⟩ | ⟨child, own, childPlan, childPlanned, rfl⟩
  · rw [beanStep_gatherings] at listed
    obtain ⟨socket, owned, gathered⟩ := List.mem_filterMap.mp listed
    exact gathering_reached wellFormed survives planned
      (unitSocket_of_bean wellFormed survives planned own owned) gathered
  · rw [childStep_gatherings, childPlanned.module] at listed
    obtain ⟨socket, declared, gathered⟩ := List.mem_filterMap.mp listed
    exact gathering_reached wellFormed survives planned
      (unitSocket_of_child wellFormed survives own declared) gathered

theorem gatherings_fit {step : BuildStep} (isStep : step ∈ (model.constructorFor plan).steps) :
    ∀ gathering ∈ step.gatherings, ∀ gather ∈ gathering.steps,
      gather.Fits (model.codeFor plan header).shape? := by
  intro gathering listed gather added
  obtain ⟨provider, reached, rfl⟩ :=
    gather_reached wellFormed survives planned isStep listed gather added
  exact gatherStep_fits wellFormed survives planned header reached

/-! ## Patches -/

theorem patches_fit : ∀ patch ∈ (model.constructorFor plan).patches,
    patch.Fits (model.codeFor plan header).shape? := by
  intro patch listed
  obtain ⟨edge, inDeferred, isAnchor, owned, patched⟩ :=
    mem_constructor_patches planned listed
  have cell := shape?_cell wellFormed survives planned header (.inr owned)
  have reached : ∀ target, edge.target = some target → model.Reached id plan target :=
    fun target => reached_deferred wellFormed survives planned inDeferred isAnchor
  simp only [patch?] at patched
  split at patched
  · cases patched
  · rename_i bean isTarget
    cases patched
    exact ⟨cell, coercedValue_shape wellFormed survives planned header (reached _ isTarget)⟩
  · rename_i input isTarget
    have found := shape?_reached_input wellFormed survives planned header (reached _ isTarget)
    have notMany := deferred_notMany wellFormed survives inDeferred isAnchor isTarget
    rw [providerCardinality] at notMany
    cases cardinality : (model.socket input).multiplicity.cardinality with
    | one =>
        simp only [cardinality] at patched
        cases patched
        exact ⟨cell, .cloneOf (by rw [found, cardinality])⟩
    | maybeOne =>
        simp only [cardinality] at patched
        cases patched
        exact ⟨cell, by rw [found, cardinality]⟩
    | many => exact absurd cardinality notMany

/-! ## All values -/

theorem steps_fit : List.Forall₂ (model.StepFits header (model.codeFor plan header)) plan.steps
    (model.constructorFor plan).steps := by
  have each : ∀ units : List PlanStep, (∀ unit ∈ units, unit ∈ model.units id) →
      List.Forall₂ (model.StepFits header (model.codeFor plan header)) units
        (units.filterMap (model.buildStep? model.wires model.finalPlan id)) := by
    intro units inside
    induction units with
    | nil => exact .nil
    | cons unit rest induction =>
        have others := induction fun other later => inside other (List.mem_cons_of_mem _ later)
        have isUnit := inside unit List.mem_cons_self
        cases unit with
        | bean bean =>
            have listed : bean ∈ (model.module id).beans := by simpa [units] using isUnit
            exact .cons (beanStep_fits wellFormed survives planned header listed) others
        | module child =>
            have listed : child ∈ (model.module id).children := by simpa [units] using isUnit
            obtain ⟨known, isChild⟩ := (wellFormed.children id survives.known child).mp listed
            obtain ⟨childPlan, childPlanned⟩ :=
              (survives.child wellFormed known isChild).planned wellFormed
            rw [List.filterMap_cons, buildStep?_module childPlanned]
            exact .cons ⟨childPlan, childPlanned.found,
              childStep_fits wellFormed survives planned header listed childPlanned⟩ others
  simpa only [constructorFor, constructor, planned.module] using
    each plan.steps fun unit listed => (mem_steps wellFormed survives planned).mp listed

/-- The beans among the targets of a unit's socket provide what it requires. -/
theorem unit_targets_provide {unit : PlanStep} (isUnit : unit ∈ model.units id)
    {socket : SocketId} (asked : socket ∈ model.unitSockets unit) {bean : BeanId}
    (isTarget : .bean bean ∈ targets model.wires socket) :
    (model.socket socket).requiredType ∈ (model.bean bean).provides := by
  have isSocket : model.UnitSocket id plan socket := by
    cases unit with
    | bean own =>
        have listed : own ∈ (model.module id).beans := by simpa [units] using isUnit
        exact unitSocket_of_bean wellFormed survives planned listed asked
    | module child =>
        have listed : child ∈ (model.module id).children := by simpa [units] using isUnit
        exact unitSocket_of_child wellFormed survives listed asked
  obtain ⟨wire, found, wired⟩ :=
    survives.exists_wire wellFormed isSocket.known isSocket.wiring
  obtain ⟨_, rfl⟩ := WireSet.get?_eq_some.mp found
  simp only [targets, found] at isTarget
  exact (wired.suits _ isTarget).provides

theorem values_possible : ∀ value ∈ (model.constructorFor plan).values,
    .impossible ∉ value.parts := by
  intro value listed
  rcases Constructor.mem_values.mp listed with ⟨step, isStep, inStep⟩ | ⟨patch, isPatch, filled⟩
  · have gathered := gatherings_fit wellFormed survives planned "" isStep
    rcases (mem_constructor_steps wellFormed survives planned).mp isStep with
      ⟨bean, own, rfl⟩ | ⟨child, own, childPlan, childPlanned, rfl⟩
    · refine BuildStep.values_possible gathered ?_ (by simp [beanStep_fields]) value inStep
      intro argument passed
      obtain ⟨_, hasShape⟩ :=
        exists_of_forall₂ (beanStep_fits wellFormed survives planned "" own) argument passed
      exact ⟨_, hasShape⟩
    · refine BuildStep.values_possible gathered (fun _ none => by cases none) ?_ value inStep
      intro field passed
      obtain ⟨_, _, hasShape⟩ := exists_of_forall₂
        (childStep_fits wellFormed survives planned "" own childPlanned) field passed
      exact ⟨_, hasShape⟩
  · exact ((patches_fit wellFormed survives planned "" patch isPatch).hasShape filled).possible

end

end Model

/-- In every emitted module each step passes values with the shapes of the sockets of
its bean or of the inputs of its child, what is gathered for them and what cells are
filled with fits, no value is an impossible one, and every bean that a socket gets
provides the type that the socket requires. -/
theorem emitted_values_fit (declarations : List ModuleDeclaration) (header : String)
    (artifact : Artifact)
    (emitted : artifact ∈ (Build.ofDeclarations declarations header).artifacts) :
    let model := Model.ofDeclarations declarations
    ∃ plan, model.finalPlan.module? artifact.module = some plan ∧
      plan.steps.Perm (model.units artifact.module) ∧
      let code := model.codeFor plan header
      artifact.source = code.text ∧
        List.Forall₂ (model.StepFits header code) plan.steps code.constructor.steps ∧
        (∀ step ∈ code.constructor.steps, ∀ gathering ∈ step.gatherings,
          ∀ gather ∈ gathering.steps, gather.Fits code.shape?) ∧
        (∀ patch ∈ code.constructor.patches, patch.Fits code.shape?) ∧
        (∀ value ∈ code.constructor.values, .impossible ∉ value.parts) ∧
        ∀ unit ∈ plan.steps, ∀ socket ∈ model.unitSockets unit, ∀ bean,
          .bean bean ∈ Model.targets model.wires socket →
            (model.socket socket).requiredType ∈ (model.bean bean).provides := by
  intro model
  have wellFormed := Model.ofDeclarations_wellFormed declarations
  obtain ⟨id, plan, survives, planned, rfl⟩ := (Model.mem_artifacts wellFormed).mp emitted
  have isModule : (model.artifact model.wires model.finalPlan plan header).module = id :=
    planned.module
  rw [isModule]
  refine ⟨plan, planned.found, ?_, Model.artifact_source .., ?_, ?_, ?_, ?_, ?_⟩
  · exact planned.steps ▸ Model.steps_perm wellFormed survives.known planned.noCycle
  · exact Model.steps_fit wellFormed survives planned header
  · exact fun step => Model.gatherings_fit wellFormed survives planned header
  · exact Model.patches_fit wellFormed survives planned header
  · exact Model.values_possible wellFormed survives planned
  · intro unit isStep socket asked bean
    exact Model.unit_targets_provide wellFormed survives planned
      ((Model.mem_steps wellFormed survives planned).mp isStep) asked

set_option maxRecDepth 100000 in
theorem sampleApplication_values_fit :
    let model := Model.ofDeclarations sampleApplication
    ∃ plan, model.finalPlan.module? ⟨0⟩ = some plan ∧
      let code := model.codeFor plan ""
      List.Forall₂ (model.StepFits "" code) plan.steps code.constructor.steps ∧
        ∀ value ∈ code.constructor.values, .impossible ∉ value.parts := by
  intro model
  have root : (⟨0⟩ : ModuleId) ∈ model.moduleIds := by decide +kernel
  obtain ⟨artifact, emitted, isRoot⟩ := sampleApplication_emitted root
  obtain ⟨plan, found, _, _, fits, _, _, possible, _⟩ :=
    emitted_values_fit sampleApplication "" artifact emitted
  exact ⟨plan, isRoot ▸ found, fits, possible⟩

end StaticInjection
