import StaticInjection.Proofs.Emission.Scoping

/-! # Constructors bind each local once

Locals of one kind are told apart by names that the checks keep different: inputs and
beans by their own names, imports and cells by their keys, children by the names of
siblings, and collections by what holds them. The texts of kinds begin differently. -/

namespace StaticInjection

namespace Code

/-! ## Texts of locals -/

/-- A local, read back from its text. -/
def Local.read? : List Char → Option (LocalKind × List Char)
  | 's' :: '_' :: name => some (.input, name)
  | 'i' :: '_' :: name => some (.imported, name)
  | 'd' :: '_' :: name => some (.cell, name)
  | 'b' :: '_' :: name => some (.singleton, name)
  | 'f' :: '_' :: name => some (.factory, name)
  | 't' :: '_' :: name => some (.issued, name)
  | 'm' :: '_' :: name => some (.child, name)
  | 'c' :: '_' :: name => some (.gathered, name)
  | 'c' :: 'm' :: '_' :: name => some (.childGathered, name)
  | _ => none

theorem Local.read?_text (name : Local) :
    read? name.text.toList = some (name.kind, name.name.toList) := by
  obtain ⟨kind, name⟩ := name
  rw [text, String.toList_append]
  cases kind <;> simp [LocalKind.lead, read?]

theorem Local.text_injective : Function.Injective Local.text := by
  intro left right same
  have read := congrArg (fun text => read? text.toList) same
  simp only [read?_text, Option.some.injEq, Prod.mk.injEq] at read
  obtain ⟨leftKind, leftName⟩ := left
  obtain ⟨rightKind, rightName⟩ := right
  rw [Local.mk.injEq]
  exact ⟨read.1, String.toList_injective read.2⟩

/-- Locals are different when those of each kind are. -/
theorem nodup_of_kinds {locals : List Local}
    (each : ∀ kind, (locals.filter (·.kind == kind)).Nodup) : locals.Nodup := by
  rw [List.nodup_iff_count_le_one]
  intro name
  have once := List.nodup_iff_count_le_one.mp (each name.kind) name
  rwa [List.count_filter (by simp)] at once

theorem filter_map_kind (locals : α → Local) {own : LocalKind}
    (same : ∀ item, (locals item).kind = own) (kind : LocalKind) (items : List α) :
    (items.map locals).filter (·.kind == kind) = if own = kind then items.map locals else [] := by
  simp only [List.filter_map, Function.comp_def, same]
  split
  · rename_i equal
    simp [equal]
  · rename_i different
    simp [different]

end Code

namespace Model

open Code

variable {model : Model}

/-! ## Collections -/

/-- A collection is gathered for the socket. -/
def gathers (model : Model) (socket : SocketId) : Bool :=
  (model.socket socket).multiplicity == .collection && !(model.socket socket).isLazy

theorem argument_gathering (wires : WireSet) (scope : ModuleId) (target : Local)
    (socket : SocketId) :
    (model.argument wires scope target socket).gathering.map (·.target) =
      if model.gathers socket then some target else none := by
  simp only [argument, gathers]
  split
  · rename_i isLazy
    simp [isLazy]
  · rename_i eager
    split <;> simp_all

theorem gatherings_targets (wires : WireSet) (scope : ModuleId) (target : SocketId → Local)
    (sockets : List SocketId) :
    (sockets.filterMap fun socket =>
        (model.argument wires scope (target socket) socket).gathering).map (·.target) =
      (sockets.filter model.gathers).map target := by
  rw [List.map_filterMap]
  induction sockets with
  | nil => rfl
  | cons socket rest induction =>
      rw [List.filterMap_cons, argument_gathering, induction, List.filter_cons]
      cases model.gathers socket <;> rfl

def beanGathered (model : Model) (bean : BeanId) : List Local :=
  ((model.bean bean).sockets.filter model.gathers).map fun socket =>
    gatheredLocal (model.bean bean) (model.socket socket)

def childGathered (model : Model) (child : ModuleId) : List Local :=
  ((model.module child).sockets.filter model.gathers).map fun socket =>
    childGatheredLocal (model.module child) (model.socket socket)

theorem gatheredLocals_eq (module : Module) :
    (model.gatheredLocals module).map (·.1) =
      module.beans.flatMap model.beanGathered ++ module.children.flatMap model.childGathered := by
  simp only [gatheredLocals, List.filter_append, List.map_append, List.filter_flatMap,
    List.map_flatMap, List.filter_map, List.map_map]
  rfl

/-! ## Steps -/

/-- The locals that the step of a unit leaves bound. -/
def unitBound (model : Model) (id : ModuleId) (unit : PlanStep) : List Local :=
  (model.buildStep? model.wires model.finalPlan id unit).toList.flatMap (·.bound)

/-- Those of one kind, which come from the names of the unit alone. -/
def unitLocals (model : Model) : LocalKind → PlanStep → List Local
  | .singleton, .bean bean => [⟨.singleton, (model.bean bean).name⟩]
  | .factory, .bean bean => [⟨.factory, (model.bean bean).name⟩]
  | .issued, .bean bean => [⟨.issued, (model.bean bean).name⟩]
  | .gathered, .bean bean => model.beanGathered bean
  | .child, .module child => [⟨.child, (model.module child).name⟩]
  | .childGathered, .module child => model.childGathered child
  | _, _ => []

theorem beanStep_bound (wires : WireSet) (scope : ModuleId) (bean : BeanId) :
    (model.beanStep wires scope bean).bound =
      match (model.bean bean).lifetime with
      | .singleton => model.beanGathered bean ++ [⟨.singleton, (model.bean bean).name⟩]
      | .perRequest =>
        (if (model.bean bean).isTracked then [⟨.issued, (model.bean bean).name⟩] else []) ++
          [⟨.factory, (model.bean bean).name⟩] := by
  simp only [beanStep]
  cases (model.bean bean).lifetime with
  | perRequest => rfl
  | singleton =>
      simp only [BuildStep.bound, construction, List.filterMap_map, Function.comp_def,
        gatherings_targets]
      rfl

theorem childStep_bound (wires : WireSet) (scope : ModuleId) (plan : ModulePlan) :
    (model.childStep wires scope plan).bound =
      model.childGathered plan.module ++ [⟨.child, (model.module plan.module).name⟩] := by
  simp only [childStep, BuildStep.bound, List.filterMap_map, Function.comp_def,
    gatherings_targets]
  rfl

theorem filter_beanGathered (kind : LocalKind) (bean : BeanId) :
    (model.beanGathered bean).filter (·.kind == kind) =
      if .gathered = kind then model.beanGathered bean else [] :=
  filter_map_kind (fun socket => gatheredLocal (model.bean bean) (model.socket socket))
    (fun _ => rfl) kind _

theorem filter_childGathered (kind : LocalKind) (child : ModuleId) :
    (model.childGathered child).filter (·.kind == kind) =
      if .childGathered = kind then model.childGathered child else [] :=
  filter_map_kind (fun socket => childGatheredLocal (model.module child) (model.socket socket))
    (fun _ => rfl) kind _

theorem filter_unitBound (id : ModuleId) (kind : LocalKind) (unit : PlanStep) :
    ((model.unitBound id unit).filter (·.kind == kind)).Sublist (model.unitLocals kind unit) := by
  cases unit with
  | bean bean =>
      simp only [unitBound, buildStep?, Option.toList_some, List.flatMap_singleton,
        beanStep_bound]
      cases (model.bean bean).lifetime with
      | singleton =>
          rw [List.filter_append, filter_beanGathered]
          cases kind <;> simp [unitLocals]
      | perRequest =>
          cases (model.bean bean).isTracked <;> cases kind <;> simp [unitLocals]
  | module child =>
      cases found : model.finalPlan.module? child with
      | none => simp [unitBound, buildStep?, found]
      | some plan =>
          have isModule : plan.module = child := by simpa using List.find?_some found
          simp only [unitBound, buildStep?, found, Option.map_some, Option.toList_some,
            List.flatMap_singleton, childStep_bound, isModule]
          rw [List.filter_append, filter_childGathered]
          cases kind <;> simp [unitLocals]

section

variable (wellFormed : model.WellFormed) {id : ModuleId} (survives : model.Survives id)

include wellFormed survives

theorem beanLocals_nodup (kind : LocalKind) :
    ((model.module id).beans.map fun bean => (⟨kind, (model.bean bean).name⟩ : Local)).Nodup := by
  have names := (survives.sound wellFormed).beanNames
  refine .of_map Local.name ?_
  rwa [List.map_map]

theorem childLocals_nodup :
    ((model.module id).children.map fun child =>
      (⟨.child, (model.module child).name⟩ : Local)).Nodup := by
  refine List.Nodup.map_on ?_ (wellFormed.children_nodup id survives.known)
  intro left leftListed right rightListed same
  obtain ⟨leftKnown, isLeft⟩ := (wellFormed.children id survives.known left).mp leftListed
  obtain ⟨rightKnown, isRight⟩ := (wellFormed.children id survives.known right).mp rightListed
  exact (survives.child wellFormed leftKnown isLeft).eq_of_sibling_name wellFormed
    (survives.child wellFormed rightKnown isRight) (isLeft.trans isRight.symm)
    (congrArg Local.name same)

theorem gatheredLocals_nodup :
    ((model.module id).beans.flatMap model.beanGathered ++
      (model.module id).children.flatMap model.childGathered).Nodup := by
  rw [← gatheredLocals_eq]
  refine .of_map Local.text ?_
  rw [List.map_map]
  exact survives.gathered_nodup wellFormed

theorem unitLocals_nodup (kind : LocalKind) :
    ((model.units id).flatMap (model.unitLocals kind)).Nodup := by
  have collections := List.nodup_append.mp (gatheredLocals_nodup wellFormed survives)
  have empty {α : Type} (items : List α) : items.flatMap (fun _ => ([] : List Local)) = [] := by
    simp
  rw [units, List.flatMap_append, List.flatMap_map, List.flatMap_map]
  cases kind with
  | singleton | factory | issued =>
      simpa [unitLocals, empty, ← List.map_eq_flatMap] using beanLocals_nodup wellFormed survives _
  | gathered => simpa [unitLocals, empty] using collections.1
  | child =>
      simpa [unitLocals, empty, ← List.map_eq_flatMap] using childLocals_nodup wellFormed survives
  | childGathered => simpa [unitLocals, empty] using collections.2.1
  | input | imported | cell => simp [unitLocals, empty]

variable {plan : ModulePlan} (planned : model.Planned id plan)

include planned

/-! ## The locals before the steps -/

theorem inputLocals_nodup : ((model.module plan.module).sockets.map model.inputLocal).Nodup := by
  rw [planned.module]
  refine .of_map Local.name ?_
  rw [List.map_map]
  exact (survives.sound wellFormed).inputNames

theorem importLocals_nodup : (plan.imports.map model.importLocal).Nodup := by
  refine List.Nodup.map_on ?_ (imports_nodup wellFormed planned)
  have facts : ∀ bean ∈ plan.imports, bean ∈ model.beanIds ∧
      model.Survives (model.bean bean).module ∧ model.Outside id (model.bean bean).module :=
    fun bean listed => ⟨((mem_imports wellFormed planned).mp listed).1,
      (import_inReach wellFormed survives planned listed).2,
      import_outside wellFormed survives planned listed⟩
  intro left leftListed right rightListed same
  obtain ⟨leftKnown, leftSurvives, leftOutside⟩ := facts left leftListed
  obtain ⟨rightKnown, rightSurvives, rightOutside⟩ := facts right rightListed
  simp only [importLocal, Local.mk.injEq, true_and] at same
  exact Survives.eq_of_outside_beanKey wellFormed survives.known leftKnown rightKnown leftSurvives
    leftOutside rightSurvives rightOutside same

omit survives in
/-- A cell of a module belongs to a lazy socket of a bean in its subtree. -/
theorem cell_owner {socket : SocketId}
    (listed : socket ∈ plan.deferredIn ∨ socket ∈ plan.deferredOwned) :
    socket ∈ model.socketIds ∧ (model.socket socket).isLazy = true ∧
      ∃ bean, (model.socket socket).owner = .bean bean ∧
        model.isWithin (model.bean bean).module id = true := by
  have fromEdge : ∃ edge ∈ model.finalPlan.deferred, edge.socket = socket ∧
      (edge.anchor = id ∨ model.isWithin (model.bean edge.bean).module id = true) := by
    rcases listed with handedIn | made
    · obtain ⟨edge, member, _, _, within, same⟩ := (mem_deferredIn planned).mp handedIn
      exact ⟨edge, member, same, .inr within⟩
    · obtain ⟨edge, member, isAnchor, same⟩ := (mem_deferredOwned planned).mp made
      exact ⟨edge, member, same, .inl isAnchor⟩
  obtain ⟨edge, member, rfl, place⟩ := fromEdge
  obtain ⟨wire, isDeferred⟩ := isDeferred_of_mem member
  obtain ⟨_, _, wired⟩ := wellFormed.wired_of_mem isDeferred.member
  rw [isDeferred.socket]
  refine ⟨wired.known, wired.isLazy.symm.trans isDeferred.isLazy, edge.bean, isDeferred.owner, ?_⟩
  rcases place with isAnchor | within
  · exact isAnchor ▸ (isDeferred.anchored wellFormed).1
  · exact within

theorem cellLocals_nodup :
    ((plan.deferredIn ++ plan.deferredOwned).map model.cellLocal).Nodup := by
  refine List.Nodup.map_on ?_ ?_
  · intro left leftListed right rightListed same
    obtain ⟨leftKnown, leftLazy, _, leftOwner, leftWithin⟩ :=
      cell_owner wellFormed planned (List.mem_append.mp leftListed)
    obtain ⟨rightKnown, rightLazy, _, rightOwner, rightWithin⟩ :=
      cell_owner wellFormed planned (List.mem_append.mp rightListed)
    simp only [cellLocal, Local.mk.injEq, true_and] at same
    exact survives.eq_of_socketKey wellFormed leftKnown rightKnown leftOwner rightOwner leftLazy
      rightLazy leftWithin rightWithin same
  · have once : (model.finalPlan.deferred.map (·.socket)).Nodup := deferred_nodup
    refine List.nodup_append.mpr ⟨?_, ?_, ?_⟩
    · rw [planned.deferredIn]
      exact (List.filter_sublist.map _).nodup once
    · rw [planned.deferredOwned]
      exact (List.filter_sublist.map _).nodup once
    · -- One edge has one anchor.
      rintro left handedIn right made rfl
      obtain ⟨edge, member, notAnchor, _, _, rfl⟩ := (mem_deferredIn planned).mp handedIn
      obtain ⟨other, otherMember, isAnchor, same⟩ := (mem_deferredOwned planned).mp made
      rw [List.inj_on_of_nodup_map once otherMember member same] at isAnchor
      exact notAnchor isAnchor

/-! ## All locals -/

omit wellFormed survives planned in
theorem filter_boundFirst (plan : ModulePlan) (kind : LocalKind) :
    (model.constructorFor plan).boundFirst.filter (·.kind == kind) =
      match kind with
      | .input => (model.module plan.module).sockets.map model.inputLocal
      | .imported => plan.imports.map model.importLocal
      | .cell => (plan.deferredIn ++ plan.deferredOwned).map model.cellLocal
      | _ => [] := by
  rw [boundFirst_eq, List.append_assoc, ← List.map_append]
  simp only [List.filter_append, filter_map_kind model.inputLocal fun _ => rfl,
    filter_map_kind model.importLocal fun _ => rfl, filter_map_kind model.cellLocal fun _ => rfl]
  cases kind <;> simp

theorem boundFirst_nodup (kind : LocalKind) :
    ((model.constructorFor plan).boundFirst.filter (·.kind == kind)).Nodup := by
  rw [filter_boundFirst]
  cases kind with
  | input => exact inputLocals_nodup wellFormed survives planned
  | imported => exact importLocals_nodup wellFormed survives planned
  | cell => exact cellLocals_nodup wellFormed survives planned
  | singleton | factory | issued | child | gathered | childGathered => exact List.nodup_nil

theorem steps_bound_perm : ((model.constructorFor plan).steps.flatMap (·.bound)).Perm
    ((model.units id).flatMap (model.unitBound id)) := by
  have steps : plan.steps.Perm (model.units id) :=
    planned.steps ▸ steps_perm wellFormed survives.known planned.noCycle
  have joined : (model.constructorFor plan).steps.flatMap (·.bound) =
      plan.steps.flatMap (model.unitBound id) := by
    simp only [constructorFor, constructor, planned.module, List.filterMap_eq_flatMap_toList,
      List.flatMap_assoc]
    rfl
  exact joined ▸ steps.flatMap_right _

/-- No local is bound twice at the top level. -/
theorem bound_nodup : (model.constructorFor plan).bound.Nodup := by
  refine nodup_of_kinds fun kind => ?_
  have units := (steps_bound_perm wellFormed survives planned).filter (·.kind == kind)
  have ofUnits : (((model.units id).flatMap (model.unitBound id)).filter (·.kind == kind)).Sublist
      ((model.units id).flatMap (model.unitLocals kind)) := by
    rw [List.filter_flatMap]
    exact List.Sublist.flatMap_right _ fun unit _ => filter_unitBound id kind unit
  rw [Constructor.bound, List.filter_append, List.nodup_append]
  refine ⟨boundFirst_nodup wellFormed survives planned kind,
    units.nodup_iff.mpr (ofUnits.nodup (unitLocals_nodup wellFormed survives kind)), ?_⟩
  -- What is bound before the steps is of other kinds.
  intro left leftMember right rightMember
  have inUnits := ofUnits.subset (units.subset rightMember)
  rw [filter_boundFirst] at leftMember
  cases kind with
  | input | imported | cell => simp [unitLocals] at inUnits
  | singleton | factory | issued | child | gathered | childGathered => cases leftMember

end

end Model

/-- The constructor of every emitted module is printed as statements in which each
generated local is bound, in an enclosing scope, before it is mentioned, and none is
bound twice at the top level. -/
theorem emitted_constructor_scoped (declarations : List ModuleDeclaration) (header : String)
    (artifact : Artifact)
    (emitted : artifact ∈ (Build.ofDeclarations declarations header).artifacts) :
    let model := Model.ofDeclarations declarations
    ∃ plan, model.finalPlan.module? artifact.module = some plan ∧
      let code := model.codeFor plan header
      let statements := code.constructor.statements
      artifact.source = code.text ∧
        Code.Statement.allLines statements = code.constructor.body ∧
        Code.Statement.AllScoped [] statements ∧
        ((Code.Statement.allBound statements).map Code.Local.text).Nodup := by
  intro model
  have wellFormed := Model.ofDeclarations_wellFormed declarations
  obtain ⟨id, plan, survives, planned, rfl⟩ := (Model.mem_artifacts wellFormed).mp emitted
  have isModule : (model.artifact model.wires model.finalPlan plan header).module = id :=
    planned.module
  refine ⟨plan, isModule ▸ planned.found, Model.artifact_source .., ?_, ?_, ?_⟩
  · exact Code.Constructor.lines_statements _
  · exact Model.constructor_scoped wellFormed survives planned
  · rw [Code.Constructor.bound_statements]
    exact (Model.bound_nodup wellFormed survives planned).map Code.Local.text_injective

set_option maxRecDepth 100000 in
theorem sampleApplication_constructor_scoped :
    let model := Model.ofDeclarations sampleApplication
    ∃ plan, model.finalPlan.module? ⟨0⟩ = some plan ∧
      let statements := (model.constructorFor plan).statements
      Code.Statement.AllScoped [] statements ∧
        ((Code.Statement.allBound statements).map Code.Local.text).Nodup := by
  intro model
  have root : (⟨0⟩ : ModuleId) ∈ model.moduleIds := by decide +kernel
  obtain ⟨artifact, emitted, isRoot⟩ := sampleApplication_emitted root
  obtain ⟨plan, found, _, _, inside, once⟩ :=
    emitted_constructor_scoped sampleApplication "" artifact emitted
  exact ⟨plan, isRoot ▸ found, inside, once⟩

end StaticInjection
