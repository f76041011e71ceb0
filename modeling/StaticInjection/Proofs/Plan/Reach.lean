import StaticInjection.Proofs.Build.Names
import StaticInjection.Proofs.Plan.Deferred
import StaticInjection.Proofs.Plan.Units

/-! # What a planned module reaches

Everything that a survivor's constructor needs is its own, belongs to one of its
children, or is handed in from outside: what its units need from outside its subtree
are its imports, what a child imports is in reach of the parent, and every cell that a
child takes is handed to the parent or made there. -/

namespace StaticInjection.Model

variable {model : Model}

section Places

variable (wellFormed : model.WellFormed)

include wellFormed

/-- Kin of a module is the module itself, one of its children, or outside its
subtree. -/
theorem Kin.place {id owner : ModuleId} (known : id ∈ model.moduleIds)
    (ownerKnown : owner ∈ model.moduleIds) (kin : model.Kin id owner) :
    owner = id ∨ model.parent owner = some id ∨
      (model.Outside id owner ∧ model.isWithin owner id = false) := by
  cases kin with
  | own => exact .inl rfl
  | child isChild => exact .inr (.inl isChild)
  | above different within =>
      refine .inr (.inr ⟨.inl ⟨different, within⟩, ?_⟩)
      by_contra inside
      exact different (wellFormed.isWithin_antisymm ownerKnown (by simpa using inside) within)
  | wired listed =>
      refine .inr (.inr ⟨.inr listed, ?_⟩)
      obtain ⟨_, different, siblings⟩ := wellFormed.wired id known owner listed
      by_contra inside
      have within : model.isWithin owner id = true := by simpa using inside
      cases isParent : model.parent owner with
      | none => exact different ((WellFormed.isWithin_of_root isParent).mp within)
      | some parent =>
          rcases (wellFormed.isWithin_of_parent ownerKnown isParent).mp within with same | above
          · exact different same
          · rw [wellFormed.not_isWithin_child known (siblings ▸ isParent)] at above
            cases above

/-- What is in reach of a module inside a subtree, and lies outside the subtree, is in
reach of the top of the subtree. -/
theorem InReach.lift {id scope : ModuleId} (scopeKnown : scope ∈ model.moduleIds)
    (within : model.isWithin scope id = true) {target : Provider}
    (inReach : model.InReach scope target)
    (apart : model.isWithin (model.providerModule target) id = false) :
    model.InReach id target := by
  have ownerKnown := wellFormed.providerModule_known inReach.offered
  have notScope : model.providerModule target ≠ scope := by
    intro same
    rw [same, within] at apart
    cases apart
  refine ⟨inReach.offered, ?_, fun _ => inReach.isPublic notScope⟩
  have kin := inReach.kin
  generalize model.providerModule target = owner at kin apart ownerKnown notScope
  cases kin with
  | own => exact absurd rfl notScope
  | above different above =>
      rcases wellFormed.isWithin_total scopeKnown within above with up | down
      · refine .above (fun same => ?_) up
        rw [same, WellFormed.isWithin_self] at apart
        cases apart
      · rw [down] at apart
        cases apart
  | child isChild =>
      have inside := (wellFormed.isWithin_of_parent ownerKnown isChild).mpr (.inr within)
      rw [inside] at apart
      cases apart
  | wired listed =>
      obtain ⟨_, _, siblings⟩ := wellFormed.wired scope scopeKnown owner listed
      by_cases same : scope = id
      · exact same ▸ .wired listed
      · -- A sibling of a module strictly inside is inside too.
        cases isParent : model.parent scope with
        | none => exact absurd ((WellFormed.isWithin_of_root isParent).mp within) same
        | some parent =>
            have parentWithin :=
              ((wellFormed.isWithin_of_parent scopeKnown isParent).mp within).resolve_left same
            have inside := (wellFormed.isWithin_of_parent ownerKnown (siblings.trans isParent)).mpr
              (.inr parentWithin)
            rw [inside] at apart
            cases apart

/-! ## Where sockets are resolved -/

/-- The scope of a socket lies in the subtree in which its requirer belongs to a unit. -/
theorem scope_within {id scope : ModuleId} {wire : Wire} (wired : model.Wired scope wire)
    {unit : PlanStep} (found : model.unitOf? id (model.requirer wire.socket) = some unit) :
    model.isWithin scope id = true := by
  have offered := wellFormed.offers_requirer wired.known
  cases owned : (model.socket wire.socket).owner with
  | bean bean =>
      rw [requirer_of_bean owned] at found offered
      obtain rfl := scope_of_bean owned wired.wiring
      cases unit with
      | bean own =>
          obtain ⟨same, here⟩ := unitOf?_eq_bean.mp found
          cases same
          exact here ▸ WellFormed.isWithin_self _
      | module child =>
          obtain ⟨isChild, inside⟩ := (unitOf?_eq_module wellFormed offered).mp found
          have place := wellFormed.providerModule_known offered
          exact wellFormed.isWithin_trans place inside
            (wellFormed.isWithin_parent (wellFormed.isWithin_known place inside) isChild)
  | module module =>
      have place := (wellFormed.owner_module _ wired.known module owned).2
      rw [requirer_of_module owned] at found offered
      have isParent := scope_of_module owned wired.wiring
      cases unit with
      | bean own => cases (unitOf?_eq_bean.mp found).1
      | module child =>
          obtain ⟨isChild, inside⟩ := (unitOf?_eq_module wellFormed offered).mp found
          rw [show model.providerModule (.socket wire.socket) = module from place] at inside
          have moduleKnown := (wellFormed.owner_module _ wired.known module owned).1
          have childKnown := wellFormed.isWithin_known moduleKnown inside
          rcases (wellFormed.isWithin_of_parent moduleKnown isParent).mp inside with same | above
          · rw [same, isChild] at isParent
            cases isParent
            exact WellFormed.isWithin_self _
          · have scopeKnown := wellFormed.parent_known moduleKnown isParent
            exact wellFormed.isWithin_trans scopeKnown above
              (wellFormed.isWithin_parent childKnown isChild)

/-- A socket that is resolved in a module belongs to one of its units: the bean, or the
child whose input it is. -/
theorem unit_of_requirer {id : ModuleId} {socket : SocketId} (known : socket ∈ model.socketIds)
    (wiring : model.wiringModule? socket = some id) :
    model.unitOf? id (model.requirer socket) =
      some (match (model.socket socket).owner with
        | .bean bean => .bean bean
        | .module module => .module module) := by
  have offered := wellFormed.offers_requirer known
  cases owned : (model.socket socket).owner with
  | bean bean =>
      rw [requirer_of_bean owned]
      exact unitOf?_eq_bean.mpr ⟨rfl, scope_of_bean owned wiring⟩
  | module module =>
      rw [requirer_of_module owned] at offered ⊢
      have place := (wellFormed.owner_module _ known module owned).2
      refine (unitOf?_eq_module wellFormed offered).mpr ⟨scope_of_module owned wiring, ?_⟩
      rw [show model.providerModule (.socket socket) = module from place]
      exact WellFormed.isWithin_self _

end Places

/-! ## Imports -/

section Imports

variable (wellFormed : model.WellFormed)

theorem isImported_iff {id : ModuleId} {bean : BeanId} :
    model.isImported model.graph id bean = true ↔
      ∃ edge ∈ model.graph.edges, edge.isLazy = false ∧ edge.target = .bean bean ∧
        ∃ unit, model.unitOf? id edge.source = some unit := by
  simp only [isImported, List.any_eq_true, Bool.and_eq_true, Bool.not_eq_true', beq_iff_eq,
    Option.isSome_iff_exists, and_assoc]

theorem isPatched_iff {deferred : List DeferredEdge} {id : ModuleId} {bean : BeanId} :
    isPatched deferred id bean = true ↔
      ∃ edge ∈ deferred, edge.anchor = id ∧ edge.target = some (.bean bean) := by
  simp [isPatched]

include wellFormed

theorem mem_imports {id : ModuleId} {plan : ModulePlan} (planned : model.Planned id plan)
    {bean : BeanId} : bean ∈ plan.imports ↔
      bean ∈ model.beanIds ∧ model.isWithin (model.bean bean).module id = false ∧
        (model.isImported model.graph id bean = true ∨
          isPatched model.finalPlan.deferred id bean = true) := by
  rw [planned.imports]
  simp only [imports, List.mem_map, List.mem_filter, Bool.and_eq_true, Bool.or_eq_true,
    Bool.not_eq_true']
  constructor
  · rintro ⟨row, ⟨member, apart, used⟩, rfl⟩
    rw [wellFormed.bean_of_mem member]
    exact ⟨List.mem_map_of_mem member, apart, used⟩
  · rintro ⟨known, apart, used⟩
    obtain ⟨member, same⟩ := wellFormed.bean_mem known
    exact ⟨model.bean bean, ⟨member, apart, same.symm ▸ used⟩, same⟩

theorem imports_nodup {id : ModuleId} {plan : ModulePlan} (planned : model.Planned id plan) :
    plan.imports.Nodup := by
  have ids : model.beanIds.Nodup := by
    have numbers : model.beanIds.map (·.index) = List.range' 0 model.beans.length := by
      rw [beanIds, List.map_map]
      exact wellFormed.beans_numbered
    exact .of_map _ (numbers.symm ▸ List.nodup_range')
  rw [planned.imports]
  exact (List.filter_sublist.map _).nodup ids

/-- An import is in reach of the module and comes from a survivor. -/
theorem import_inReach {id : ModuleId} (survives : model.Survives id) {plan : ModulePlan}
    (planned : model.Planned id plan) {bean : BeanId} (listed : bean ∈ plan.imports) :
    model.InReach id (.bean bean) ∧ model.Survives (model.bean bean).module := by
  obtain ⟨known, apart, used⟩ := (mem_imports wellFormed planned).mp listed
  rcases used with imported | patched
  · obtain ⟨edge, member, _, isTarget, unit, found⟩ := isImported_iff.mp imported
    obtain ⟨wire, isWire, target, inTargets, rfl⟩ := wellFormed.mem_edges.mp member
    obtain ⟨scope, scopeKnown, wired⟩ := wellFormed.wired_of_mem isWire
    simp only [wireEdge] at isTarget found
    subst isTarget
    have within := scope_within wellFormed wired found
    have scopeSurvives := survives.within wellFormed scopeKnown within
    exact ⟨(wired.suits _ inTargets).toInReach.lift wellFormed scopeKnown within apart,
      scopeSurvives.target wellFormed isWire wired inTargets⟩
  · obtain ⟨edge, member, isAnchor, isTarget⟩ := isPatched_iff.mp patched
    obtain ⟨wire, isDeferred⟩ := isDeferred_of_mem member
    obtain ⟨above, targets⟩ := isDeferred.anchored wellFormed
    obtain ⟨scope, scopeKnown, wired⟩ := wellFormed.wired_of_mem isDeferred.member
    have isScope := scope_of_bean isDeferred.owner wired.wiring
    rw [isScope, isAnchor] at above
    have inTargets : .bean bean ∈ wire.targets :=
      List.mem_of_mem_head? (isDeferred.target ▸ isTarget)
    refine ⟨isAnchor ▸ (targets _ isTarget).1, ?_⟩
    exact (survives.within wellFormed scopeKnown above).target wellFormed isDeferred.member wired
      inTargets

theorem import_outside {id : ModuleId} (survives : model.Survives id) {plan : ModulePlan}
    (planned : model.Planned id plan) {bean : BeanId} (listed : bean ∈ plan.imports) :
    model.Outside id (model.bean bean).module := by
  have inReach := (import_inReach wellFormed survives planned listed).1
  obtain ⟨known, apart, _⟩ := (mem_imports wellFormed planned).mp listed
  exact wellFormed.outside_of_kin (wellFormed.bean_module bean known) inReach.kin apart

/-- What a unit needs at once from outside is imported. -/
theorem mem_imports_of_edge {id : ModuleId} {plan : ModulePlan} (planned : model.Planned id plan)
    {edge : Dependency} (member : edge ∈ model.graph.edges) (eager : edge.isLazy = false)
    {unit : PlanStep} (found : model.unitOf? id edge.source = some unit) {bean : BeanId}
    (isTarget : edge.target = .bean bean) (known : bean ∈ model.beanIds)
    (apart : model.isWithin (model.bean bean).module id = false) : bean ∈ plan.imports :=
  (mem_imports wellFormed planned).mpr ⟨known, apart, .inl
    (isImported_iff.mpr ⟨edge, member, eager, isTarget, unit, found⟩)⟩

/-- A child imports only what something in it needs at once. -/
theorem child_import_edge {id child : ModuleId} (isChild : model.parent child = some id)
    {plan : ModulePlan} (planned : model.Planned child plan) {bean : BeanId}
    (listed : bean ∈ plan.imports) :
    ∃ edge ∈ model.graph.edges, edge.isLazy = false ∧ edge.target = .bean bean ∧
      model.unitOf? id edge.source = some (.module child) := by
  obtain ⟨known, apart, used⟩ := (mem_imports wellFormed planned).mp listed
  rcases used with imported | patched
  · obtain ⟨edge, member, eager, isTarget, unit, found⟩ := isImported_iff.mp imported
    refine ⟨edge, member, eager, isTarget, ?_⟩
    obtain ⟨wire, isWire, target, _, rfl⟩ := wellFormed.mem_edges.mp member
    obtain ⟨scope, scopeKnown, wired⟩ := wellFormed.wired_of_mem isWire
    have offered := wellFormed.offers_requirer wired.known
    refine (unitOf?_eq_module wellFormed offered).mpr ⟨isChild, ?_⟩
    simp only [wireEdge] at found
    cases unit with
    | bean own =>
        obtain ⟨same, here⟩ := unitOf?_eq_bean.mp found
        rw [same]
        exact (show (model.bean own).module = child from here) ▸ WellFormed.isWithin_self _
    | module grandchild =>
        obtain ⟨isGrandchild, inside⟩ := (unitOf?_eq_module wellFormed offered).mp found
        have place := wellFormed.providerModule_known offered
        exact wellFormed.isWithin_trans place inside
          (wellFormed.isWithin_parent (wellFormed.isWithin_known place inside) isGrandchild)
  · -- An anchor that is no root holds what its cells are filled with.
    obtain ⟨edge, member, isAnchor, isTarget⟩ := isPatched_iff.mp patched
    obtain ⟨wire, isDeferred⟩ := isDeferred_of_mem member
    rcases ((isDeferred.anchored wellFormed).2 _ isTarget).2 with holds | isRoot
    · rw [isAnchor] at holds
      exact absurd holds (by simpa [providerModule] using apart)
    · rw [isAnchor, isChild] at isRoot
      cases isRoot

end Imports

/-! ## Cells -/

section Cells

variable (wellFormed : model.WellFormed)

include wellFormed

omit wellFormed in
theorem mem_deferredIn {id : ModuleId} {plan : ModulePlan} (planned : model.Planned id plan)
    {socket : SocketId} : socket ∈ plan.deferredIn ↔
      ∃ edge ∈ model.finalPlan.deferred, edge.anchor ≠ id ∧
        model.isWithin id edge.anchor = true ∧
        model.isWithin (model.bean edge.bean).module id = true ∧ edge.socket = socket := by
  rw [planned.deferredIn]
  simp [deferredInto, and_assoc]

omit wellFormed in
theorem mem_deferredOwned {id : ModuleId} {plan : ModulePlan} (planned : model.Planned id plan)
    {socket : SocketId} : socket ∈ plan.deferredOwned ↔
      ∃ edge ∈ model.finalPlan.deferred, edge.anchor = id ∧ edge.socket = socket := by
  rw [planned.deferredOwned]
  simp [deferredOwnedBy, and_assoc]

/-- The cell of a lazy socket of an own bean is handed in or made. -/
theorem own_cell {id : ModuleId} (survives : model.Survives id) {plan : ModulePlan}
    (planned : model.Planned id plan) {bean : BeanId} (listed : bean ∈ (model.module id).beans)
    {socket : SocketId} (owned : socket ∈ (model.bean bean).sockets)
    (isLazy : (model.socket socket).isLazy = true) :
    socket ∈ plan.deferredIn ∨ socket ∈ plan.deferredOwned := by
  obtain ⟨beanKnown, here⟩ := (wellFormed.beans id survives.known bean).mp listed
  obtain ⟨known, owner⟩ := (wellFormed.beanSockets bean beanKnown socket).mp owned
  have wiring : model.wiringModule? socket = some id := by simp [wiringModule?, owner, here]
  obtain ⟨wire, found, wired⟩ := survives.exists_wire wellFormed known wiring
  obtain ⟨isWire, rfl⟩ := WireSet.get?_eq_some.mp found
  obtain ⟨edge, member, isDeferred, isBean⟩ := exists_deferred isWire
    (wired.isLazy.trans isLazy) owner (here.symm ▸ survives.kept wellFormed)
  have above := (isDeferred.anchored wellFormed).1
  rw [isBean, here] at above
  by_cases isAnchor : edge.anchor = id
  · exact .inr ((mem_deferredOwned planned).mpr ⟨edge, member, isAnchor, isDeferred.socket⟩)
  · refine .inl ((mem_deferredIn planned).mpr
      ⟨edge, member, isAnchor, above, ?_, isDeferred.socket⟩)
    rw [isBean, here]
    exact WellFormed.isWithin_self _

/-- A cell that a child takes is handed in or made. -/
theorem child_cell {id child : ModuleId} (known : child ∈ model.moduleIds)
    (isChild : model.parent child = some id) {plan childPlan : ModulePlan}
    (planned : model.Planned id plan) (childPlanned : model.Planned child childPlan)
    {socket : SocketId} (listed : socket ∈ childPlan.deferredIn) :
    socket ∈ plan.deferredIn ∨ socket ∈ plan.deferredOwned := by
  obtain ⟨edge, member, notChild, above, inside, rfl⟩ := (mem_deferredIn childPlanned).mp listed
  have idAbove := ((wellFormed.isWithin_of_parent known isChild).mp above).resolve_left
    (fun same => notChild same.symm)
  by_cases isAnchor : edge.anchor = id
  · exact .inr ((mem_deferredOwned planned).mpr ⟨edge, member, isAnchor, rfl⟩)
  · obtain ⟨wire, isDeferred⟩ := isDeferred_of_mem member
    have beanKnown := (wellFormed.owner_bean _
      (wellFormed.wired_of_mem isDeferred.member).choose_spec.2.known _ isDeferred.owner).1
    exact .inl ((mem_deferredIn planned).mpr ⟨edge, member, isAnchor, idAbove,
      wellFormed.isWithin_trans (wellFormed.bean_module _ beanKnown) inside
        (wellFormed.isWithin_parent known isChild), rfl⟩)

end Cells

/-! ## Sockets -/

/-- A socket of one of the units of a module. When it is lazy its cell is at hand. -/
structure UnitSocket (model : Model) (id : ModuleId) (plan : ModulePlan) (socket : SocketId) :
    Prop where
  known : socket ∈ model.socketIds
  wiring : model.wiringModule? socket = some id
  cell : (model.socket socket).isLazy = true →
    socket ∈ plan.deferredIn ∨ socket ∈ plan.deferredOwned

section UnitSockets

variable (wellFormed : model.WellFormed) {id : ModuleId} (survives : model.Survives id)
  {plan : ModulePlan}

include wellFormed survives

theorem unitSocket_of_bean (planned : model.Planned id plan) {bean : BeanId}
    (listed : bean ∈ (model.module id).beans) {socket : SocketId}
    (owned : socket ∈ (model.bean bean).sockets) : model.UnitSocket id plan socket := by
  obtain ⟨beanKnown, here⟩ := (wellFormed.beans id survives.known bean).mp listed
  obtain ⟨known, owner⟩ := (wellFormed.beanSockets bean beanKnown socket).mp owned
  exact ⟨known, by simp [wiringModule?, owner, here],
    own_cell wellFormed survives planned listed owned⟩

theorem unitSocket_of_child {child : ModuleId} (listed : child ∈ (model.module id).children)
    {socket : SocketId} (declared : socket ∈ (model.module child).sockets) :
    model.UnitSocket id plan socket := by
  obtain ⟨childKnown, isChild⟩ := (wellFormed.children id survives.known child).mp listed
  obtain ⟨known, owner⟩ := (wellFormed.moduleSockets child childKnown socket).mp declared
  refine ⟨known, by rw [wiringModule?, owner]; exact isChild, fun isLazy => ?_⟩
  have childSurvives := survives.child wellFormed childKnown isChild
  rw [(childSurvives.sound wellFormed).inputNotLazy socket declared] at isLazy
  cases isLazy

end UnitSockets

/-! ## Providers -/

/-- How the constructor of a module reaches a provider: as an input, as a bean of its
own, as a public bean of a child, or as an import. -/
inductive Reached (model : Model) (id : ModuleId) (plan : ModulePlan) : Provider → Prop
  | input {socket : SocketId} : socket ∈ (model.module id).sockets →
      Reached model id plan (.socket socket)
  | own {bean : BeanId} : bean ∈ (model.module id).beans → Reached model id plan (.bean bean)
  | child {bean : BeanId} : bean ∈ model.beanIds →
      model.parent (model.bean bean).module = some id → (model.bean bean).isPublic = true →
      Reached model id plan (.bean bean)
  | imported {bean : BeanId} : bean ∈ plan.imports →
      model.isWithin (model.bean bean).module id = false → Reached model id plan (.bean bean)

section Reached

variable (wellFormed : model.WellFormed) {id : ModuleId} (survives : model.Survives id)
  {plan : ModulePlan}

include wellFormed survives

theorem InReach.reached {target : Provider} (inReach : model.InReach id target)
    (imported : ∀ bean, target = .bean bean →
      model.isWithin (model.bean bean).module id = false → bean ∈ plan.imports) :
    model.Reached id plan target := by
  cases target with
  | socket socket =>
      have here : (model.socket socket).module = id := by
        by_contra different
        exact absurd (inReach.isPublic different) (by simp [isPublicBean])
      exact .input ((wellFormed.moduleSockets id survives.known socket).mpr
        ⟨inReach.offered.1, here ▸ inReach.offered.2⟩)
  | bean bean =>
      have known : bean ∈ model.beanIds := inReach.offered
      have place := wellFormed.bean_module bean known
      rcases inReach.kin.place wellFormed survives.known place with here | isChild | ⟨_, apart⟩
      · exact .own ((wellFormed.beans id survives.known bean).mpr ⟨known, here⟩)
      · exact .child known isChild (inReach.isPublic (wellFormed.ne_of_parent place isChild))
      · exact .imported (imported bean rfl apart) apart

variable (planned : model.Planned id plan)

include planned

/-- What a socket of one of the units needs at once is reached. -/
theorem reached_target {wire : Wire} (isWire : wire ∈ model.wires.wires)
    (wired : model.Wired id wire) (eager : wire.isLazy = false) {target : Provider}
    (listed : target ∈ wire.targets) : model.Reached id plan target := by
  have edge := wellFormed.mem_edges.mpr ⟨wire, isWire, target, listed, rfl⟩
  have suits := wired.suits target listed
  refine suits.toInReach.reached wellFormed survives ?_
  rintro bean rfl apart
  exact mem_imports_of_edge wellFormed planned edge eager
    (unit_of_requirer wellFormed wired.known wired.wiring) rfl suits.offered apart

/-- What a child imports is reached. -/
theorem reached_import {child : ModuleId} (childSurvives : model.Survives child)
    (isChild : model.parent child = some id) {childPlan : ModulePlan}
    (childPlanned : model.Planned child childPlan) {bean : BeanId}
    (listed : bean ∈ childPlan.imports) : model.Reached id plan (.bean bean) := by
  obtain ⟨known, apart, _⟩ := (mem_imports wellFormed childPlanned).mp listed
  have childReach := (import_inReach wellFormed childSurvives childPlanned listed).1
  have inReach : model.InReach id (.bean bean) := by
    refine ⟨known, ?_, fun _ => childReach.isPublic (WellFormed.ne_of_not_isWithin apart)⟩
    rcases import_outside wellFormed childSurvives childPlanned listed with
      ⟨different, above⟩ | wired
    · have within := ((wellFormed.isWithin_of_parent childSurvives.known isChild).mp
        above).resolve_left fun same => different same.symm
      by_cases here : (model.bean bean).module = id
      · exact (show model.providerModule (.bean bean) = id from here) ▸ .own
      · exact .above here within
    · have siblings := (wellFormed.wired child childSurvives.known _ wired).2.2
      exact .child (siblings.trans isChild)
  refine inReach.reached wellFormed survives ?_
  rintro other same outside
  cases same
  obtain ⟨edge, member, eager, isTarget, isUnit⟩ :=
    child_import_edge wellFormed isChild childPlanned listed
  exact mem_imports_of_edge wellFormed planned member eager isUnit isTarget known outside

/-- What the cells of a module are filled with is reached. -/
theorem reached_deferred {edge : DeferredEdge} (member : edge ∈ model.finalPlan.deferred)
    (isAnchor : edge.anchor = id) {target : Provider} (isTarget : edge.target = some target) :
    model.Reached id plan target := by
  obtain ⟨wire, isDeferred⟩ := isDeferred_of_mem member
  have inReach : model.InReach id target :=
    isAnchor ▸ ((isDeferred.anchored wellFormed).2 target isTarget).1
  refine inReach.reached wellFormed survives ?_
  rintro bean rfl apart
  exact (mem_imports wellFormed planned).mpr ⟨inReach.offered, apart, .inr
    (isPatched_iff.mpr ⟨edge, member, isAnchor, isTarget⟩)⟩

omit planned in
/-- A cell is not filled with a collection. -/
theorem deferred_notMany {edge : DeferredEdge} (member : edge ∈ model.finalPlan.deferred)
    (isAnchor : edge.anchor = id) {target : Provider} (isTarget : edge.target = some target) :
    model.providerCardinality target ≠ .many := by
  obtain ⟨wire, isDeferred⟩ := isDeferred_of_mem member
  obtain ⟨scope, _, wired⟩ := wellFormed.wired_of_mem isDeferred.member
  obtain ⟨beanKnown, _⟩ := wellFormed.owner_bean _ wired.known _ isDeferred.owner
  have place := wellFormed.bean_module _ beanKnown
  have owned := (wellFormed.beanSockets _ beanKnown wire.socket).mpr
    ⟨wired.known, isDeferred.owner⟩
  have beanSurvives := survives.within wellFormed place
    (isAnchor ▸ (isDeferred.anchored wellFormed).1)
  have notSeveral := (beanSurvives.sound wellFormed).lazyNotSeveral _
    ((wellFormed.beans _ place _).mpr ⟨beanKnown, rfl⟩) _ owned
    (wired.isLazy.symm.trans isDeferred.isLazy)
  have listed : target ∈ wire.targets := List.mem_of_mem_head? (isDeferred.target ▸ isTarget)
  have accepted := (wired.suits target listed).accepted
  cases multiplicity : (model.socket wire.socket).multiplicity with
  | single =>
      intro many
      rw [multiplicity, many] at accepted
      cases accepted
  | optional =>
      intro many
      rw [multiplicity, many] at accepted
      cases accepted
  | collection => exact absurd multiplicity notSeveral

end Reached

end StaticInjection.Model
