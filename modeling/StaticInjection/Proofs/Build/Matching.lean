import StaticInjection.Proofs.Build.Silence
import StaticInjection.Proofs.Wire.Matching

/-! # Builds of matching models

When a build finds nothing wrong with a model, it finds nothing wrong with any model that
matches, and wires it alike. -/

namespace StaticInjection.Relabelling

def unit (labels : Relabelling) : PlanStep → PlanStep
  | .bean id => .bean (labels.bean id)
  | .module id => .module (labels.module id)

theorem elementBefore_map {label : ModuleId → ModuleId} {target : ModuleId} {items : List ModuleId}
    (apart : ∀ item ∈ items, label item = label target → item = target) :
    Model.elementBefore (label target) (items.map label) =
      (Model.elementBefore target items).map label := by
  induction items with
  | nil => rfl
  | cons first rest induction =>
      have later := induction fun item listed => apart item (List.mem_cons_of_mem _ listed)
      cases rest with
      | nil => rfl
      | cons second rest =>
          have same : label second = label target ↔ second = target :=
            ⟨apart second (by simp), congrArg label⟩
          simp only [List.map_cons, Model.elementBefore, same] at later ⊢
          split
          · rfl
          · exact later

/-- Steps from labels lead to labels along steps, and so do paths. -/
theorem exists_path {step : α → α → Prop} {labelStep : β → β → Prop} {known : α → Prop}
    {label : α → β} (steps : ∀ source, known source → ∀ other, labelStep (label source) other →
      ∃ target, known target ∧ label target = other ∧ step source target)
    {source : α} (sourceKnown : known source) {last : β}
    (path : Relation.TransGen labelStep (label source) last) :
    ∃ target, known target ∧ label target = last ∧ Relation.TransGen step source target := by
  induction path with
  | single first =>
      obtain ⟨target, targetKnown, same, isStep⟩ := steps source sourceKnown _ first
      exact ⟨target, targetKnown, same, .single isStep⟩
  | tail _ next induction =>
      obtain ⟨middle, middleKnown, rfl, path⟩ := induction
      obtain ⟨target, targetKnown, same, isStep⟩ := steps middle middleKnown _ next
      exact ⟨target, targetKnown, same, path.tail isStep⟩

/-- Locals with the same names, for sockets and for their counterparts. -/
theorem locals_perm (labels : Relabelling) {label : α → β} {items : List α} {others : List β}
    (perm : others.Perm (items.map label))
    (socketsOf : α → List SocketId) (otherSocketsOf : β → List SocketId)
    (localOf : α → SocketId → Code.Local) (otherLocalOf : β → SocketId → Code.Local)
    (sockets : ∀ item ∈ items, otherSocketsOf (label item) = (socketsOf item).map labels.socket)
    (same : ∀ item ∈ items, ∀ socket ∈ socketsOf item,
      otherLocalOf (label item) (labels.socket socket) = localOf item socket) :
    (others.flatMap fun other => (otherSocketsOf other).map fun socket =>
      (otherLocalOf other socket, socket)).Perm
      ((items.flatMap fun item => (socketsOf item).map fun socket =>
        (localOf item socket, socket)).map fun entry => (entry.1, labels.socket entry.2)) := by
  rw [List.map_flatMap]
  refine flatMap_perm perm fun item listed => .of_eq ?_
  rw [sockets item listed, List.map_map, List.map_map]
  exact List.map_congr_left fun socket held => Prod.ext (same item listed socket held) rfl

namespace Matches

open Model

variable {labels : Relabelling} {left right : Model} (matched : labels.Matches left right)
  (leftFormed : left.WellFormed) (rightFormed : right.WellFormed)

include matched leftFormed rightFormed

section Silent

variable (silent : left.Silent)

include silent

/-! ## Wires -/

/-- A socket that is resolved somewhere has a wire, and so has its counterpart. -/
theorem wires_label {id : SocketId} (inside : id ∈ left.socketIds) {scope : ModuleId}
    (wiring : left.wiringModule? id = some scope) :
    ∃ wire other, left.wires.get? id = some wire ∧
      right.wires.get? (labels.socket id) = some other ∧ labels.WireMatches wire other := by
  have known := leftFormed.wiringModule?_known inside wiring
  obtain ⟨wire, resolved⟩ := silent.resolved id inside scope wiring
  obtain ⟨other, found, same⟩ := matched.resolve_label leftFormed rightFormed known
    (silent.providers scope known) inside resolved
  have rightWiring := matched.wiringModule?_label leftFormed inside
  rw [wiring, Option.map_some] at rightWiring
  refine ⟨wire, other, ?_, ?_, same⟩
  · rw [leftFormed.get?_wires inside wiring, resolveSocket, resolved]
    rfl
  · rw [rightFormed.get?_wires (matched.socket_known inside) rightWiring, resolveSocket, found]
    rfl

/-- Every wire is that of a counterpart. -/
theorem exists_wire_label {other : Wire} (member : other ∈ right.wires.wires) :
    ∃ wire ∈ left.wires.wires, labels.WireMatches wire other := by
  obtain ⟨_, _, otherInside, wiring, _⟩ := rightFormed.mem_wires.mp member
  obtain ⟨id, inside, same⟩ := matched.exists_socket otherInside
  rw [← same, matched.wiringModule?_label leftFormed inside] at wiring
  obtain ⟨scope, isScope, _⟩ := Option.map_eq_some_iff.mp wiring
  obtain ⟨wire, counterpart, found, otherFound, matching⟩ :=
    matched.wires_label leftFormed rightFormed silent inside isScope
  rw [same, WireSet.get?_eq_some.mpr ⟨member, rfl⟩] at otherFound
  cases otherFound
  exact ⟨wire, (WireSet.get?_eq_some.mp found).1, matching⟩

/-! ## Needs -/

/-- An edge that leaves a counterpart is that of a counterpart. -/
theorem exists_edge_label {other : Dependency} (member : other ∈ right.graph.edges) :
    ∃ edge ∈ left.graph.edges, left.Offers edge.source ∧ left.Offers edge.target ∧
      other.source = labels.provider edge.source ∧ other.target = labels.provider edge.target ∧
      other.isLazy = edge.isLazy := by
  obtain ⟨counterpart, isWire, target, listed, rfl⟩ := rightFormed.mem_edges.mp member
  obtain ⟨wire, wireMember, same⟩ := matched.exists_wire_label leftFormed rightFormed silent isWire
  obtain ⟨provider, inside, rfl⟩ := List.mem_map.mp (same.targets.mem_iff.mp listed)
  obtain ⟨scope, _, wired⟩ := leftFormed.wired_of_mem wireMember
  refine ⟨left.wireEdge wire provider,
    leftFormed.mem_edges.mpr ⟨wire, wireMember, provider, inside, rfl⟩,
    leftFormed.offers_requirer wired.known, (wired.suits provider inside).offered, ?_, rfl, same.isLazy⟩
  exact (congrArg right.requirer same.socket).trans (matched.requirer_label wired.known)

/-- What a counterpart needs is a counterpart of what is needed. -/
theorem needs_label {source : Provider} (offered : left.Offers source) {other : Provider}
    (needs : right.graph.Needs (labels.provider source) other) :
    ∃ target, left.Offers target ∧ labels.provider target = other ∧
      left.graph.Needs source target := by
  obtain ⟨edge, member, eager, isSource, rfl⟩ := needs
  obtain ⟨counterpart, isEdge, sourceOffered, targetOffered, source', target', isLazy⟩ :=
    matched.exists_edge_label leftFormed rightFormed silent member
  refine ⟨counterpart.target, targetOffered, target'.symm, counterpart, isEdge,
    isLazy.symm.trans eager, ?_, rfl⟩
  exact matched.provider_injective rightFormed sourceOffered offered (source'.symm.trans isSource)

theorem cycles_label (leftLaid : left.graph.Laid) (rightLaid : right.graph.Laid) :
    right.graph.cycles = [] := by
  refine rightLaid.cycles_eq_nil_iff.mpr fun other circle => ?_
  obtain ⟨next, first, _⟩ := Relation.TransGen.head'_iff.mp circle
  obtain ⟨node, offered, rfl⟩ := matched.exists_provider leftFormed
    (rightFormed.mem_graphNodes.mp (rightLaid.needs_mem first).1)
  obtain ⟨again, againOffered, same, path⟩ := exists_path
    (fun _ offered _ => matched.needs_label leftFormed rightFormed silent offered) offered circle
  rw [matched.provider_injective rightFormed againOffered offered same] at path
  exact leftLaid.cycles_eq_nil_iff.mp silent.cycles node path

/-! ## Units -/

omit silent in
theorem unitOf?_label {id : ModuleId} (known : id ∈ left.moduleIds) {node : Provider}
    (offered : left.Offers node) :
    right.unitOf? (labels.module id) (labels.provider node) =
      (left.unitOf? id node).map labels.unit := by
  have moduleKnown := leftFormed.providerModule_known offered
  have same : labels.module (left.providerModule node) = labels.module id ↔
      left.providerModule node = id :=
    ⟨matched.module_injective rightFormed moduleKnown known, congrArg _⟩
  have child : right.childContaining? (labels.module id)
      (labels.module (left.providerModule node)) =
        (left.childContaining? id (left.providerModule node)).map labels.module := by
    unfold childContaining?
    simp only [same, matched.lineage_label moduleKnown]
    split
    · rfl
    · exact elementBefore_map fun above listed equal => matched.module_injective rightFormed
        (leftFormed.isWithin_known moduleKnown (WellFormed.mem_lineage.mp listed)) known equal
  unfold unitOf?
  rw [matched.providerModule_label offered, child]
  simp only [same]
  split
  · cases node <;> rfl
  · rw [Option.map_map, Option.map_map]
    rfl

omit silent in
theorem unit_injective {id : ModuleId} (known : id ∈ left.moduleIds) {first second : PlanStep}
    (firstInside : first ∈ left.units id) (secondInside : second ∈ left.units id)
    (same : labels.unit first = labels.unit second) : first = second := by
  cases first with
  | bean first =>
      cases second with
      | module second => cases same
      | bean second =>
          rw [matched.bean_injective rightFormed ((mem_units_bean leftFormed known).mp firstInside).1
            ((mem_units_bean leftFormed known).mp secondInside).1 (PlanStep.bean.inj same)]
  | module first =>
      cases second with
      | bean second => cases same
      | module second =>
          rw [matched.module_injective rightFormed
            ((mem_units_module leftFormed known).mp firstInside).1
            ((mem_units_module leftFormed known).mp secondInside).1 (PlanStep.module.inj same)]

omit silent leftFormed rightFormed in
theorem units_label {id : ModuleId} (known : id ∈ left.moduleIds) :
    (right.units (labels.module id)).Perm ((left.units id).map labels.unit) := by
  rw [units, units, List.map_append, List.map_map, List.map_map]
  exact List.Perm.append (map_perm (matched.beans_label known) fun _ _ => rfl)
    (map_perm (matched.children_label known) fun _ _ => rfl)

theorem neededUnits_label {id : ModuleId} (known : id ∈ left.moduleIds) {unit : PlanStep}
    (inside : unit ∈ left.units id) {other : PlanStep}
    (needed : other ∈ right.neededUnits (labels.module id) (labels.unit unit)) :
    ∃ need ∈ left.units id, labels.unit need = other ∧ need ∈ left.neededUnits id unit := by
  obtain ⟨edge, member, eager, source, target, different⟩ := mem_neededUnits.mp needed
  obtain ⟨counterpart, isEdge, sourceOffered, targetOffered, source', target', isLazy⟩ :=
    matched.exists_edge_label leftFormed rightFormed silent member
  rw [source', matched.unitOf?_label leftFormed rightFormed known sourceOffered] at source
  rw [target', matched.unitOf?_label leftFormed rightFormed known targetOffered] at target
  obtain ⟨first, isFirst, sameUnit⟩ := Option.map_eq_some_iff.mp source
  obtain ⟨need, isNeed, rfl⟩ := Option.map_eq_some_iff.mp target
  -- Labels tell units apart, so the edge leaves the unit itself.
  have firstInside := unitOf?_mem_units leftFormed known sourceOffered isFirst
  obtain rfl := matched.unit_injective leftFormed rightFormed known firstInside inside sameUnit
  exact ⟨need, unitOf?_mem_units leftFormed known targetOffered isNeed, rfl,
    mem_neededUnits.mpr ⟨counterpart, isEdge, isLazy.symm.trans eager, isFirst, isNeed,
      fun same => different (congrArg _ same)⟩⟩

theorem noCircle_label {id : ModuleId} (known : id ∈ left.moduleIds) :
    ¬ Schedule.HasCircle (right.neededUnits (labels.module id)) (right.units (labels.module id)) := by
  rintro ⟨other, listed, circle⟩
  obtain ⟨unit, inside, rfl⟩ :=
    List.mem_map.mp ((matched.units_label known).mem_iff.mp listed)
  have steps : ∀ source, source ∈ left.units id → ∀ other,
      other ∈ right.neededUnits (labels.module id) (labels.unit source) →
        ∃ target, target ∈ left.units id ∧ labels.unit target = other ∧
          target ∈ left.neededUnits id source :=
    fun _ inside _ => matched.neededUnits_label leftFormed rightFormed silent known inside
  obtain ⟨again, againInside, same, path⟩ := exists_path steps inside circle
  rw [matched.unit_injective leftFormed rightFormed known againInside inside same] at path
  exact silent.units id known ⟨unit, inside, path⟩

end Silent

/-! ## Modules that can be generated -/

section Emission

variable {id : ModuleId} (known : id ∈ left.moduleIds)

include known

omit rightFormed

theorem memberNames_label :
    (right.memberNames (right.module (labels.module id))).Perm
      (left.memberNames (left.module id)) := by
  refine List.Perm.append (flatMap_perm (matched.beans_label known) fun bean listed => .of_eq ?_)
    (map_perm (matched.children_label known) fun child listed => ?_)
  · exact matched.read_bean ((leftFormed.beans id known bean).mp listed).1 Bean.memberNames
      fun _ _ => rfl
  · rw [matched.name_label ((leftFormed.children id known child).mp listed).1]

/-- The locals of a counterpart gather for counterparts. -/
theorem gatheredLocals_label :
    (right.gatheredLocals (right.module (labels.module id))).Perm
      ((left.gatheredLocals (left.module id)).map fun entry =>
        (entry.1, labels.socket entry.2)) := by
  have name : ∀ socket ∈ left.socketIds,
      (right.socket (labels.socket socket)).name = (left.socket socket).name :=
    fun socket inside => matched.read_socket inside (·.name) fun _ => rfl
  have beanKnown : ∀ bean ∈ (left.module id).beans, bean ∈ left.beanIds :=
    fun bean listed => ((leftFormed.beans id known bean).mp listed).1
  have beanSocket : ∀ bean ∈ (left.module id).beans, ∀ socket ∈ (left.bean bean).sockets,
      socket ∈ left.socketIds := fun bean listed socket held =>
    ((leftFormed.beanSockets bean (beanKnown bean listed) socket).mp held).1
  have childKnown : ∀ child ∈ (left.module id).children, child ∈ left.moduleIds :=
    fun child listed => ((leftFormed.children id known child).mp listed).1
  have childSocket : ∀ child ∈ (left.module id).children, ∀ socket ∈ (left.module child).sockets,
      socket ∈ left.socketIds := fun child listed socket held =>
    ((leftFormed.moduleSockets child (childKnown child listed) socket).mp held).1
  have ofBeans := labels.locals_perm (matched.beans_label known)
    (fun bean => (left.bean bean).sockets) (fun bean => (right.bean bean).sockets)
    (fun bean socket => gatheredLocal (left.bean bean) (left.socket socket))
    (fun bean socket => gatheredLocal (right.bean bean) (right.socket socket))
    (fun bean listed => matched.beanSockets_label (beanKnown bean listed))
    fun bean listed socket held => by
      rw [gatheredLocal, gatheredLocal, matched.beanName_label (beanKnown bean listed),
        name socket (beanSocket bean listed socket held)]
  have ofChildren := labels.locals_perm (matched.children_label known)
    (fun child => (left.module child).sockets) (fun child => (right.module child).sockets)
    (fun child socket => childGatheredLocal (left.module child) (left.socket socket))
    (fun child socket => childGatheredLocal (right.module child) (right.socket socket))
    (fun child listed => matched.sockets_label (childKnown child listed))
    fun child listed socket held => by
      rw [childGatheredLocal, childGatheredLocal, matched.name_label (childKnown child listed),
        name socket (childSocket child listed socket held)]
  have both := ofBeans.append ofChildren
  rw [← List.map_append] at both
  refine filter_perm both fun entry listed => ?_
  have inside : entry.2 ∈ left.socketIds := by
    simp only [List.mem_append, List.mem_flatMap, List.mem_map] at listed
    rcases listed with ⟨bean, listed, socket, held, rfl⟩ | ⟨child, listed, socket, held, rfl⟩
    · exact beanSocket bean listed socket held
    · exact childSocket child listed socket held
  exact matched.read_socket inside (fun row => row.multiplicity == .collection && !row.isLazy)
    fun _ => rfl

theorem emittable_label (emittable : left.Emittable (left.module id)) :
    right.Emittable (right.module (labels.module id)) where
  inputTypes other listed := by
    rw [matched.sockets_label known] at listed
    obtain ⟨socket, held, rfl⟩ := List.mem_map.mp listed
    have inside := ((leftFormed.moduleSockets id known socket).mp held).1
    exact (matched.read_socket inside (typeFault? false ·.requiredType) fun _ => rfl).trans
      (emittable.inputTypes socket held)
  beanTypes other listed := by
    obtain ⟨bean, held, rfl⟩ := List.mem_map.mp ((matched.beans_label known).mem_iff.mp listed)
    have beanKnown := ((leftFormed.beans id known bean).mp held).1
    exact (matched.read_bean beanKnown (fun row => (typeFault? true row.declaredType).toList ++
        (row.provides.drop 1).filterMap (typeFault? false) ++
        (row.factory.bind factoryFault?).toList) fun _ _ => rfl).trans
      (emittable.beanTypes bean held)
  socketTypes other listed socket heldThere := by
    obtain ⟨bean, held, rfl⟩ := List.mem_map.mp ((matched.beans_label known).mem_iff.mp listed)
    have beanKnown := ((leftFormed.beans id known bean).mp held).1
    rw [matched.beanSockets_label beanKnown] at heldThere
    obtain ⟨socket, socketHeld, rfl⟩ := List.mem_map.mp heldThere
    have inside := ((leftFormed.beanSockets bean beanKnown socket).mp socketHeld).1
    exact (matched.read_socket inside (typeFault? false ·.requiredType) fun _ => rfl).trans
      (emittable.socketTypes bean held socket socketHeld)
  memberNames := (matched.memberNames_label leftFormed known).nodup_iff.mpr emittable.memberNames
  memberNamesFree name listed := emittable.memberNamesFree name
    ((matched.memberNames_label leftFormed known).mem_iff.mp listed)
  gatheredLocals := by
    exact (map_perm (matched.gatheredLocals_label leftFormed known) fun _ _ => rfl).nodup_iff.mpr
      emittable.gatheredLocals

end Emission

/-! ## Whole builds -/

/-- What is silent is silent under other labels. -/
theorem silent_label (leftLaid : left.graph.Laid) (rightLaid : right.graph.Laid)
    (silent : left.Silent) : right.Silent where
  faultless := matched.faultless leftFormed rightFormed silent.faultless
  providers other otherKnown := by
    obtain ⟨scope, known, rfl⟩ := matched.exists_module otherKnown
    exact (matched.candidateKeys_label leftFormed rightFormed known).nodup_iff.mpr
      (silent.providers scope known)
  resolved other otherKnown scope wiring := by
    obtain ⟨id, inside, rfl⟩ := matched.exists_socket otherKnown
    rw [matched.wiringModule?_label leftFormed inside] at wiring
    obtain ⟨scope, isScope, rfl⟩ := Option.map_eq_some_iff.mp wiring
    have known := leftFormed.wiringModule?_known inside isScope
    obtain ⟨wire, resolved⟩ := silent.resolved id inside scope isScope
    obtain ⟨counterpart, found, _⟩ := matched.resolve_label leftFormed rightFormed known
      (silent.providers scope known) inside resolved
    exact ⟨counterpart, found⟩
  cycles := matched.cycles_label leftFormed rightFormed silent leftLaid rightLaid
  units other otherKnown := by
    obtain ⟨id, known, rfl⟩ := matched.exists_module otherKnown
    exact matched.noCircle_label leftFormed rightFormed silent known
  emittable other otherKnown := by
    obtain ⟨id, known, rfl⟩ := matched.exists_module otherKnown
    exact matched.emittable_label leftFormed known (silent.emittable id known)

end Matches

end StaticInjection.Relabelling
