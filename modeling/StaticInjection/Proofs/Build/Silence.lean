import StaticInjection.Proofs.Build.Cycle
import StaticInjection.Proofs.Model.Faultless
import StaticInjection.Proofs.Plan.Roots
import StaticInjection.Proofs.Wire.Selection

/-! # Builds that report nothing

A build reports nothing exactly when none of its stages finds anything. What a stage
finds is said without the order in which it goes through a model: no key is taken twice
in reach of a module, every socket resolves, needs make no circle, and no name comes
twice in generated code. -/

namespace StaticInjection

namespace Model

variable {model : Model}

/-! ## Sockets that resolve -/

namespace WellFormed

variable (wellFormed : model.WellFormed)

include wellFormed

theorem resolveModule_silent_iff {scope : ModuleId} (known : scope ∈ model.moduleIds) :
    (model.resolveModule scope).diagnostics = [] ↔
      ∀ id ∈ model.socketIds, model.wiringModule? id = some scope →
        ∃ wire, model.resolve (model.index scope) (model.excludedFor id) id = .ok wire := by
  constructor
  · intro silent id inside wiring
    obtain ⟨wire, found, _⟩ := wellFormed.exists_wire known silent inside wiring
    rw [wellFormed.get?_wires inside wiring, resolveSocket] at found
    cases resolved : model.resolve (model.index scope) (model.excludedFor id) id with
    | ok wire => exact ⟨wire, rfl⟩
    | error failure => simp [resolved, Except.mapError, Except.toOption] at found
  · intro resolves
    refine List.eq_nil_iff_forall_not_mem.mpr fun diagnostic reported => ?_
    obtain ⟨⟨socket, excluded⟩, entry, failure, failed, _⟩ :=
      mem_resolveModule_diagnostics.mp reported
    obtain ⟨inside, wiring, rfl⟩ := (wellFormed.mem_socketsResolvedIn known).mp entry
    obtain ⟨wire, resolved⟩ := resolves socket inside wiring
    rw [resolved] at failed
    cases failed

end WellFormed

/-! ## Modules that can be generated -/

/-- What the checks before the generation of a module ask for. -/
structure Emittable (model : Model) (module : Module) : Prop where
  inputTypes : ∀ socket ∈ module.sockets,
    typeFault? false (model.socket socket).requiredType = none
  beanTypes : ∀ id ∈ module.beans,
    (typeFault? true (model.bean id).declaredType).toList ++
      ((model.bean id).provides.drop 1).filterMap (typeFault? false) ++
      ((model.bean id).factory.bind factoryFault?).toList = []
  socketTypes : ∀ id ∈ module.beans, ∀ socket ∈ (model.bean id).sockets,
    typeFault? false (model.socket socket).requiredType = none
  memberNames : (model.memberNames module).Nodup
  memberNamesFree : ∀ name ∈ model.memberNames module, name ∉ fixedMembers
  gatheredLocals : ((model.gatheredLocals module).map fun entry => entry.1.text).Nodup

@[simp] theorem emissionReports_eq_nil {id : ModuleId} {location : Location}
    {faults : List EmissionFault} : emissionReports id location faults = [] ↔ faults = [] :=
  List.map_eq_nil_iff

theorem memberReports_eq_nil_iff {module : Module} : model.memberReports module = [] ↔
    (model.memberNames module).Nodup ∧ ∀ name ∈ model.memberNames module, name ∉ fixedMembers := by
  rw [memberReports, flatMap_eq_nil_of_ne fun _ => by simp [emissionReports],
    repeatedItems_eq_nil_iff, List.map_id]
  rfl

theorem gatheredReports_eq_nil_iff {module : Module} : model.gatheredReports module = [] ↔
    ((model.gatheredLocals module).map fun entry => entry.1.text).Nodup := by
  rw [gatheredReports, flatMap_eq_nil_of_ne fun _ => by simp [emissionReports],
    repeatedItems_eq_nil_iff]
  exact and_iff_left fun _ _ => List.not_mem_nil

theorem emissionFaults_eq_nil_iff {id : ModuleId} :
    model.emissionFaults id = [] ↔ model.Emittable (model.module id) := by
  simp only [emissionFaults, List.append_eq_nil_iff, List.flatMap_eq_nil_iff, socketTypeReports,
    beanTypeReports, emissionReports_eq_nil, Option.toList_eq_nil_iff, memberReports_eq_nil_iff,
    gatheredReports_eq_nil_iff]
  constructor
  · rintro ⟨⟨⟨inputs, beans⟩, members⟩, gathered⟩
    exact ⟨inputs, fun bean listed => by simpa [and_assoc] using (beans bean listed).1,
      fun bean listed => (beans bean listed).2, members.1, members.2, gathered⟩
  · intro emittable
    refine ⟨⟨⟨emittable.inputTypes, fun bean listed => ⟨?_, emittable.socketTypes bean listed⟩⟩,
      emittable.memberNames, emittable.memberNamesFree⟩, emittable.gatheredLocals⟩
    simpa [and_assoc] using emittable.beanTypes bean listed

/-! ## Builds -/

/-- Nothing is found by any stage of a build. -/
structure Silent (model : Model) : Prop where
  faultless : model.Faultless
  providers : ∀ scope ∈ model.moduleIds, ((model.visible scope).map model.candidateKey).Nodup
  resolved : ∀ id ∈ model.socketIds, ∀ scope, model.wiringModule? id = some scope →
    ∃ wire, model.resolve (model.index scope) (model.excludedFor id) id = .ok wire
  cycles : model.graph.cycles = []
  units : ∀ id ∈ model.moduleIds,
    ¬ Schedule.HasCircle (model.neededUnits id) (model.units id)
  emittable : ∀ id ∈ model.moduleIds, model.Emittable (model.module id)

section Silent

variable (wellFormed : model.WellFormed)

include wellFormed

theorem wireDiagnostics_eq_nil_iff {wires : WireSet}
    (laid : (model.dependencyGraph wires).Laid) :
    model.wireDiagnostics wires = [] ↔ (model.dependencyGraph wires).cycles = [] := by
  constructor
  · intro silent
    refine List.eq_nil_iff_forall_not_mem.mpr fun cycle listed => ?_
    have isCycle := laid.isCycle_of_mem listed
    obtain ⟨node, member⟩ := List.exists_mem_of_ne_nil _ isCycle.component.nonempty
    have owner := (wellFormed.mem_cycleModules isCycle).mpr ⟨node, member, rfl⟩
    have reported := List.flatMap_eq_nil_iff.mp silent cycle listed
    rw [cycleReports, List.map_eq_nil_iff] at reported
    rw [reported] at owner
    cases owner
  · intro none
    rw [wireDiagnostics, none]
    rfl

theorem reportedBeforePlan_eq_nil_iff (laid : model.graph.Laid) :
    model.reportedBeforePlan = [] ↔ model.Faultless ∧
      (∀ scope ∈ model.moduleIds, ((model.visible scope).map model.candidateKey).Nodup) ∧
      (∀ id ∈ model.socketIds, ∀ scope, model.wiringModule? id = some scope →
        ∃ wire, model.resolve (model.index scope) (model.excludedFor id) id = .ok wire) ∧
      model.graph.cycles = [] := by
  have providers : model.duplicates = [] ↔
      ∀ scope ∈ model.moduleIds, ((model.visible scope).map model.candidateKey).Nodup := by
    simp only [duplicates, List.flatMap_eq_nil_iff, duplicateReports_eq_nil_iff, moduleIds,
      List.forall_mem_map]
  have resolved : model.resolutions.flatMap (·.diagnostics) = [] ↔
      ∀ id ∈ model.socketIds, ∀ scope, model.wiringModule? id = some scope →
        ∃ wire, model.resolve (model.index scope) (model.excludedFor id) id = .ok wire := by
    simp only [resolutions, List.flatMap_eq_nil_iff, List.forall_mem_map]
    constructor
    · intro silent id inside scope wiring
      have known := wellFormed.wiringModule?_known inside wiring
      exact (wellFormed.resolveModule_silent_iff known).mp (silent scope known) id inside wiring
    · intro resolves scope known
      exact (wellFormed.resolveModule_silent_iff known).mpr
        fun id inside wiring => resolves id inside scope wiring
  rw [reportedBeforePlan, structureDiagnostics, List.append_eq_nil_iff, List.append_eq_nil_iff,
    List.append_eq_nil_iff, faults_eq_nil_iff wellFormed, providers, resolved,
    wireDiagnostics_eq_nil_iff wellFormed laid, and_assoc, and_assoc]

omit wellFormed in
theorem failingModules_nil : Diagnostic.failingModules [] = [] := by
  simp [Diagnostic.failingModules]

omit wellFormed in
/-- Without modules that fail by themselves, none fails because of others. -/
theorem propagate_nil (reliances : Reliances) :
    (model.propagate reliances []).failed = [] ∧ (model.propagate reliances []).derived = [] := by
  have none : model.derivedFailures reliances [] = [] := by
    refine List.filter_eq_nil_iff.mpr fun entry listed => ?_
    obtain ⟨module, _, rfl⟩ := List.mem_map.mp listed
    simp [rootCauses]
  simp [propagate, none]

omit wellFormed in
/-- When nothing was reported and no units make a circle, one round plans all modules. -/
theorem rounds_of_silent (clean : model.reportedBeforePlan = [])
    (units : ∀ id ∈ model.moduleIds, model.unitCycles model.graph id = []) :
    PlanRound.diagnostics model.rounds = [] := by
  have planned : (model.planRound model.wires []).planning.diagnostics = [] :=
    planAll_silent_iff.mpr fun id known _ => units id known
  have single : model.rounds = [model.planRound model.wires []] := by
    rw [rounds, allRounds, clean]
    cases model.modules.length with
    | zero => rfl
    | succ bound => simp [planRounds, PlanRound.findsMore, planned]
  rw [single, PlanRound.diagnostics, List.flatMap_singleton, planned]

theorem diagnostics_eq_nil_iff (laid : model.graph.Laid) (header : String) :
    (Build.ofModel model header).diagnostics = [] ↔ model.Silent := by
  constructor
  · intro accepted
    have survives : ∀ id ∈ model.moduleIds, model.Survives id :=
      fun id known => survives_of_silent wellFormed accepted known
    have nothing : model.reported = [] := by
      refine List.eq_nil_iff_forall_not_mem.mpr fun diagnostic reported => ?_
      have listed : diagnostic ∈ (Build.ofModel model header).diagnostics := by
        rw [ofModel_diagnostics, Diagnostic.mem_sort]
        exact List.mem_append_left _ reported
      rw [accepted] at listed
      cases listed
    rw [reported, List.append_eq_nil_iff, List.append_eq_nil_iff] at nothing
    obtain ⟨faultless, providers, resolved, cycles⟩ :=
      (reportedBeforePlan_eq_nil_iff wellFormed laid).mp nothing.1.1
    refine ⟨faultless, providers, resolved, cycles, fun id known => ?_, fun id known => ?_⟩
    · obtain ⟨plan, planned⟩ := (survives id known).planned wellFormed
      exact (unitCycles_eq_nil_iff wellFormed known).mp planned.noCycle
    · exact emissionFaults_eq_nil_iff.mp ((survives id known).no_emissionFaults wellFormed)
  · intro silent
    -- Without a report no module fails, so the first round is the last and no failure spreads.
    have before := (reportedBeforePlan_eq_nil_iff wellFormed laid).mpr
      ⟨silent.faultless, silent.providers, silent.resolved, silent.cycles⟩
    have rounds := rounds_of_silent before fun id known =>
      (unitCycles_eq_nil_iff wellFormed known).mpr (silent.units id known)
    have emissions : (model.finalPlan.modules.flatMap fun plan =>
        model.emissionFaults plan.module) = [] := by
      refine List.flatMap_eq_nil_iff.mpr fun plan member => ?_
      have known : plan.module ∈ model.moduleIds := by
        rw [finalPlan_eq] at member
        exact plans_sublist.subset (List.mem_map_of_mem member)
      exact emissionFaults_eq_nil_iff.mpr (silent.emittable _ known)
    have nothing : model.reported = [] := by
      rw [reported, before, rounds, emissions]
      rfl
    have nobody : model.direct = [] := by
      rw [direct, nothing]
      exact failingModules_nil
    rw [ofModel_diagnostics, failure, nothing, nobody, (propagate_nil _).2]
    simp [Diagnostic.sort, List.eraseReps, List.eraseRepsBy]

end Silent

end Model

end StaticInjection
