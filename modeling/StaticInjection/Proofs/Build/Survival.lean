import StaticInjection.Build.Basic
import StaticInjection.Proofs.Graph.Dependency
import StaticInjection.Proofs.Plan.Planning
import StaticInjection.Proofs.Propagation

/-! # Modules that survive

A module survives a build when nothing is reported about it or about anything it
relies on. The modules that survive are those that have an artifact, and each of
them has a plan. -/

namespace StaticInjection

namespace Diagnostic

/-- A module fails because of the diagnostic. -/
def Blames (diagnostic : Diagnostic) (id : ModuleId) : Prop :=
  diagnostic.kind ≠ .failedReliance ∧ diagnostic.scope = some id

theorem invalid_blames (id : ModuleId) (location : Location) (message : String) :
    (Diagnostic.invalid id location message).Blames id :=
  ⟨by simp [Diagnostic.invalid], rfl⟩

theorem mem_failingModules {diagnostics : List Diagnostic} {id : ModuleId} :
    id ∈ failingModules diagnostics ↔ ∃ diagnostic ∈ diagnostics, diagnostic.Blames id := by
  simp only [failingModules, List.mem_mergeSort, List.mem_eraseDups, List.mem_filterMap,
    failingModule?]
  refine exists_congr fun diagnostic => and_congr_right fun _ => ?_
  unfold Blames
  cases diagnostic.kind <;> simp [DiagnosticKind.isDerived]

end Diagnostic

namespace Model

/-! ## Everything that is reported -/

def reportedBeforePlan (model : Model) : List Diagnostic :=
  model.structureDiagnostics ++ model.resolutions.flatMap (·.diagnostics) ++
    model.wireDiagnostics model.wires

def rounds (model : Model) : List PlanRound :=
  model.allRounds model.wires model.reportedBeforePlan

def finalPlan (model : Model) : Plan :=
  PlanRound.finalPlan model.rounds

/-- The modules that the final plan is made without. -/
def leftOut (model : Model) : List ModuleId :=
  (model.rounds.getLast?.map (·.failed)).getD []

def reported (model : Model) : List Diagnostic :=
  model.reportedBeforePlan ++ PlanRound.diagnostics model.rounds ++
    model.finalPlan.modules.flatMap fun plan => model.emissionFaults plan.module

def Survives (model : Model) (id : ModuleId) : Prop :=
  id ∈ model.moduleIds ∧
    id ∉ (model.propagate (model.reliances model.wires)
      (Diagnostic.failingModules model.reported)).failed

/-- The plan of a module in a build. -/
structure Planned (model : Model) (id : ModuleId) (plan : ModulePlan) : Prop extends
    model.IsPlanFor (model.graph) model.finalPlan.deferred id plan where
  found : model.finalPlan.module? id = some plan

variable {model : Model}

/-! ## The last round -/

theorem planRounds_last (model : Model) (wires : WireSet) (bound : Nat) (reported : List Diagnostic) :
    ∃ seen, (∀ diagnostic ∈ seen, diagnostic ∈ reported ++
        PlanRound.diagnostics (model.planRounds wires bound reported)) ∧
      (model.planRounds wires bound reported).getLast? = some (model.planRound wires seen) := by
  induction bound generalizing reported with
  | zero =>
      exact ⟨reported, fun _ member => List.mem_append_left _ member, rfl⟩
  | succ bound induction =>
      simp only [planRounds]
      split
      · obtain ⟨seen, inside, last⟩ := induction
          (reported ++ (model.planRound wires reported).planning.diagnostics)
        refine ⟨seen, fun diagnostic member => ?_, ?_⟩
        · simpa [PlanRound.diagnostics, or_assoc] using inside diagnostic member
        · rw [List.getLast?_cons, last]
          rfl
      · exact ⟨reported, fun _ member => List.mem_append_left _ member, rfl⟩

/-- The final plan is made without some modules, all of which are reported or rely
on one that is. -/
theorem exists_lastRound (model : Model) :
    ∃ seen, (∀ diagnostic ∈ seen, diagnostic ∈ model.reported) ∧
      model.planRound model.wires seen ∈ model.rounds ∧
      model.finalPlan = (model.planRound model.wires seen).planning.plan ∧
      model.leftOut = (model.planRound model.wires seen).failed := by
  obtain ⟨seen, inside, last⟩ := model.planRounds_last model.wires
    model.modules.length model.reportedBeforePlan
  refine ⟨seen, fun diagnostic member => List.mem_append_left _ (inside diagnostic member),
    List.mem_of_getLast? last, ?_, ?_⟩
  · show (Option.map _ (model.planRounds _ _ _).getLast?).getD _ = _
    rw [last]
    rfl
  · show (Option.map _ (model.planRounds _ _ _).getLast?).getD _ = _
    rw [last]
    rfl

theorem finalPlan_eq (model : Model) :
    model.finalPlan = (model.planAll model.wires model.graph model.leftOut).plan := by
  obtain ⟨seen, _, _, final, left⟩ := model.exists_lastRound
  rw [final, left]
  rfl

theorem planned_of_mem {plan : ModulePlan} (member : plan ∈ model.finalPlan.modules) :
    model.Planned plan.module plan := by
  rw [finalPlan_eq] at member
  obtain ⟨id, _, _, made⟩ := mem_plans.mp member
  have isPlan := isPlanFor_of_ok made
  refine ⟨?_, ?_⟩
  · rw [finalPlan_eq]
    exact isPlan.module ▸ isPlan
  · rw [finalPlan_eq]
    exact module?_of_mem member

/-! ## Survivors -/

namespace Survives

theorem known {id : ModuleId} (survives : model.Survives id) : id ∈ model.moduleIds :=
  survives.1

variable (wellFormed : model.WellFormed)

include wellFormed

/-- Nothing that is reported concerns a survivor. -/
theorem silent {id : ModuleId} (survives : model.Survives id) {diagnostic : Diagnostic}
    (member : diagnostic ∈ model.reported) : ¬ diagnostic.Blames id := by
  intro blames
  exact survives.2 (failed_of_direct wellFormed survives.known
    (Diagnostic.mem_failingModules.mpr ⟨diagnostic, member, blames⟩))

theorem of_reliance {id other : ModuleId} (survives : model.Survives id)
    (relies : (id, other) ∈ model.reliances model.wires)
    (known : other ∈ model.moduleIds) : model.Survives other :=
  ⟨known, fun failed =>
    survives.2 (failed_of_reliance wellFormed survives.known relies failed)⟩

theorem child {id child : ModuleId} (survives : model.Survives id)
    (known : child ∈ model.moduleIds) (isChild : model.parent child = some id) :
    model.Survives child :=
  survives.of_reliance wellFormed (childReliance wellFormed survives.known known isChild _) known

/-- The whole subtree of a survivor survives. -/
theorem within {id below : ModuleId} (survives : model.Survives id)
    (known : below ∈ model.moduleIds) (inside : model.isWithin below id = true) :
    model.Survives below := by
  revert inside
  refine wellFormed.descend (motive := fun below => model.isWithin below id = true →
    model.Survives below) ?_ known
  intro below known above inside
  cases isParent : model.parent below with
  | none => exact (WellFormed.isWithin_of_root isParent).mp inside ▸ survives
  | some parent =>
      rcases (wellFormed.isWithin_of_parent known isParent).mp inside with same | inside
      · exact same ▸ survives
      · exact (above parent isParent inside).child wellFormed known isParent

/-- The modules of the targets of a survivor's wires survive. -/
theorem target {id : ModuleId} (survives : model.Survives id) {wire : Wire}
    (member : wire ∈ model.wires.wires) (wired : model.Wired id wire) {target : Provider}
    (listed : target ∈ wire.targets) : model.Survives (model.providerModule target) := by
  by_cases same : model.providerModule target = id
  · exact same ▸ survives
  · exact survives.of_reliance wellFormed (wireReliance member wired.wiring listed same)
      (wellFormed.providerModule_known (wired.suits target listed).offered)

/-! ## What survivors have -/

/-- Where every diagnostic blames a survivor, there is none. -/
theorem no_diagnostics {id : ModuleId} (survives : model.Survives id)
    {diagnostics : List Diagnostic}
    (reported : ∀ diagnostic ∈ diagnostics, diagnostic ∈ model.reported)
    (blames : ∀ diagnostic ∈ diagnostics, diagnostic.Blames id) : diagnostics = [] := by
  apply List.eq_nil_iff_forall_not_mem.mpr
  intro diagnostic member
  exact survives.silent wellFormed (reported diagnostic member) (blames diagnostic member)

omit wellFormed in
theorem resolveModule_blames {scope : ModuleId} {diagnostic : Diagnostic}
    (member : diagnostic ∈ (model.resolveModule scope).diagnostics) : diagnostic.Blames scope := by
  obtain ⟨⟨socket, _⟩, _, failure, _, rfl⟩ := mem_resolveModule_diagnostics.mp member
  cases failure <;> exact ⟨by simp [resolutionDiagnostic, Diagnostic.invalid], rfl⟩

/-- Every socket that is resolved in a survivor has its wire. -/
theorem exists_wire {id : ModuleId} (survives : model.Survives id) {socket : SocketId}
    (inside : socket ∈ model.socketIds) (wiring : model.wiringModule? socket = some id) :
    ∃ wire, model.wires.get? socket = some wire ∧ model.Wired id wire := by
  refine wellFormed.exists_wire survives.known ?_ inside wiring
  apply survives.no_diagnostics wellFormed
  · intro diagnostic member
    refine List.mem_append_left _ (List.mem_append_left _ (List.mem_append_left _
      (List.mem_append_right _ (List.mem_flatMap.mpr ⟨_, ?_, member⟩))))
    exact List.mem_map_of_mem survives.known
  · intro diagnostic member
    exact resolveModule_blames member

/-- No survivor is left out of a round. -/
theorem not_leftOut {id : ModuleId} (survives : model.Survives id) {seen : List Diagnostic}
    (reported : ∀ diagnostic ∈ seen, diagnostic ∈ model.reported) :
    id ∉ (model.planRound model.wires seen).failed := by
  intro failed
  refine survives.2 (failed_mono wellFormed ?_ failed)
  intro module listed
  obtain ⟨diagnostic, member, blames⟩ := Diagnostic.mem_failingModules.mp listed
  exact Diagnostic.mem_failingModules.mpr ⟨diagnostic, reported diagnostic member, blames⟩

/-- The final plan is made with every survivor. -/
theorem kept {id : ModuleId} (survives : model.Survives id) : id ∉ model.leftOut := by
  obtain ⟨seen, reported, _, _, left⟩ := model.exists_lastRound
  rw [left]
  exact survives.not_leftOut wellFormed reported

theorem planned {id : ModuleId} (survives : model.Survives id) :
    ∃ plan, model.Planned id plan := by
  obtain ⟨seen, reported, inRounds, final, _⟩ := model.exists_lastRound
  let round := model.planRound model.wires seen
  have kept : id ∉ round.failed := survives.not_leftOut wellFormed reported
  have noCycle : model.unitCycles model.graph id = [] := by
    apply List.eq_nil_iff_forall_not_mem.mpr
    intro cycle member
    have listed : model.unitCycleDiagnostic id cycle ∈ model.reported :=
      List.mem_append_left _ (List.mem_append_right _ (List.mem_flatMap.mpr
        ⟨round, inRounds,
          mem_planAll_diagnostics.mpr ⟨id, survives.known, kept, cycle, member, rfl⟩⟩))
    exact survives.silent wellFormed listed ⟨by simp [unitCycleDiagnostic], rfl⟩
  obtain ⟨plan, made⟩ := exists_plan (model.deferredEdges model.wires round.failed) noCycle
  have isPlan := isPlanFor_of_ok made
  have member : plan ∈ round.planning.plan.modules :=
    mem_plans.mpr ⟨id, survives.known, kept, made⟩
  have found := module?_of_mem member
  rw [isPlan.module] at found
  refine ⟨plan, ?_, ?_⟩
  · rw [final]
    exact isPlan
  · rw [final]
    exact found

omit wellFormed in
theorem emissionReports_invalid {id : ModuleId} {location : Location}
    {faults : List EmissionFault} {diagnostic : Diagnostic}
    (member : diagnostic ∈ emissionReports id location faults) :
    ∃ place message, diagnostic = .invalid id place message := by
  obtain ⟨fault, _, rfl⟩ := List.mem_map.mp member
  exact ⟨location, fault.message, rfl⟩

/-- What keeps code from being generated for a module is always one kind of diagnostic. -/
theorem emissionFaults_invalid {id : ModuleId} (known : id ∈ model.moduleIds)
    {diagnostic : Diagnostic} (member : diagnostic ∈ model.emissionFaults id) :
    ∃ place message, diagnostic = .invalid id place message := by
  have same := (wellFormed.module_mem known).2
  simp only [emissionFaults, List.mem_append, List.mem_flatMap] at member
  rcases member with ((⟨socket, _, report⟩ | ⟨bean, _, report⟩) | report) | report
  · exact emissionReports_invalid report
  · rcases List.mem_append.mp report with report | report
    · exact emissionReports_invalid report
    · obtain ⟨socket, _, report⟩ := List.mem_flatMap.mp report
      exact emissionReports_invalid report
  · obtain ⟨name, _, report⟩ := List.mem_flatMap.mp report
    rw [same] at report
    exact emissionReports_invalid report
  · obtain ⟨clash, _, report⟩ := List.mem_flatMap.mp report
    rw [same] at report
    exact emissionReports_invalid report

theorem emissionFaults_blame {id : ModuleId} (known : id ∈ model.moduleIds)
    {diagnostic : Diagnostic} (member : diagnostic ∈ model.emissionFaults id) :
    diagnostic.Blames id := by
  obtain ⟨place, message, rfl⟩ := emissionFaults_invalid wellFormed known member
  exact Diagnostic.invalid_blames id place message

theorem no_emissionFaults {id : ModuleId} (survives : model.Survives id) :
    model.emissionFaults id = [] := by
  obtain ⟨plan, planned⟩ := survives.planned wellFormed
  have member := List.mem_of_find?_eq_some planned.found
  apply survives.no_diagnostics wellFormed
  · intro diagnostic fault
    refine List.mem_append_right _ (List.mem_flatMap.mpr ⟨plan, member, ?_⟩)
    rw [planned.module]
    exact fault
  · exact fun diagnostic => emissionFaults_blame wellFormed survives.known

end Survives

/-! ## Artifacts -/

theorem emissionDiagnostics_emit {header : String} {plan : ModulePlan}
    (member : plan ∈ model.finalPlan.modules) :
    emissionDiagnostics (model.emit model.wires model.finalPlan header plan.module) =
      model.emissionFaults plan.module := by
  unfold emit
  split
  · rename_i missing
    have missed := List.find?_eq_none.mp missing plan member
    simp at missed
  · by_cases clean : (model.emissionFaults plan.module).isEmpty
    · simp only [clean, if_true, emissionDiagnostics]
      exact (List.isEmpty_iff.mp clean).symm
    · simp only [clean, emissionDiagnostics]
      rfl

theorem ofModel_eq (model : Model) (header : String) :
    Build.ofModel model header = model.conclude model.wires
      ((model.emissions model.wires header model.finalPlan).filterMap (·.toOption))
      model.reported := by
  have faults : (model.emissions model.wires header model.finalPlan).flatMap
      emissionDiagnostics =
        model.finalPlan.modules.flatMap fun plan => model.emissionFaults plan.module := by
    rw [emissions, List.flatMap_map]
    exact List.flatMap_congr fun plan member => emissionDiagnostics_emit member
  rw [reported, ← faults]
  rfl

theorem mem_emitted {header : String} {artifact : Artifact} :
    artifact ∈ (model.emissions model.wires header model.finalPlan).filterMap (·.toOption) ↔
      ∃ plan ∈ model.finalPlan.modules,
        model.emit model.wires model.finalPlan header plan.module = .ok artifact := by
  simp only [emissions, List.filterMap_map, List.mem_filterMap, Function.comp]
  refine exists_congr fun plan => and_congr_right fun _ => ?_
  cases model.emit model.wires model.finalPlan header plan.module <;>
    simp [Except.toOption]

theorem emit_planned {header : String} {id : ModuleId} {plan : ModulePlan}
    (planned : model.Planned id plan) (clean : model.emissionFaults id = []) :
    model.emit model.wires model.finalPlan header id =
      .ok (model.artifact model.wires model.finalPlan plan header) := by
  simp [emit, planned.found, clean]

theorem emit_module {header : String} {id : ModuleId} {artifact : Artifact}
    (emitted : model.emit model.wires model.finalPlan header id = .ok artifact) :
    artifact.module = id := by
  unfold emit at emitted
  split at emitted
  · cases emitted
  · rename_i plan found
    simp only at emitted
    split at emitted
    · injection emitted with equal
      rw [← equal]
      simpa [Model.artifact] using List.find?_some found
    · cases emitted

/-- The code of a module with a plan. -/
def codeFor (model : Model) (plan : ModulePlan) (header : String) : Code.ModuleCode :=
  model.moduleCode model.wires model.finalPlan plan header

theorem artifact_source (model : Model) (plan : ModulePlan) (header : String) :
    (model.artifact model.wires model.finalPlan plan header).source =
      (model.codeFor plan header).text := by
  rw [Model.artifact, codeFor]

/-- What is generated for a survivor is found by its module. -/
theorem find?_emitted (wellFormed : model.WellFormed) {header : String} {id : ModuleId}
    {plan : ModulePlan} (survives : model.Survives id) (planned : model.Planned id plan) :
    ((model.emissions model.wires header model.finalPlan).filterMap (·.toOption)).find?
        (·.module == id) =
      some (model.artifact model.wires model.finalPlan plan header) := by
  have emitted : model.emit model.wires model.finalPlan header id =
      .ok (model.artifact model.wires model.finalPlan plan header) :=
    emit_planned planned (survives.no_emissionFaults wellFormed)
  have member := mem_emitted.mpr ⟨plan, List.mem_of_find?_eq_some planned.found,
    (planned.module.symm ▸ emitted :)⟩
  cases found : ((model.emissions model.wires header model.finalPlan).filterMap
      (·.toOption)).find? (·.module == id) with
  | none =>
      have missed := List.find?_eq_none.mp found _ member
      simp [Model.artifact, planned.module] at missed
  | some other =>
      obtain ⟨_, _, otherEmitted⟩ := mem_emitted.mp (List.mem_of_find?_eq_some found)
      have same : other.module = id := by simpa using List.find?_some found
      rw [← emit_module otherEmitted, same, emitted] at otherEmitted
      exact congrArg some (Except.ok.inj otherEmitted).symm

theorem survives_iff {id : ModuleId} (known : id ∈ model.moduleIds) :
    model.Survives id ↔ (model.propagate (model.reliances model.wires)
      (Diagnostic.failingModules model.reported)).isFailed id = false := by
  simp [Survives, FailureReport.isFailed, known]

/-- The survivors are the modules that have an artifact. -/
theorem mem_artifacts (wellFormed : model.WellFormed) {header : String}
    {artifact : Artifact} : artifact ∈ (Build.ofModel model header).artifacts ↔
      ∃ id plan, model.Survives id ∧ model.Planned id plan ∧
        artifact = model.artifact model.wires model.finalPlan plan header := by
  rw [ofModel_eq]
  simp only [conclude, List.mem_filterMap, List.mem_filter, Bool.not_eq_true']
  constructor
  · rintro ⟨id, ⟨known, kept⟩, found⟩
    have survives := (survives_iff known).mpr kept
    obtain ⟨plan, planned⟩ := survives.planned wellFormed
    rw [find?_emitted wellFormed survives planned] at found
    exact ⟨id, plan, survives, planned, (Option.some.inj found).symm⟩
  · rintro ⟨id, plan, survives, planned, rfl⟩
    exact ⟨id, ⟨survives.known, (survives_iff survives.known).mp survives⟩,
      find?_emitted wellFormed survives planned⟩

/-- What is generated for a module is the code of its plan. -/
theorem artifact_planned (wellFormed : model.WellFormed) {header : String} {artifact : Artifact}
    (emitted : artifact ∈ (Build.ofModel model header).artifacts) :
    ∃ plan, model.Survives artifact.module ∧ model.Planned artifact.module plan ∧
      artifact.source = (model.codeFor plan header).text := by
  rcases (mem_artifacts wellFormed).mp emitted with ⟨id, plan, survives, planned, rfl⟩
  have isModule : (model.artifact model.wires model.finalPlan plan header).module = id :=
    planned.module
  rw [isModule]
  exact ⟨plan, survives, planned, artifact_source model plan header⟩

end Model

/-! ## An application -/

/-- Modules on three levels with an input, imports, a collection, a bean for each
request and a lazy socket. -/
def sampleApplication : List ModuleDeclaration :=
  let clock : BeanDeclaration :=
    { name := "clock", declaredType := .ofText "Clock", provides := [.ofText "dyn Time"]
      visibility := .isPublic }
  let server : BeanDeclaration :=
    { name := "server", declaredType := .ofText "Server", visibility := .isPublic
      sockets := [{ name := "store", requiredType := .ofText "Store" },
        { name := "all", requiredType := .ofText "dyn Time", multiplicity := .collection }] }
  let store : BeanDeclaration :=
    { name := "store", declaredType := .ofText "Store", visibility := .isPublic
      lifetime := .perRequest
      sockets := [{ name := "clock", requiredType := .ofText "Clock" },
        { name := "server", requiredType := .ofText "Server", isLazy := true }] }
  let file : BeanDeclaration :=
    { name := "file", declaredType := .ofText "File"
      sockets := [{ name := "time", requiredType := .ofText "dyn Time" }] }
  let limit : BeanDeclaration :=
    { name := "limit", declaredType := .ofText "Limit", visibility := .isPublic }
  [{ name := "app"
     beans := [clock, server]
     modules := [
      { name := "data"
        sockets := [{ name := "limit", requiredType := .ofText "Limit" }]
        beans := [store]
        modules := [{ name := "disk", beans := [file] }] },
      { name := "rules", beans := [limit] }] }]

set_option maxRecDepth 100000 in
theorem sampleApplication_emitted {id : ModuleId}
    (known : id ∈ (Model.ofDeclarations sampleApplication).moduleIds) :
    ∃ artifact ∈ (Build.ofDeclarations sampleApplication "").artifacts, artifact.module = id := by
  have modules : (Build.ofDeclarations sampleApplication "").artifacts.map (·.module) =
      (Model.ofDeclarations sampleApplication).moduleIds := by
    decide +kernel
  rw [← modules] at known
  exact List.mem_map.mp known

end StaticInjection
