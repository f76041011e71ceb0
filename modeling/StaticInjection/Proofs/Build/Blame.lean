import StaticInjection.Proofs.Build.Survival

/-! # Whom diagnostics blame

Every diagnostic that a build finds by itself is about one module of the model,
which fails because of it. -/

namespace StaticInjection

theorem mem_of_mem_repeatedItems [BEq β] {key : α → β} {seen : List β} {items : List α} {item : α}
    (member : item ∈ repeatedItems key seen items) : item ∈ items := by
  induction items generalizing seen with
  | nil => cases member
  | cons head tail induction =>
      unfold repeatedItems at member
      split at member
      · rcases List.mem_cons.mp member with equal | later
        · exact equal ▸ List.mem_cons_self
        · exact List.mem_cons_of_mem _ (induction later)
      · exact List.mem_cons_of_mem _ (induction member)

theorem mem_of_mem_nameClashes [BEq β] {generated : α → String} {identity : α → β}
    {taken : List (String × α)} {items : List α} {clash : α × String × α}
    (member : clash ∈ nameClashes generated identity taken items) : clash.1 ∈ items := by
  induction items generalizing taken with
  | nil => cases member
  | cons head tail induction =>
      simp only [nameClashes] at member
      split at member
      · exact List.mem_cons_of_mem _ (induction member)
      · split at member
        · exact List.mem_cons_of_mem _ (induction member)
        · rcases List.mem_cons.mp member with equal | later
          · exact equal ▸ List.mem_cons_self
          · exact List.mem_cons_of_mem _ (induction later)

namespace Model

variable {model : Model}

theorem reportAt_blames {id : ModuleId} {location : Location} {faults : List DeclarationFault}
    {diagnostic : Diagnostic} (member : diagnostic ∈ reportAt id location faults) :
    diagnostic.Blames id := by
  obtain ⟨fault, _, rfl⟩ := List.mem_map.mp member
  exact Diagnostic.invalid_blames id location fault.message

/-! ## Declarations -/

theorem declarationReports_blame {module : Module} {diagnostic : Diagnostic}
    (member : diagnostic ∈ model.declarationReports module) : diagnostic.Blames module.id := by
  simp only [declarationReports, List.mem_append, List.mem_flatMap] at member
  rcases member with (report | ⟨socket, _, report⟩) | ⟨bean, _, report⟩
  · exact reportAt_blames report
  · exact reportAt_blames report
  · simp only [beanReports, List.mem_append, List.mem_flatMap] at report
    rcases report with (report | ⟨socket, _, report⟩) | report
    · exact reportAt_blames report
    · exact reportAt_blames report
    · exact reportAt_blames report

theorem moduleClashes_blame {types files : List (String × String)} {modules : List Module}
    {diagnostic : Diagnostic} (member : diagnostic ∈ moduleClashes types files modules) :
    ∃ module ∈ modules, diagnostic.Blames module.id := by
  induction modules generalizing types files with
  | nil => cases member
  | cons head tail induction =>
      have later {types files : List (String × String)}
          (member : diagnostic ∈ moduleClashes types files tail) :
          ∃ module ∈ head :: tail, diagnostic.Blames module.id := by
        obtain ⟨module, inside, blames⟩ := induction member
        exact ⟨module, List.mem_cons_of_mem _ inside, blames⟩
      simp only [moduleClashes] at member
      split at member
      · rcases List.mem_append.mp member with report | member
        · exact ⟨head, List.mem_cons_self, reportAt_blames report⟩
        · exact later member
      · rcases List.mem_append.mp member with report | member
        · exact ⟨head, List.mem_cons_self, reportAt_blames report⟩
        · exact later member
      · exact later member

namespace WellFormed

variable (wellFormed : model.WellFormed)

include wellFormed

theorem siblingReports_blame {group : List ModuleId} (known : ∀ id ∈ group, id ∈ model.moduleIds)
    {diagnostic : Diagnostic} (member : diagnostic ∈ model.siblingReports group) :
    ∃ id ∈ model.moduleIds, diagnostic.Blames id := by
  obtain ⟨module, repeated, report⟩ := List.mem_flatMap.mp member
  obtain ⟨id, listed, rfl⟩ := List.mem_map.mp (mem_of_mem_repeatedItems repeated)
  have blames := reportAt_blames report
  rw [(wellFormed.module_mem (known id listed)).2] at blames
  exact ⟨id, known id listed, blames⟩

theorem socket_module_known {id : SocketId} (known : id ∈ model.socketIds) :
    (model.socket id).module ∈ model.moduleIds := by
  cases owned : (model.socket id).owner with
  | bean bean =>
      obtain ⟨beanKnown, place⟩ := wellFormed.owner_bean id known bean owned
      rw [place]
      exact wellFormed.bean_module bean beanKnown
  | module module =>
      obtain ⟨moduleKnown, place⟩ := wellFormed.owner_module id known module owned
      rw [place]
      exact moduleKnown

theorem faults_blame {diagnostic : Diagnostic} (member : diagnostic ∈ model.faults) :
    ∃ id ∈ model.moduleIds, diagnostic.Blames id := by
  simp only [faults, List.mem_append, List.mem_flatMap] at member
  rcases member with (((((⟨module, listed, report⟩ | ⟨module, listed, report⟩) | report) |
    ⟨module, listed, report⟩) | report) | report) | report
  · exact ⟨module.id, List.mem_map_of_mem listed, declarationReports_blame report⟩
  · exact ⟨module.id, List.mem_map_of_mem listed, reportAt_blames report⟩
  · exact wellFormed.siblingReports_blame (fun id root => ((wellFormed.roots id).mp root).1) report
  · have known : module.id ∈ model.moduleIds := List.mem_map_of_mem listed
    refine wellFormed.siblingReports_blame (fun id child => ?_) report
    rw [← wellFormed.module_of_mem listed] at child
    exact ((wellFormed.children _ known id).mp child).1
  · obtain ⟨module, listed, blames⟩ := moduleClashes_blame report
    exact ⟨module.id, List.mem_map_of_mem listed, blames⟩
  · obtain ⟨clash, found, report⟩ := List.mem_flatMap.mp report
    have listed := mem_of_mem_nameClashes found
    have known := wellFormed.bean_module clash.1.id (List.mem_map_of_mem listed)
    rw [wellFormed.bean_of_mem listed] at known
    exact ⟨clash.1.module, known, reportAt_blames report⟩
  · obtain ⟨clash, found, report⟩ := List.mem_flatMap.mp report
    have listed := List.mem_of_mem_filter (mem_of_mem_nameClashes found)
    have known := wellFormed.socket_module_known (List.mem_map_of_mem (f := (·.id)) listed)
    rw [wellFormed.socket_of_mem listed] at known
    exact ⟨clash.1.module, known, reportAt_blames report⟩

end WellFormed

/-! ## Later stages -/

theorem duplicateReports_blame {scope : ModuleId} {diagnostic : Diagnostic}
    (member : diagnostic ∈ model.duplicateReports scope) : diagnostic.Blames scope := by
  obtain ⟨refused, _, rfl⟩ := List.mem_map.mp member
  exact ⟨by simp [duplicateDiagnostic], rfl⟩

theorem cycleDiagnostics_blame {cycles : List DependencyCycle} {diagnostic : Diagnostic}
    (member : diagnostic ∈ model.cycleDiagnostics cycles) :
    ∃ id ∈ model.moduleIds, diagnostic.Blames id := by
  obtain ⟨cycle, _, report⟩ := List.mem_flatMap.mp member
  obtain ⟨id, listed, rfl⟩ := List.mem_map.mp report
  exact ⟨id, List.mem_of_mem_filter listed, by simp, rfl⟩

theorem planAll_blames {wires : WireSet} {graph : DependencyGraph} {failed : List ModuleId}
    {diagnostic : Diagnostic}
    (member : diagnostic ∈ (model.planAll wires graph failed).diagnostics) :
    ∃ id ∈ model.moduleIds, diagnostic.Blames id := by
  obtain ⟨id, known, _, cycle, _, rfl⟩ := mem_planAll_diagnostics.mp member
  exact ⟨id, known, by simp [unitCycleDiagnostic], rfl⟩

theorem exists_seen_of_mem_planRounds {wires : WireSet} {bound : Nat} {reported : List Diagnostic}
    {round : PlanRound} (member : round ∈ model.planRounds wires bound reported) :
    ∃ seen, round = model.planRound wires seen := by
  induction bound generalizing reported with
  | zero => exact ⟨reported, List.mem_singleton.mp member⟩
  | succ bound induction =>
      simp only [planRounds] at member
      split at member
      · rcases List.mem_cons.mp member with equal | later
        · exact ⟨reported, equal⟩
        · exact induction later
      · exact ⟨reported, List.mem_singleton.mp member⟩

theorem roundDiagnostics_blame {diagnostic : Diagnostic}
    (member : diagnostic ∈ PlanRound.diagnostics model.rounds) :
    ∃ id ∈ model.moduleIds, diagnostic.Blames id := by
  obtain ⟨round, listed, report⟩ := List.mem_flatMap.mp member
  obtain ⟨seen, rfl⟩ := exists_seen_of_mem_planRounds listed
  exact planAll_blames report

/-- Plans are made for modules of the model only. -/
theorem finalPlan_known {plan : ModulePlan} (member : plan ∈ model.finalPlan.modules) :
    plan.module ∈ model.moduleIds := by
  rw [finalPlan_eq] at member
  obtain ⟨id, known, _, made⟩ := mem_plans.mp member
  rw [(isPlanFor_of_ok made).module]
  exact known

/-- Whatever is reported blames a module of the model. -/
theorem WellFormed.reported_blames (wellFormed : model.WellFormed) {diagnostic : Diagnostic}
    (member : diagnostic ∈ model.reported) : ∃ id ∈ model.moduleIds, diagnostic.Blames id := by
  simp only [reported, reportedBeforePlan, structureDiagnostics, duplicates, resolutions,
    wireDiagnostics, List.mem_append, List.mem_flatMap, List.mem_map] at member
  rcases member with ((((fault | ⟨module, listed, report⟩) | ⟨_, ⟨id, known, rfl⟩, report⟩) |
    cycle) | round) | ⟨plan, planned, report⟩
  · exact wellFormed.faults_blame fault
  · exact ⟨module.id, List.mem_map_of_mem listed, duplicateReports_blame report⟩
  · exact ⟨id, known, Survives.resolveModule_blames report⟩
  · exact cycleDiagnostics_blame cycle
  · exact roundDiagnostics_blame round
  · have known := finalPlan_known planned
    exact ⟨plan.module, known, Survives.emissionFaults_blame wellFormed known report⟩

end Model

end StaticInjection
