import StaticInjection.Proofs.Build.Blame
import StaticInjection.Proofs.Build.Pool

/-! # Builds in parallel

The sockets of all modules are resolved by tasks that run together, and so is the
code of all modules generated; everything else is done by one alone. Whatever the
number of permits and however the tasks take turns, every build comes to an end, and
to the same one. -/

namespace StaticInjection

namespace Model

/-- The task that resolves the sockets of a scope. -/
def resolveTask (model : Model) (scope : ModuleId) : Task (List Wire) :=
  let resolution := model.resolveModule scope
  { module := scope, reports := resolution.diagnostics, result := resolution.wires }

/-- The task that generates a module, if nothing keeps it from that. -/
def emitTask (model : Model) (wires : WireSet) (plan : Plan) (header : String) (id : ModuleId) :
    Task (Option Artifact) :=
  let emission := model.emit wires plan header id
  { module := id, reports := emissionDiagnostics emission, result := emission.toOption }

end Model

/-! ## Stages -/

inductive Stage where
  | resolving (pool : Pool (List Wire))
  | emitting (wires : WireSet) (pool : Pool (Option Artifact))
  | done (build : Build)

namespace Model

def resolveTasks (model : Model) : List (Task (List Wire)) :=
  model.moduleIds.map model.resolveTask

def emitTasks (model : Model) (wires : WireSet) (header : String) (plan : Plan) :
    List (Task (Option Artifact)) :=
  plan.modules.map fun modulePlan => model.emitTask wires plan header modulePlan.module

def firstStage (model : Model) : Stage :=
  .resolving (.start model.resolveTasks model.structureDiagnostics)

/-- Modules are planned when all sockets are resolved, and the tasks that generate them
begin. -/
def emissionStage (model : Model) (header : String) (wires : WireSet)
    (reported : List Diagnostic) : Stage :=
  let beforePlan := reported ++ model.wireDiagnostics wires
  let rounds := model.allRounds wires beforePlan
  .emitting wires (.start (model.emitTasks wires header (PlanRound.finalPlan rounds))
    (beforePlan ++ PlanRound.diagnostics rounds))

/-- One step of a build in which so many tasks may run at once. -/
inductive Advances (model : Model) (header : String) (permits : Nat) : Stage → Stage → Prop
  | resolve {pool next : Pool (List Wire)} (step : pool.Step permits next) :
      Advances model header permits (.resolving pool) (.resolving next)
  | plan {pool : Pool (List Wire)} (finished : pool.Finished) :
      Advances model header permits (.resolving pool)
        (model.emissionStage header (WireSet.empty.insertAll pool.taken.flatten) pool.log)
  | emit {wires : WireSet} {pool next : Pool (Option Artifact)} (step : pool.Step permits next) :
      Advances model header permits (.emitting wires pool) (.emitting wires next)
  | conclude {wires : WireSet} {pool : Pool (Option Artifact)} (finished : pool.Finished) :
      Advances model header permits (.emitting wires pool)
        (.done (model.conclude wires (pool.taken.filterMap id) pool.log))

variable {model : Model} {header : String} {permits : Nat}

/-! ## Every build comes to an end -/

theorem emitting_terminates (model : Model) (header : String) (permits : Nat) (wires : WireSet)
    (pool : Pool (Option Artifact)) :
    Acc (flip (model.Advances header permits)) (.emitting wires pool) := by
  induction count : pool.remaining using Nat.strongRecOn generalizing pool with
  | ind count induction =>
      refine .intro _ fun stage advance => ?_
      cases advance with
      | emit step => exact induction _ (count ▸ step.remaining_lt) _ rfl
      | conclude finished => exact .intro _ fun stage advance => nomatch advance

theorem resolving_terminates (model : Model) (header : String) (permits : Nat)
    (pool : Pool (List Wire)) : Acc (flip (model.Advances header permits)) (.resolving pool) := by
  induction count : pool.remaining using Nat.strongRecOn generalizing pool with
  | ind count induction =>
      refine .intro _ fun stage advance => ?_
      cases advance with
      | resolve step => exact induction _ (count ▸ step.remaining_lt) _ rfl
      | plan finished => exact emitting_terminates model header permits _ _

/-- A build that is not done can go on. -/
theorem done_or_advances (positive : 0 < permits) (stage : Stage) :
    (∃ build, stage = .done build) ∨ ∃ next, model.Advances header permits stage next := by
  cases stage with
  | resolving pool =>
      by_cases finished : pool.Finished
      · exact .inr ⟨_, .plan finished⟩
      · obtain ⟨next, step⟩ := Pool.exists_step positive finished
        exact .inr ⟨_, .resolve step⟩
  | emitting wires pool =>
      by_cases finished : pool.Finished
      · exact .inr ⟨_, .conclude finished⟩
      · obtain ⟨next, step⟩ := Pool.exists_step positive finished
        exact .inr ⟨_, .emit step⟩
  | done build => exact .inl ⟨build, rfl⟩

/-! ## What does not depend on the order of reports -/

theorem planRound_congr (wires : WireSet) {left right : List Diagnostic}
    (same : ∀ diagnostic, diagnostic ∈ left ↔ diagnostic ∈ right) :
    model.planRound wires left = model.planRound wires right := by
  rw [planRound, Diagnostic.failingModules_congr same, planRound]

theorem planRounds_congr (wires : WireSet) (bound : Nat) {left right : List Diagnostic}
    (same : ∀ diagnostic, diagnostic ∈ left ↔ diagnostic ∈ right) :
    model.planRounds wires bound left = model.planRounds wires bound right := by
  induction bound generalizing left right with
  | zero => rw [planRounds, planRound_congr wires same, planRounds]
  | succ bound induction =>
      have more : ∀ diagnostic,
          diagnostic ∈ left ++ (model.planRound wires right).planning.diagnostics ↔
            diagnostic ∈ right ++ (model.planRound wires right).planning.diagnostics := by
        simp [same]
      have finds : (model.planRound wires right).findsMore left =
          (model.planRound wires right).findsMore right := by
        rw [PlanRound.findsMore, Diagnostic.failingModules_congr more, PlanRound.findsMore]
      simp only [planRounds]
      rw [planRound_congr wires same, finds, induction more]

theorem find?_artifact {artifacts : List Artifact} (distinct : (artifacts.map (·.module)).Nodup)
    {id : ModuleId} {artifact : Artifact} :
    artifacts.find? (·.module == id) = some artifact ↔
      artifact ∈ artifacts ∧ artifact.module = id := by
  constructor
  · intro found
    exact ⟨List.mem_of_find?_eq_some found, by simpa using List.find?_some found⟩
  · rintro ⟨member, rfl⟩
    cases found : artifacts.find? (·.module == artifact.module) with
    | none =>
        have missed := List.find?_eq_none.mp found artifact member
        simp at missed
    | some other =>
        have same : other.module = artifact.module := by simpa using List.find?_some found
        rw [List.inj_on_of_nodup_map distinct (List.mem_of_find?_eq_some found) member same]

/-- Artifacts of different modules are found in any order. -/
theorem find?_artifact_perm {left right : List Artifact} (same : left.Perm right)
    (distinct : (left.map (·.module)).Nodup) (id : ModuleId) :
    left.find? (·.module == id) = right.find? (·.module == id) := by
  have alsoDistinct : (right.map (·.module)).Nodup := (same.map _).nodup_iff.mp distinct
  refine Option.ext fun artifact => ?_
  rw [find?_artifact distinct, find?_artifact alsoDistinct, same.mem_iff]

theorem conclude_congr (wires : WireSet) {left right : List Artifact} (same : left.Perm right)
    (distinct : (left.map (·.module)).Nodup) {reported others : List Diagnostic}
    (alike : Diagnostic.Alike reported others) :
    model.conclude wires left reported = model.conclude wires right others := by
  have failing := Diagnostic.failingModules_congr fun _ => alike.mem_iff
  have found : ∀ id, left.find? (·.module == id) = right.find? (·.module == id) :=
    find?_artifact_perm same distinct
  simp only [conclude, failing, found, (alike.append_right _).sort_eq]

/-! ## Every build comes to the same end -/

/-- The log with which tasks that generate modules begin, when everything before them is
done one by one. -/
def reportedBeforeEmission (model : Model) : List Diagnostic :=
  model.reportedBeforePlan ++ PlanRound.diagnostics model.rounds

/-- Where a build can be. -/
def OnTheWay (model : Model) (header : String) : Stage → Prop
  | .resolving pool => pool.Runs model.resolveTasks model.structureDiagnostics
  | .emitting wires pool => wires = model.wires ∧
      pool.Runs (model.emitTasks model.wires header model.finalPlan) model.reportedBeforeEmission
  | .done build => build = Build.ofModel model header

theorem resolveTasks_reports (model : Model) : Task.allReports model.resolveTasks =
    model.resolutions.flatMap (·.diagnostics) := by
  simp only [Task.allReports, resolveTasks, resolutions, List.flatMap_map]
  rfl

theorem resolveTasks_results (model : Model) : (model.resolveTasks.map (·.result)).flatten =
    model.modules.flatMap fun module => (model.resolveModule module.id).wires := by
  simp only [resolveTasks, moduleIds, List.map_map, List.flatMap]
  rfl

theorem emitTasks_reports (model : Model) (header : String) (plan : Plan) (wires : WireSet) :
    Task.allReports (model.emitTasks wires header plan) =
      (model.emissions wires header plan).flatMap emissionDiagnostics := by
  simp only [Task.allReports, emitTasks, emissions, List.flatMap_map]
  rfl

theorem emitTasks_results (model : Model) (header : String) (plan : Plan) (wires : WireSet) :
    ((model.emitTasks wires header plan).map (·.result)).filterMap id =
      (model.emissions wires header plan).filterMap (·.toOption) := by
  simp only [emitTasks, emissions, List.map_map, List.filterMap_map]
  rfl

section Sound

variable (wellFormed : model.WellFormed)

include wellFormed

theorem resolveTasks_apart : Task.Apart model.resolveTasks where
  modules := by
    simpa [resolveTasks, resolveTask, Function.comp_def] using wellFormed.moduleIds_nodup
  own := by
    intro task member diagnostic report
    obtain ⟨scope, _, rfl⟩ := List.mem_map.mp member
    exact (Survives.resolveModule_blames report).2

theorem finalPlan_modules_nodup : (model.finalPlan.modules.map (·.module)).Nodup := by
  rw [finalPlan_eq]
  exact plans_sublist.nodup wellFormed.moduleIds_nodup

theorem emissions_nodup : (((model.emissions model.wires header model.finalPlan).filterMap
    (·.toOption)).map (·.module)).Nodup := by
  have agree : ∀ (plan : ModulePlan) (artifact : Artifact),
      (model.emit model.wires model.finalPlan header plan.module).toOption = some artifact →
        artifact.module = plan.module := by
    intro plan artifact found
    cases emitted : model.emit model.wires model.finalPlan header plan.module with
    | error faults => simp [emitted, Except.toOption] at found
    | ok other =>
        simp only [emitted, Except.toOption, Option.some.injEq] at found
        exact found ▸ emit_module emitted
  rw [emissions, List.filterMap_map]
  exact (sublist_of_filterMap agree _).nodup (finalPlan_modules_nodup wellFormed)

theorem emitTasks_apart : Task.Apart (model.emitTasks model.wires header model.finalPlan) where
  modules := by
    simpa [emitTasks, emitTask, Function.comp_def] using finalPlan_modules_nodup wellFormed
  own := by
    intro task member diagnostic report
    obtain ⟨plan, planned, rfl⟩ := List.mem_map.mp member
    simp only [emitTask, emissionDiagnostics_emit planned] at report
    exact (Survives.emissionFaults_blame wellFormed (finalPlan_known planned) report).2

theorem onTheWay_planned {pool : Pool (List Wire)}
    (runs : pool.Runs model.resolveTasks model.structureDiagnostics) (finished : pool.Finished) :
    model.OnTheWay header
      (model.emissionStage header (WireSet.empty.insertAll pool.taken.flatten) pool.log) := by
  obtain ⟨results, logged⟩ := runs.finished finished
  rw [resolveTasks_reports] at logged
  have wires : WireSet.empty.insertAll pool.taken.flatten = model.wires := by
    refine wellFormed.insertAll_eq_wires fun wire => ?_
    rw [results.flatten.mem_iff, resolveTasks_results]
  have beforePlan : Diagnostic.Alike (pool.log ++ model.wireDiagnostics model.wires)
      model.reportedBeforePlan := logged.append_right _
  have rounds : model.allRounds model.wires (pool.log ++ model.wireDiagnostics model.wires) =
      model.rounds := planRounds_congr _ _ fun _ => beforePlan.mem_iff
  rw [wires, emissionStage]
  simp only [rounds]
  exact ⟨rfl, Pool.runs_start (emitTasks_apart wellFormed) (beforePlan.append_right _)⟩

theorem onTheWay_done {pool : Pool (Option Artifact)}
    (runs : pool.Runs (model.emitTasks model.wires header model.finalPlan)
      model.reportedBeforeEmission) (finished : pool.Finished) :
    model.OnTheWay header (.done (model.conclude model.wires (pool.taken.filterMap id) pool.log)) := by
  obtain ⟨results, logged⟩ := runs.finished finished
  have generated := results.filterMap id
  rw [emitTasks_results] at generated
  rw [emitTasks_reports] at logged
  have distinct : ((pool.taken.filterMap id).map (·.module)).Nodup :=
    (generated.map _).nodup_iff.mpr (emissions_nodup wellFormed)
  exact conclude_congr model.wires generated distinct logged

/-- No step leads off the way. -/
theorem OnTheWay.advance {stage next : Stage} (onTheWay : model.OnTheWay header stage)
    (advance : model.Advances header permits stage next) : model.OnTheWay header next := by
  cases advance with
  | resolve step => exact onTheWay.step step
  | plan finished => exact onTheWay_planned wellFormed onTheWay finished
  | emit step => exact ⟨onTheWay.1, onTheWay.2.step step⟩
  | conclude finished =>
      obtain ⟨rfl, runs⟩ := onTheWay
      exact onTheWay_done wellFormed runs finished

theorem onTheWay_first : model.OnTheWay header model.firstStage :=
  Pool.runs_start (resolveTasks_apart wellFormed) (.refl _)

theorem onTheWay_reached {stage : Stage}
    (path : Relation.ReflTransGen (model.Advances header permits) model.firstStage stage) :
    model.OnTheWay header stage := by
  induction path with
  | refl => exact onTheWay_first wellFormed
  | tail _ advance induction => exact induction.advance wellFormed advance

end Sound

end Model

/-- However the tasks of a build take turns, and however many of them may run at once,
the build comes to an end, and what it comes to is what it comes to when everything is
done one by one. -/
theorem schedules_build_the_same (declarations : List ModuleDeclaration) (header : String)
    (permits : Nat) (positive : 0 < permits) :
    let model := Model.ofDeclarations declarations
    Acc (flip (model.Advances header permits)) model.firstStage ∧
      ∀ stage, Relation.ReflTransGen (model.Advances header permits) model.firstStage stage →
        ((∃ build, stage = .done build) ∨ ∃ next, model.Advances header permits stage next) ∧
          ∀ build, stage = .done build → build = Build.ofDeclarations declarations header := by
  intro model
  refine ⟨Model.resolving_terminates model header permits _, fun stage path =>
    ⟨Model.done_or_advances positive stage, ?_⟩⟩
  rintro build rfl
  exact Model.onTheWay_reached (Model.ofDeclarations_wellFormed declarations) path

/-- Four tasks at once begin to build the sample, and can only build it as one would. -/
theorem sampleApplication_scheduled :
    let model := Model.ofDeclarations sampleApplication
    (∃ next, model.Advances "" 4 model.firstStage next) ∧
      Acc (flip (model.Advances "" 4)) model.firstStage ∧
      ∀ build, Relation.ReflTransGen (model.Advances "" 4) model.firstStage (.done build) →
        build = Build.ofDeclarations sampleApplication "" := by
  intro model
  obtain ⟨terminates, reached⟩ := schedules_build_the_same sampleApplication "" 4 (by decide)
  refine ⟨?_, terminates, fun build path => (reached _ path).2 build rfl⟩
  rcases (reached _ .refl).1 with ⟨build, isDone⟩ | goesOn
  · cases isDone
  · exact goesOn

end StaticInjection
