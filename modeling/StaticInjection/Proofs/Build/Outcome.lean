import StaticInjection.Proofs.Build.Blame
import StaticInjection.Proofs.Diagnostic.Report

/-! # What becomes of each module

A module fails when the report of a build holds a diagnostic of its own. It is
skipped when it has none, but relies on a module that fails, at whatever
distance, and then one diagnostic says so. Every other module has its artifact. -/

namespace StaticInjection

namespace Build

/-- The report holds a diagnostic of the module itself, not only one that another
module failed. -/
def Blames (build : Build) (id : ModuleId) : Prop :=
  ∃ diagnostic ∈ build.diagnostics, diagnostic.Blames id

end Build

namespace Model

/-- What a module needs for its own construction, once sockets are resolved. -/
def ReliesOn (model : Model) (id other : ModuleId) : Prop :=
  (id, other) ∈ model.reliances model.wires

/-- The modules with diagnostics of their own. -/
def direct (model : Model) : List ModuleId :=
  Diagnostic.failingModules model.reported

/-- How their failure spreads. -/
def failure (model : Model) : FailureReport :=
  model.propagate (model.reliances model.wires) model.direct

variable {model : Model}

/-! ## Failing modules -/

theorem WellFormed.reliance_known (wellFormed : model.WellFormed) {id other : ModuleId}
    (relies : model.ReliesOn id other) : other ∈ model.moduleIds := by
  rcases List.mem_append.mp relies with child | wire
  · obtain ⟨module, listed, pair⟩ := List.mem_flatMap.mp child
    obtain ⟨below, isChild, equal⟩ := List.mem_map.mp pair
    cases equal
    have known : module.id ∈ model.moduleIds := List.mem_map_of_mem listed
    rw [← wellFormed.module_of_mem listed] at isChild
    exact ((wellFormed.children _ known _).mp isChild).1
  · obtain ⟨wire, member, pair⟩ := List.mem_flatMap.mp wire
    obtain ⟨scope, _, wired⟩ := wellFormed.wired_of_mem member
    rw [wireReliances, wired.wiring] at pair
    obtain ⟨target, listed, equal⟩ := List.mem_map.mp (List.mem_of_mem_filter pair)
    cases equal
    exact wellFormed.providerModule_known (wired.suits target listed).offered

/-- A module fails when what it relies on leads to a module with an error. -/
theorem mem_failed_iff (wellFormed : model.WellFormed) {id : ModuleId}
    (known : id ∈ model.moduleIds) : id ∈ model.failure.failed ↔
      ∃ cause ∈ model.direct, Relation.ReflTransGen model.ReliesOn id cause := by
  constructor
  · have start : ∀ module ∈ model.moduleIds, module ∈ model.direct →
        ∃ cause ∈ model.direct, Relation.ReflTransGen model.ReliesOn module cause :=
      fun module _ listed => ⟨module, listed, .refl⟩
    have spread : ∀ module ∈ model.moduleIds, ∀ other, model.ReliesOn module other →
        (∃ cause ∈ model.direct, Relation.ReflTransGen model.ReliesOn other cause) →
          ∃ cause ∈ model.direct, Relation.ReflTransGen model.ReliesOn module cause := by
      rintro module _ other relies ⟨cause, listed, path⟩
      exact ⟨cause, listed, .head relies path⟩
    exact failed_induction wellFormed start spread
  · rintro ⟨cause, listed, path⟩
    induction path using Relation.ReflTransGen.head_induction_on with
    | refl => exact failed_of_direct wellFormed known listed
    | head relies _ induction =>
        exact failed_of_reliance wellFormed known relies
          (induction (wellFormed.reliance_known relies))

/-! ## Derived diagnostics -/

def causes (model : Model) (id : ModuleId) : List ModuleId :=
  model.rootCauses (model.reliances model.wires) model.direct id

/-- The modules that fail only because of others. -/
def fallen (model : Model) : List Module :=
  model.modules.filter fun module =>
    !model.direct.contains module.id && !(model.causes module.id).isEmpty

theorem failure_derived (model : Model) : model.failure.derived =
    model.fallen.map fun module => model.derivedDiagnostic module (model.causes module.id) :=
  model.propagate_derived _ _

theorem mem_fallen (wellFormed : model.WellFormed) {module : Module}
    (listed : module ∈ model.modules) : module ∈ model.fallen ↔
      module.id ∉ model.direct ∧ module.id ∈ model.failure.failed :=
  mem_fallenFrom_iff wellFormed listed

theorem WellFormed.filter_modules (wellFormed : model.WellFormed) {id : ModuleId}
    (known : id ∈ model.moduleIds) :
    (model.modules.filter fun module => module.id == id) = [model.module id] := by
  have ids : (model.modules.filter fun module => module.id == id).map (·.id) = [id] := by
    have counted := List.count_eq_one_of_mem wellFormed.moduleIds_nodup known
    have single := model.moduleIds.filter_beq id
    rw [counted, moduleIds, List.filter_map] at single
    exact single
  obtain ⟨module, found, same⟩ := List.map_eq_singleton_iff.mp ids
  have listed : module ∈ model.modules :=
    List.mem_of_mem_filter (found.symm ▸ List.mem_singleton_self module)
  rw [found, ← same, wellFormed.module_of_mem listed]

/-- One diagnostic says that a module fails because of others. -/
theorem filter_derived (wellFormed : model.WellFormed) {id : ModuleId}
    (known : id ∈ model.moduleIds) :
    model.failure.derived.filter (·.scope == some id) =
      if id ∉ model.direct ∧ id ∈ model.failure.failed then
        [model.derivedDiagnostic (model.module id) (model.causes id)]
      else [] := by
  obtain ⟨listed, same⟩ := wellFormed.module_mem known
  have scopes : model.failure.derived.filter (·.scope == some id) =
      (model.fallen.filter (·.id == id)).map fun module =>
        model.derivedDiagnostic module (model.causes module.id) := by
    rw [failure_derived, List.filter_map]
    congr 1
  have single : model.fallen.filter (·.id == id) =
      [model.module id].filter fun module =>
        !model.direct.contains module.id && !(model.causes module.id).isEmpty := by
    rw [← wellFormed.filter_modules known, fallen, List.filter_filter, List.filter_filter]
    exact List.filter_congr fun module _ => Bool.and_comm _ _
  have inside := mem_fallen wellFormed listed
  rw [fallen, List.mem_filter, and_iff_right listed, same] at inside
  rw [scopes, single, List.filter_cons, List.filter_nil, same]
  by_cases fell : id ∉ model.direct ∧ id ∈ model.failure.failed
  · rw [if_pos fell, if_pos (inside.mpr fell), List.map_singleton, same]
  · rw [if_neg fell, if_neg (mt inside.mp fell), List.map_nil]

/-! ## The parts of a build -/

/-- What becomes of a module. -/
def outcomeOf (model : Model) (id : ModuleId) : Outcome :=
  if id ∈ model.direct then .failed
  else if id ∈ model.failure.failed then .skipped
  else .emitted

theorem outcomeOf_failed {id : ModuleId} :
    model.outcomeOf id = .failed ↔ id ∈ model.direct := by
  unfold outcomeOf
  split
  · simp [*]
  · split <;> simp [*]

theorem outcomeOf_skipped {id : ModuleId} :
    model.outcomeOf id = .skipped ↔ id ∉ model.direct ∧ id ∈ model.failure.failed := by
  unfold outcomeOf
  split
  · simp [*]
  · split <;> simp [*]

theorem outcomeOf_emitted {id : ModuleId} (wellFormed : model.WellFormed)
    (known : id ∈ model.moduleIds) :
    model.outcomeOf id = .emitted ↔ model.Survives id := by
  have spreads : id ∈ model.direct → id ∈ model.failure.failed :=
    failed_of_direct wellFormed known
  have survives : model.Survives id ↔ id ∉ model.failure.failed := and_iff_right known
  rw [survives, outcomeOf]
  split
  · rename_i listed
    simp [spreads listed]
  · split <;> simp [*]

theorem ofModel_diagnostics (model : Model) (header : String) :
    (Build.ofModel model header).diagnostics =
      Diagnostic.sort (model.reported ++ model.failure.derived) := by
  rw [ofModel_eq]
  rfl

theorem ofModel_artifacts (wellFormed : model.WellFormed) (header : String) :
    (Build.ofModel model header).artifacts.map
        (fun artifact => (artifact.module, artifact.path)) =
      (model.moduleIds.filter (model.outcomeOf · = .emitted)).map fun id => (id, model.path id) := by
  have kept : (model.moduleIds.filter fun id => !model.failure.isFailed id) =
      model.moduleIds.filter (model.outcomeOf · = .emitted) := by
    refine List.filter_congr fun id known => Bool.eq_iff_iff.mpr ?_
    rw [decide_eq_true_iff, outcomeOf_emitted wellFormed known, Bool.not_eq_true']
    exact (survives_iff known).symm
  rw [ofModel_eq, ← kept]
  simp only [conclude, List.map_filterMap]
  rw [← List.filterMap_eq_map]
  refine List.filterMap_congr fun id listed => ?_
  obtain ⟨known, clear⟩ := List.mem_filter.mp listed
  have survives := (survives_iff known).mpr (by simpa using clear)
  obtain ⟨plan, planned⟩ := survives.planned wellFormed
  rw [find?_emitted wellFormed survives planned]
  simp [Model.artifact, planned.module]

theorem ofModel_artifact_modules (wellFormed : model.WellFormed) (header : String) :
    (Build.ofModel model header).artifacts.map (·.module) =
      model.moduleIds.filter (model.outcomeOf · = .emitted) := by
  have modules := congrArg (List.map Prod.fst) (ofModel_artifacts wellFormed header)
  simpa only [List.map_map, Function.comp_def, List.map_id'] using modules

theorem outcome_eq (wellFormed : model.WellFormed) (header : String) {module : Module}
    (listed : module ∈ model.modules) :
    outcome (Build.ofModel model header).artifacts model.direct model.failure module =
      model.outcomeOf module.id := by
  have known : module.id ∈ model.moduleIds := List.mem_map_of_mem listed
  have built : (Build.ofModel model header).artifacts.any (·.module == module.id) = true ↔
      model.outcomeOf module.id = .emitted := by
    have contained : (Build.ofModel model header).artifacts.any (·.module == module.id) = true ↔
        module.id ∈ (Build.ofModel model header).artifacts.map (·.module) := by
      simp [List.any_eq_true]
    rw [contained, ofModel_artifact_modules wellFormed, List.mem_filter, decide_eq_true_iff, and_iff_right known]
  unfold outcome
  by_cases emitted : model.outcomeOf module.id = .emitted
  · rw [if_pos (built.mpr emitted), emitted]
  · have failed : module.id ∈ model.failure.failed := by
      rw [outcomeOf_emitted wellFormed known] at emitted
      by_contra clear
      exact emitted ⟨known, clear⟩
    rw [if_neg (mt built.mp emitted), outcomeOf, if_pos failed]
    simp [FailureReport.isFailed, failed]

theorem ofModel_outcomes (wellFormed : model.WellFormed) (header : String) :
    (Build.ofModel model header).outcomes =
      model.modules.map fun module => ⟨module.path, model.outcomeOf module.id⟩ := by
  have outcomes : (Build.ofModel model header).outcomes = model.modules.map fun module =>
      ⟨module.path, outcome (Build.ofModel model header).artifacts model.direct model.failure
        module⟩ := by
    rw [ofModel_eq]
    rfl
  rw [outcomes]
  exact List.map_congr_left fun module listed =>
    congrArg _ (outcome_eq wellFormed header listed)

/-! ## The report of a build -/

/-- Derived diagnostics are about modules that only fail because of others. -/
theorem mem_derived {diagnostic : Diagnostic} (wellFormed : model.WellFormed)
    (member : diagnostic ∈ model.failure.derived) : diagnostic.kind = .failedReliance ∧
      ∃ id ∈ model.moduleIds, diagnostic.scope = some id ∧ model.outcomeOf id = .skipped := by
  rw [failure_derived] at member
  obtain ⟨module, fell, rfl⟩ := List.mem_map.mp member
  have listed := List.mem_of_mem_filter fell
  obtain ⟨apart, failed⟩ := (mem_fallen wellFormed listed).mp fell
  refine ⟨rfl, module.id, List.mem_map_of_mem listed, rfl, ?_⟩
  rw [outcomeOf, if_neg apart, if_pos failed]

theorem blames_iff (wellFormed : model.WellFormed) {header : String} {id : ModuleId} :
    (Build.ofModel model header).Blames id ↔ id ∈ model.direct := by
  rw [direct, Diagnostic.mem_failingModules, Build.Blames, ofModel_diagnostics]
  simp only [Diagnostic.mem_sort, List.mem_append]
  constructor
  · rintro ⟨diagnostic, reported | derived, blames⟩
    · exact ⟨diagnostic, reported, blames⟩
    · exact absurd (mem_derived wellFormed derived).1 blames.1
  · rintro ⟨diagnostic, reported, blames⟩
    exact ⟨diagnostic, .inl reported, blames⟩

/-- What the report blames spreads to every module that leads there. -/
theorem reaches_blamed_iff (wellFormed : model.WellFormed) {header : String} {id : ModuleId}
    (known : id ∈ model.moduleIds) :
    (∃ cause, (Build.ofModel model header).Blames cause ∧
      Relation.ReflTransGen model.ReliesOn id cause) ↔ id ∈ model.failure.failed := by
  simp only [blames_iff wellFormed]
  exact (mem_failed_iff wellFormed known).symm

/-- Nothing is reported about modules that have an artifact. -/
theorem diagnostic_scope (wellFormed : model.WellFormed) {header : String}
    {diagnostic : Diagnostic} (member : diagnostic ∈ (Build.ofModel model header).diagnostics) :
    ∃ id ∈ model.moduleIds, diagnostic.scope = some id ∧ model.outcomeOf id ≠ .emitted := by
  rw [ofModel_diagnostics, Diagnostic.mem_sort, List.mem_append] at member
  rcases member with reported | derived
  · obtain ⟨id, known, blames⟩ := wellFormed.reported_blames reported
    refine ⟨id, known, blames.2, ?_⟩
    rw [Ne, outcomeOf_emitted wellFormed known]
    exact fun survives => survives.silent wellFormed reported blames
  · obtain ⟨_, id, known, scope, skipped⟩ := mem_derived wellFormed derived
    exact ⟨id, known, scope, by simp [skipped]⟩

/-- The report says once that a module is skipped. -/
theorem count_derived (wellFormed : model.WellFormed) (header : String) {id : ModuleId}
    (known : id ∈ model.moduleIds) :
    (Build.ofModel model header).diagnostics.countP
        (fun diagnostic => diagnostic.kind == .failedReliance && diagnostic.scope == some id) =
      if model.outcomeOf id = .skipped then 1 else 0 := by
  rw [ofModel_diagnostics, List.countP_eq_length_filter]
  have own : model.reported.filter
      (fun diagnostic => diagnostic.kind == .failedReliance && diagnostic.scope == some id) = [] := by
    refine List.filter_eq_nil_iff.mpr fun diagnostic reported => ?_
    obtain ⟨_, _, blames⟩ := wellFormed.reported_blames reported
    simp [blames.1]
  have derived : model.failure.derived.filter
      (fun diagnostic => diagnostic.kind == .failedReliance && diagnostic.scope == some id) =
        model.failure.derived.filter (·.scope == some id) := by
    refine List.filter_congr fun diagnostic member => ?_
    simp [(mem_derived wellFormed member).1]
  have single := filter_derived wellFormed known
  rw [← derived] at single
  by_cases fell : id ∉ model.direct ∧ id ∈ model.failure.failed
  · rw [if_pos fell] at single
    rw [if_pos (outcomeOf_skipped.mpr fell), Diagnostic.filter_sort_of_single
      ((List.filter_append _ _).trans (by rw [own, single, List.nil_append])), List.length_singleton]
  · rw [if_neg fell] at single
    rw [if_neg (mt outcomeOf_skipped.mp fell), List.length_eq_zero_iff, List.filter_eq_nil_iff]
    intro diagnostic member
    rw [Diagnostic.mem_sort, List.mem_append] at member
    rcases member with reported | listed
    · exact List.filter_eq_nil_iff.mp own diagnostic reported
    · exact List.filter_eq_nil_iff.mp single diagnostic listed

end Model

/-! ## Outcomes -/

/-- What a build says of the modules of a model, when each of them has the outcome
given. -/
structure Build.Settles (build : Build) (model : Model) (outcomeOf : ModuleId → Outcome) :
    Prop where
  outcomes : build.outcomes =
    model.modules.map fun module => ⟨module.path, outcomeOf module.id⟩
  failed : ∀ id ∈ model.moduleIds, outcomeOf id = .failed ↔ build.Blames id
  skipped : ∀ id ∈ model.moduleIds, outcomeOf id = .skipped ↔ ¬ build.Blames id ∧
    ∃ cause, build.Blames cause ∧ Relation.ReflTransGen model.ReliesOn id cause
  emitted : ∀ id ∈ model.moduleIds, outcomeOf id = .emitted ↔ ¬ build.Blames id ∧
    ¬ ∃ cause, build.Blames cause ∧ Relation.ReflTransGen model.ReliesOn id cause
  /-- One artifact for each module that is emitted, in the order of the modules. -/
  artifacts : build.artifacts.map (fun artifact => (artifact.module, artifact.path)) =
    (model.moduleIds.filter (outcomeOf · = .emitted)).map fun id => (id, model.path id)
  /-- No diagnostic is about anything else than a module of the model. -/
  scopes : ∀ diagnostic ∈ build.diagnostics, ∃ id ∈ model.moduleIds, diagnostic.scope = some id
  /-- That another module failed is said once of each module that is skipped, and of no
  other. -/
  derived : ∀ id ∈ model.moduleIds, build.diagnostics.countP
      (fun diagnostic => diagnostic.kind == .failedReliance && diagnostic.scope == some id) =
    if outcomeOf id = .skipped then 1 else 0
  clean : build.diagnostics = [] ↔ ∀ id ∈ model.moduleIds, outcomeOf id = .emitted

/-- Every build settles what becomes of each module, by the diagnostics in its report
and by what the modules rely on. -/
theorem build_settles_outcomes (declarations : List ModuleDeclaration) (header : String) :
    ∃ outcomeOf, (Build.ofDeclarations declarations header).Settles
      (Model.ofDeclarations declarations) outcomeOf := by
  have wellFormed := Model.ofDeclarations_wellFormed declarations
  unfold Build.ofDeclarations
  generalize Model.ofDeclarations declarations = model at wellFormed
  refine ⟨model.outcomeOf, ?_⟩
  constructor
  case outcomes => exact Model.ofModel_outcomes wellFormed header
  case failed =>
    intro id _
    rw [Model.outcomeOf_failed, Model.blames_iff wellFormed]
  case skipped =>
    intro id known
    rw [Model.outcomeOf_skipped, Model.reaches_blamed_iff wellFormed known,
      Model.blames_iff wellFormed]
  case emitted =>
    intro id known
    have spreads : id ∈ model.direct → id ∈ model.failure.failed :=
      Model.failed_of_direct wellFormed known
    rw [Model.outcomeOf_emitted wellFormed known, Model.reaches_blamed_iff wellFormed known,
      Model.blames_iff wellFormed]
    exact ⟨fun survives => ⟨mt spreads survives.2, survives.2⟩, fun clear => ⟨known, clear.2⟩⟩
  case artifacts => exact Model.ofModel_artifacts wellFormed header
  case scopes =>
    intro diagnostic member
    obtain ⟨id, known, scope, _⟩ := Model.diagnostic_scope wellFormed member
    exact ⟨id, known, scope⟩
  case derived => exact fun id known => Model.count_derived wellFormed header known
  case clean =>
    constructor
    · intro silent id known
      have clear : id ∉ model.failure.failed := by
        rw [← Model.reaches_blamed_iff wellFormed known]
        rintro ⟨cause, ⟨diagnostic, member, _⟩, _⟩
        rw [silent] at member
        cases member
      exact (Model.outcomeOf_emitted wellFormed known).mpr ⟨known, clear⟩
    · intro emitted
      apply List.eq_nil_iff_forall_not_mem.mpr
      intro diagnostic member
      obtain ⟨id, known, _, fails⟩ := Model.diagnostic_scope wellFormed member
      exact fails (emitted id known)

end StaticInjection
