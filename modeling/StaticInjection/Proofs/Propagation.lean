import StaticInjection.Proofs.Graph.Reach
import StaticInjection.Proofs.Model.Tree

/-! # How failure spreads

The failing modules are the least set that holds the modules with errors of their
own and every module that relies on one of the set. -/

namespace StaticInjection

namespace Reliances

variable {model : Model} {reliances : Reliances} {direct : List ModuleId}

theorem mem_on {module other : ModuleId} :
    other ∈ reliances.on model module ↔
      other ∈ model.moduleIds ∧ (module, other) ∈ reliances := by
  simp [on]

@[simp] theorem without_length : (reliances.without model direct).length =
    model.modules.length := by
  simp [without, Model.moduleIds]

theorem without_successors (wellFormed : model.WellFormed) {module : ModuleId}
    (known : module ∈ model.moduleIds) :
    (reliances.without model direct).successors module.index =
      if direct.contains module then [] else (reliances.on model module).map (·.index) := by
  obtain ⟨member, same⟩ := wellFormed.module_mem known
  have found := wellFormed.modules_numbered.getElem?_number member
  rw [same] at found
  simp [Adjacency.successors, without, Model.moduleIds, List.getD_eq_getElem?_getD, found, same]

theorem without_closed (wellFormed : model.WellFormed) :
    (reliances.without model direct).Closed := by
  intro node next member
  rw [without_length]
  by_cases inside : node < model.modules.length
  · have known : (⟨node⟩ : ModuleId) ∈ model.moduleIds := wellFormed.mem_moduleIds.mpr inside
    rw [without_successors wellFormed known] at member
    split at member
    · cases member
    · obtain ⟨other, listed, rfl⟩ := List.mem_map.mp member
      exact wellFormed.mem_moduleIds.mp (mem_on.mp listed).1
  · have outside : (reliances.without model direct)[node]? = none := by
      rw [List.getElem?_eq_none_iff, without_length]
      omega
    simp [Adjacency.successors, List.getD_eq_getElem?_getD, outside] at member

theorem edge_without (wellFormed : model.WellFormed) {module : ModuleId} {next : Nat}
    (known : module ∈ model.moduleIds) :
    (reliances.without model direct).Edge module.index next ↔
      module ∉ direct ∧ ∃ other ∈ model.moduleIds,
        (module, other) ∈ reliances ∧ other.index = next := by
  unfold Adjacency.Edge
  rw [without_successors wellFormed known]
  by_cases listed : module ∈ direct
  · simp [listed]
  · simp [listed, mem_on, and_assoc]

/-- The reliances are between modules of a model. -/
def Among (reliances : Reliances) (model : Model) : Prop :=
  ∀ pair ∈ reliances, pair.1 ∈ model.moduleIds ∧ pair.2 ∈ model.moduleIds

/-- A module without errors of its own relies on another one. -/
def PassesOn (reliances : Reliances) (direct : List ModuleId) (module other : ModuleId) : Prop :=
  module ∉ direct ∧ (module, other) ∈ reliances

/-- Whatever holds where a path ends, and is handed back by each step of it, holds where
the path starts. -/
theorem leads_induction (wellFormed : model.WellFormed) {motive : ModuleId → Prop}
    {target : ModuleId} (stop : motive target)
    (step : ∀ module ∈ model.moduleIds, ∀ other, reliances.PassesOn direct module other →
      motive other → motive module)
    {module : ModuleId} (known : module ∈ model.moduleIds)
    (path : (reliances.without model direct).Leads module.index target.index) :
    motive module := by
  have along : ∀ source, (reliances.without model direct).Leads source target.index →
      ∀ module ∈ model.moduleIds, module.index = source → motive module := by
    intro source path
    induction path using Relation.ReflTransGen.head_induction_on with
    | refl =>
        intro module _ same
        have equal : module = target := congrArg ModuleId.mk same
        exact equal ▸ stop
    | head edge _ induction =>
        rintro module known rfl
        obtain ⟨free, other, otherKnown, relies, same⟩ := (edge_without wellFormed known).mp edge
        exact step module known other ⟨free, relies⟩ (induction other otherKnown same)
  exact along _ path module known rfl

theorem leads_iff (wellFormed : model.WellFormed) (among : reliances.Among model)
    {module other : ModuleId} (known : module ∈ model.moduleIds) :
    (reliances.without model direct).Leads module.index other.index ↔
      Relation.ReflTransGen (reliances.PassesOn direct) module other := by
  constructor
  · exact leads_induction
      (motive := fun start => Relation.ReflTransGen (reliances.PassesOn direct) start other)
      wellFormed .refl (fun _ _ _ passes later => .head passes later) known
  · intro path
    clear known
    induction path using Relation.ReflTransGen.head_induction_on with
    | refl => exact .refl
    | head step _ induction =>
        obtain ⟨free, relies⟩ := step
        obtain ⟨known, nextKnown⟩ := among _ relies
        exact .head ((edge_without wellFormed known).mpr ⟨free, _, nextKnown, relies, rfl⟩)
          induction

end Reliances

namespace Model

variable {model : Model} {reliances : Reliances} {direct : List ModuleId}

/-! ## Modules that fail -/

/-- The causes of a module's failure are the modules with errors that it leads to
through modules without. -/
theorem mem_rootCauses (wellFormed : model.WellFormed) {module cause : ModuleId}
    (known : module ∈ model.moduleIds) : cause ∈ model.rootCauses reliances direct module ↔
      cause ∈ model.moduleIds ∧ cause ∈ direct ∧
        (reliances.without model direct).Leads module.index cause.index := by
  have inside : module.index < (reliances.without model direct).length := by
    rw [Reliances.without_length]
    exact wellFormed.mem_moduleIds.mp known
  simp only [rootCauses, List.mem_filter, Bool.and_eq_true, List.contains_eq_mem,
    decide_eq_true_eq, Adjacency.mem_reachable (Reliances.without_closed wellFormed) inside]

/-- The modules that fail only because of others. -/
def fallenFrom (model : Model) (reliances : Reliances) (direct : List ModuleId) : List Module :=
  model.modules.filter fun module =>
    !direct.contains module.id && !(model.rootCauses reliances direct module.id).isEmpty

theorem derivedFailures_eq (model : Model) (reliances : Reliances) (direct : List ModuleId) :
    model.derivedFailures reliances direct = (model.fallenFrom reliances direct).map
      fun module => (module, model.rootCauses reliances direct module.id) := by
  rw [derivedFailures, List.filter_map, List.filter_filter, fallenFrom]
  congr 1
  exact List.filter_congr fun module _ => Bool.and_comm _ _

theorem propagate_derived (model : Model) (reliances : Reliances) (direct : List ModuleId) :
    (model.propagate reliances direct).derived = (model.fallenFrom reliances direct).map
      fun module =>
        model.derivedDiagnostic module (model.rootCauses reliances direct module.id) := by
  rw [propagate, derivedFailures_eq, List.map_map]
  rfl

theorem mem_fallenFrom (wellFormed : model.WellFormed) {module : Module}
    (listed : module ∈ model.modules) : module ∈ model.fallenFrom reliances direct ↔
      module.id ∉ direct ∧ ∃ cause ∈ model.moduleIds, cause ∈ direct ∧
        (reliances.without model direct).Leads module.id.index cause.index := by
  have known : module.id ∈ model.moduleIds := List.mem_map_of_mem listed
  simp only [fallenFrom, List.mem_filter, listed, true_and, Bool.and_eq_true, Bool.not_eq_true',
    List.contains_eq_mem, decide_eq_false_iff_not, List.isEmpty_eq_false_iff_exists_mem,
    mem_rootCauses wellFormed known]

theorem mem_failed (wellFormed : model.WellFormed) {module : ModuleId} :
    module ∈ (model.propagate reliances direct).failed ↔
      module ∈ model.moduleIds ∧ ∃ cause ∈ model.moduleIds, cause ∈ direct ∧
        (reliances.without model direct).Leads module.index cause.index := by
  simp only [propagate, derivedFailures_eq, List.any_map, List.mem_filter, Bool.or_eq_true,
    List.contains_eq_mem, decide_eq_true_eq, List.any_eq_true, Function.comp, beq_iff_eq]
  refine and_congr_right fun known => ?_
  obtain ⟨member, same⟩ := wellFormed.module_mem known
  constructor
  · rintro (listed | ⟨other, fell, rfl⟩)
    · exact ⟨module, known, listed, .refl⟩
    · exact ((mem_fallenFrom wellFormed (List.mem_of_mem_filter fell)).mp fell).2
  · intro causes
    by_cases listed : module ∈ direct
    · exact .inl listed
    · exact .inr ⟨_, (mem_fallenFrom wellFormed member).mpr (same.symm ▸ ⟨listed, causes⟩), same⟩

theorem mem_fallenFrom_iff (wellFormed : model.WellFormed) {module : Module}
    (listed : module ∈ model.modules) : module ∈ model.fallenFrom reliances direct ↔
      module.id ∉ direct ∧ module.id ∈ (model.propagate reliances direct).failed := by
  rw [mem_fallenFrom wellFormed listed, mem_failed wellFormed,
    and_iff_right (show module.id ∈ model.moduleIds from List.mem_map_of_mem listed)]

theorem failed_of_direct (wellFormed : model.WellFormed) {module : ModuleId}
    (known : module ∈ model.moduleIds) (listed : module ∈ direct) :
    module ∈ (model.propagate reliances direct).failed :=
  (mem_failed wellFormed).mpr ⟨known, module, known, listed, .refl⟩

theorem failed_of_reliance (wellFormed : model.WellFormed) {module other : ModuleId}
    (known : module ∈ model.moduleIds) (relies : (module, other) ∈ reliances)
    (failed : other ∈ (model.propagate reliances direct).failed) :
    module ∈ (model.propagate reliances direct).failed := by
  by_cases listed : module ∈ direct
  · exact failed_of_direct wellFormed known listed
  · obtain ⟨otherKnown, cause, causeKnown, isDirect, path⟩ := (mem_failed wellFormed).mp failed
    have edge := (Reliances.edge_without wellFormed known).mpr
      ⟨listed, other, otherKnown, relies, rfl⟩
    exact (mem_failed wellFormed).mpr
      ⟨known, cause, causeKnown, isDirect, path.head edge⟩

/-- Whatever holds of the modules with errors, and of each module that relies on
one it holds of, holds of all that fail. -/
theorem failed_induction (wellFormed : model.WellFormed) {property : ModuleId → Prop}
    (start : ∀ module ∈ model.moduleIds, module ∈ direct → property module)
    (spread : ∀ module ∈ model.moduleIds, ∀ other, (module, other) ∈ reliances →
      property other → property module)
    {module : ModuleId} (failed : module ∈ (model.propagate reliances direct).failed) :
    property module := by
  obtain ⟨known, cause, causeKnown, isDirect, path⟩ := (mem_failed wellFormed).mp failed
  refine Reliances.leads_induction wellFormed (start cause causeKnown isDirect) ?_ known path
  exact fun module known other passes => spread module known other passes.2

/-- With more errors, more modules fail. -/
theorem failed_mono (wellFormed : model.WellFormed) {more : List ModuleId}
    (grows : ∀ module ∈ direct, module ∈ more) {module : ModuleId}
    (failed : module ∈ (model.propagate reliances direct).failed) :
    module ∈ (model.propagate reliances more).failed :=
  failed_induction wellFormed
    (fun _ known listed => failed_of_direct wellFormed known (grows _ listed))
    (fun _ known _ relies later => failed_of_reliance wellFormed known relies later) failed

/-! ## What a module relies on -/

theorem childReliance (wellFormed : model.WellFormed) {module child : ModuleId}
    (known : module ∈ model.moduleIds) (childKnown : child ∈ model.moduleIds)
    (isChild : model.parent child = some module) (wires : WireSet) :
    (module, child) ∈ model.reliances wires := by
  obtain ⟨member, same⟩ := wellFormed.module_mem known
  refine List.mem_append_left _ (List.mem_flatMap.mpr ⟨_, member, ?_⟩)
  rw [same]
  exact List.mem_map_of_mem ((wellFormed.children module known child).mpr ⟨childKnown, isChild⟩)

theorem wireReliance {wires : WireSet} {wire : Wire} (member : wire ∈ wires.wires)
    {scope : ModuleId} (wiring : model.wiringModule? wire.socket = some scope)
    {target : Provider} (listed : target ∈ wire.targets)
    (different : model.providerModule target ≠ scope) :
    (scope, model.providerModule target) ∈ model.reliances wires := by
  refine List.mem_append_right _ (List.mem_flatMap.mpr ⟨wire, member, ?_⟩)
  rw [wireReliances, wiring]
  exact List.mem_filter.mpr ⟨List.mem_map_of_mem (f := fun target =>
    (scope, model.providerModule target)) listed, by simpa using different⟩

/-! ## The report -/

theorem failed_ascending (wellFormed : model.WellFormed) :
    (model.propagate reliances direct).failed.Pairwise (·.index < ·.index) :=
  wellFormed.moduleIds_ascending.filter _

theorem rootCauses_ascending (wellFormed : model.WellFormed) (module : ModuleId) :
    (model.rootCauses reliances direct module).Pairwise (·.index < ·.index) :=
  wellFormed.moduleIds_ascending.filter _

theorem filter_failed (wellFormed : model.WellFormed) :
    (model.propagate reliances direct).failed.filter (· ∉ direct) =
      (model.fallenFrom reliances direct).map (·.id) := by
  have whole : (model.propagate reliances direct).failed =
      model.moduleIds.filter (· ∈ (model.propagate reliances direct).failed) :=
    List.filter_congr fun id known => Bool.eq_iff_iff.mpr <| by
      rw [decide_eq_true_iff]
      change _ ↔ id ∈ model.moduleIds.filter _
      rw [List.mem_filter, and_iff_right known]
  rw [whole, List.filter_filter, moduleIds, List.filter_map, fallenFrom]
  congr 1
  refine List.filter_congr fun module listed => Bool.eq_iff_iff.mpr ?_
  have fallen : module ∈ model.fallenFrom reliances direct ↔ _ :=
    mem_fallenFrom_iff wellFormed listed
  rw [fallenFrom, List.mem_filter, and_iff_right listed] at fallen
  rw [fallen]
  simp

/-- A diagnostic that says of a module which modules made it fail, although it has no
error of its own. -/
structure ReportsReliance (model : Model) (reliances : Reliances) (direct : List ModuleId)
    (id : ModuleId) (diagnostic : Diagnostic) : Prop where
  kind : diagnostic.kind = .failedReliance
  scope : diagnostic.scope = some id
  location : diagnostic.location = (model.module id).location
  causes : ∃ causes : List ModuleId, causes ≠ [] ∧ causes.Pairwise (·.index < ·.index) ∧
    (∀ cause, cause ∈ causes ↔
      cause ∈ direct ∧ Relation.ReflTransGen (reliances.PassesOn direct) id cause) ∧
    diagnostic.rootCauses = causes.map model.path

/-- What a report says when some modules have errors and others rely on them. -/
structure Spreads (model : Model) (reliances : Reliances) (direct : List ModuleId)
    (report : FailureReport) : Prop where
  ascending : report.failed.Pairwise (·.index < ·.index)
  start : ∀ module ∈ direct, module ∈ report.failed
  closed : ∀ module other, (module, other) ∈ reliances → other ∈ report.failed →
    module ∈ report.failed
  /-- Every set that holds the modules with errors and is closed in the same way holds
  all that fail. -/
  least : ∀ larger : ModuleId → Prop, (∀ module ∈ direct, larger module) →
    (∀ module other, (module, other) ∈ reliances → larger other → larger module) →
      ∀ module ∈ report.failed, larger module
  derived : List.Forall₂ (model.ReportsReliance reliances direct)
    (report.failed.filter (· ∉ direct)) report.derived

/-- A module that only others made fail is told by which. -/
theorem fallen_reports (wellFormed : model.WellFormed) (among : reliances.Among model)
    (known : ∀ cause ∈ direct, cause ∈ model.moduleIds) {module : Module}
    (fell : module ∈ model.fallenFrom reliances direct) :
    model.ReportsReliance reliances direct module.id
      (model.derivedDiagnostic module (model.rootCauses reliances direct module.id)) := by
  obtain ⟨listed, kept⟩ := List.mem_filter.mp fell
  have inside : module.id ∈ model.moduleIds := List.mem_map_of_mem listed
  refine ⟨rfl, rfl, by rw [wellFormed.module_of_mem listed]; rfl,
    model.rootCauses reliances direct module.id, ?_, rootCauses_ascending wellFormed _, ?_, rfl⟩
  · simpa using (Bool.and_eq_true_iff.mp kept).2
  · intro cause
    rw [mem_rootCauses wellFormed inside, Reliances.leads_iff wellFormed among inside]
    exact ⟨And.right, fun causes => ⟨known cause causes.1, causes⟩⟩

/-- A set that is closed under reliances makes no other module fail. -/
theorem propagate_of_closed (wellFormed : model.WellFormed)
    (ascending : direct.Pairwise (·.index < ·.index))
    (known : ∀ module ∈ direct, module ∈ model.moduleIds)
    (closed : ∀ module other, (module, other) ∈ reliances → other ∈ direct → module ∈ direct) :
    model.propagate reliances direct = ⟨direct, []⟩ := by
  have failed : ∀ module ∈ (model.propagate reliances direct).failed, module ∈ direct :=
    fun module => failed_induction wellFormed (fun _ _ listed => listed)
      (fun source _ other relies later => closed source other relies later)
  have fallen : model.fallenFrom reliances direct = [] := by
    refine List.eq_nil_iff_forall_not_mem.mpr fun module fell => ?_
    obtain ⟨apart, inside⟩ :=
      (mem_fallenFrom_iff wellFormed (List.mem_of_mem_filter fell)).mp fell
    exact apart (failed _ inside)
  have same : (model.propagate reliances direct).failed = direct :=
    eq_of_ordered (fun _ _ => Nat.lt_asymm) (failed_ascending wellFormed) ascending fun module =>
      ⟨failed module, fun listed => failed_of_direct wellFormed (known module listed) listed⟩
  have nothing : (model.propagate reliances direct).derived = [] := by
    rw [propagate_derived, fallen, List.map_nil]
  exact FailureReport.mk.injEq .. ▸ ⟨same, nothing⟩

end Model

/-- Failure spreads to the least set of modules that holds those with errors and all
that rely on one of the set. Each module that only others made fail is told once by
which, and spreading the failure of all of them tells nothing more. -/
theorem failure_spreads (declarations : List ModuleDeclaration) (reliances : Reliances)
    (direct : List ModuleId) (among : reliances.Among (Model.ofDeclarations declarations))
    (known : ∀ module ∈ direct, module ∈ (Model.ofDeclarations declarations).moduleIds) :
    let model := Model.ofDeclarations declarations
    let report := model.propagate reliances direct
    model.Spreads reliances direct report ∧
      model.propagate reliances report.failed = ⟨report.failed, []⟩ := by
  intro model report
  have wellFormed : model.WellFormed := Model.ofDeclarations_wellFormed declarations
  have spreads : model.Spreads reliances direct report :=
    { ascending := Model.failed_ascending wellFormed
      start := fun module listed => Model.failed_of_direct wellFormed (known module listed) listed
      closed := fun module other relies failed =>
        Model.failed_of_reliance wellFormed (among _ relies).1 relies failed
      least := fun larger start spread module failed =>
        Model.failed_induction wellFormed (fun cause _ listed => start cause listed)
          (fun source _ other relies later => spread source other relies later) failed
      derived := by
        rw [Model.filter_failed wellFormed, Model.propagate_derived, List.forall₂_map_left_iff,
          List.forall₂_map_right_iff, List.forall₂_same]
        exact fun module fell => Model.fallen_reports wellFormed among known fell }
  refine ⟨spreads, Model.propagate_of_closed wellFormed spreads.ascending ?_ spreads.closed⟩
  exact fun module failed => (List.mem_filter.mp failed).1

/-- An application of four parts. -/
def sampleParts : List ModuleDeclaration :=
  [{ name := "app", modules := [{ name := "a" }, { name := "b" }, { name := "c" }, { name := "d" }] }]

/-- The parts `a` and `b` rely on each other, `b` on `c`, and `c` on `d`. -/
def samplePartReliances : Reliances :=
  [(⟨0⟩, ⟨1⟩), (⟨1⟩, ⟨2⟩), (⟨2⟩, ⟨1⟩), (⟨2⟩, ⟨3⟩), (⟨3⟩, ⟨4⟩)]

/-- When `c` and `d` have errors, all others fail because of `c` alone. -/
theorem sampleParts_failure_spreads :
    let model := Model.ofDeclarations sampleParts
    let report := model.propagate samplePartReliances [⟨3⟩, ⟨4⟩]
    report.failed = model.moduleIds ∧
      report.derived.map (·.rootCauses) = [["app.c"], ["app.c"], ["app.c"]] ∧
      model.Spreads samplePartReliances [⟨3⟩, ⟨4⟩] report ∧
      model.propagate samplePartReliances report.failed = ⟨report.failed, []⟩ := by
  have among : samplePartReliances.Among (Model.ofDeclarations sampleParts) := by
    unfold Reliances.Among
    decide +kernel
  have known : ∀ module ∈ [⟨3⟩, ⟨4⟩], module ∈ (Model.ofDeclarations sampleParts).moduleIds := by
    decide +kernel
  exact ⟨by decide +kernel, by decide +kernel,
    failure_spreads sampleParts samplePartReliances _ among known⟩

end StaticInjection
