import Mathlib.Data.List.Basic
import StaticInjection.Plan.Planning
import StaticInjection.Propagation

/-! # The plans of all modules

Every module that is not left out and whose units need each other in no circle has
one plan. -/

namespace StaticInjection

/-- What is made of some items in turn has their keys in turn. -/
theorem sublist_of_filterMap {make : α → Option β} {key : β → γ} {place : α → γ}
    (agree : ∀ item made, make item = some made → key made = place item) (items : List α) :
    ((items.filterMap make).map key).Sublist (items.map place) := by
  induction items with
  | nil => exact .slnil
  | cons head tail induction =>
      cases made : make head with
      | none =>
          rw [List.filterMap_cons_none made]
          exact induction.cons _
      | some item =>
          rw [List.filterMap_cons_some made, List.map_cons, List.map_cons, agree head item made]
          exact induction.cons_cons _

namespace Model

variable {model : Model}

/-- What the planner makes of a module without circles. -/
structure IsPlanFor (model : Model) (graph : DependencyGraph) (deferred : List DeferredEdge)
    (id : ModuleId) (plan : ModulePlan) : Prop where
  module : plan.module = id
  noCycle : model.unitCycles graph id = []
  steps : plan.steps = model.steps graph id
  imports : plan.imports = model.imports graph deferred id
  deferredIn : plan.deferredIn = model.deferredInto deferred id
  deferredOwned : plan.deferredOwned = deferredOwnedBy deferred id

theorem isPlanFor_of_ok {graph : DependencyGraph} {deferred : List DeferredEdge}
    {id : ModuleId} {plan : ModulePlan}
    (planned : model.planModule graph deferred id = .ok plan) :
    model.IsPlanFor graph deferred id plan := by
  simp only [planModule] at planned
  split at planned
  · rename_i noCycle
    injection planned with equal
    subst equal
    exact ⟨rfl, List.isEmpty_iff.mp noCycle, rfl, rfl, rfl, rfl⟩
  · cases planned

theorem exists_plan {graph : DependencyGraph} (deferred : List DeferredEdge) {id : ModuleId}
    (noCycle : model.unitCycles graph id = []) :
    ∃ plan, model.planModule graph deferred id = .ok plan := by
  simp only [planModule, noCycle]
  exact ⟨_, rfl⟩

section All

variable {wires : WireSet} {graph : DependencyGraph} {failed : List ModuleId}

theorem mem_plans {plan : ModulePlan} :
    plan ∈ (model.planAll wires graph failed).plan.modules ↔
      ∃ id ∈ model.moduleIds, id ∉ failed ∧
        model.planModule graph (model.deferredEdges wires failed) id = .ok plan := by
  simp only [planAll, planModules, List.filterMap_map, List.mem_filterMap, List.mem_filter,
    Function.comp, moduleIds, List.mem_map]
  constructor
  · rintro ⟨module, ⟨member, kept⟩, found⟩
    refine ⟨module.id, ⟨module, member, rfl⟩, by simpa using kept, ?_⟩
    cases made : model.planModule graph (model.deferredEdges wires failed) module.id with
    | error cycles => simp [made, Except.toOption] at found
    | ok other => simpa [made, Except.toOption] using found
  · rintro ⟨_, ⟨module, member, rfl⟩, kept, made⟩
    exact ⟨module, ⟨member, by simpa using kept⟩, by simp [made, Except.toOption]⟩

/-- A plan is found by its module. -/
theorem module?_of_mem {plan : ModulePlan}
    (member : plan ∈ (model.planAll wires graph failed).plan.modules) :
    (model.planAll wires graph failed).plan.module? plan.module = some plan := by
  cases found : (model.planAll wires graph failed).plan.module? plan.module with
  | none =>
      have missed := List.find?_eq_none.mp found plan member
      simp at missed
  | some other =>
      have same : other.module = plan.module := by simpa using List.find?_some found
      obtain ⟨id, _, _, made⟩ := mem_plans.mp member
      obtain ⟨otherId, _, _, otherMade⟩ := mem_plans.mp (List.mem_of_find?_eq_some found)
      rw [(isPlanFor_of_ok made).module, (isPlanFor_of_ok otherMade).module] at same
      rw [same, made] at otherMade
      exact congrArg some (Except.ok.inj otherMade).symm

/-- The plans stand in the order of the modules. -/
theorem plans_sublist :
    ((model.planAll wires graph failed).plan.modules.map (·.module)).Sublist model.moduleIds := by
  have agree : ∀ (module : Module) (plan : ModulePlan), (model.planModule graph
      (model.deferredEdges wires failed) module.id).toOption = some plan →
        plan.module = module.id := by
    intro module plan found
    cases made : model.planModule graph (model.deferredEdges wires failed) module.id with
    | error cycles => simp [made, Except.toOption] at found
    | ok other =>
        simp only [made, Except.toOption, Option.some.injEq] at found
        exact found ▸ (isPlanFor_of_ok made).module
  simp only [planAll, planModules, List.filterMap_map]
  exact (sublist_of_filterMap agree _).trans (List.filter_sublist.map _)

theorem map_filter_modules (model : Model) (failed : List ModuleId) :
    (model.modules.filter fun module => !failed.contains module.id).map (·.id) =
      model.moduleIds.filter (· ∉ failed) := by
  simp [moduleIds, List.filter_map, Function.comp_def]

/-- The circles of all modules that are not left out are reported, whatever is left out. -/
theorem planAll_diagnostics : (model.planAll wires graph failed).diagnostics =
    (model.moduleIds.filter (· ∉ failed)).flatMap fun id =>
      (model.unitCycles graph id).map (model.unitCycleDiagnostic id) := by
  rw [← map_filter_modules, List.flatMap_map]
  simp only [planAll, planModules, List.flatMap_map]
  refine List.flatMap_congr fun module _ => ?_
  by_cases noCycle : model.unitCycles graph module.id = []
  · obtain ⟨plan, made⟩ := exists_plan (model.deferredEdges wires failed) noCycle
    simp only [made, noCycle, List.map_nil]
  · simp only [planModule, List.isEmpty_iff, noCycle, if_false]

theorem mem_planAll_diagnostics {diagnostic : Diagnostic} :
    diagnostic ∈ (model.planAll wires graph failed).diagnostics ↔
      ∃ id ∈ model.moduleIds, id ∉ failed ∧
        ∃ cycle ∈ model.unitCycles graph id, model.unitCycleDiagnostic id cycle = diagnostic := by
  simp [planAll_diagnostics, and_assoc]

theorem planAll_silent_iff : (model.planAll wires graph failed).diagnostics = [] ↔
    ∀ id ∈ model.moduleIds, id ∉ failed → model.unitCycles graph id = [] := by
  simp [planAll_diagnostics]

/-- Where nothing is reported, every module that is not left out has its plan. -/
theorem plans_of_silent (silent : (model.planAll wires graph failed).diagnostics = []) :
    (model.planAll wires graph failed).plan.modules.map (·.module) =
      model.moduleIds.filter (· ∉ failed) := by
  have noCycle := planAll_silent_iff.mp silent
  rw [← map_filter_modules]
  simp only [planAll, planModules, List.map_filterMap, List.filterMap_map]
  rw [← List.filterMap_eq_map]
  refine List.filterMap_congr fun module listed => ?_
  obtain ⟨member, alive⟩ := List.mem_filter.mp listed
  obtain ⟨plan, made⟩ := exists_plan (model.deferredEdges wires failed)
    (noCycle module.id (List.mem_map_of_mem member) (by simpa using alive))
  simp [made, Except.toOption, (isPlanFor_of_ok made).module]

end All

end Model

end StaticInjection
