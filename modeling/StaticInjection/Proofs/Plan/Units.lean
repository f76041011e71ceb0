import StaticInjection.Plan.Planning
import StaticInjection.Proofs.Graph.Dependency
import StaticInjection.Proofs.Graph.Presentation
import StaticInjection.Proofs.Plan.Schedule

/-! # The units of a module

A module builds its own beans and its children. The dependency edges that cross
from one unit to another are what the order of the steps respects, and where no
circle of units is found every unit is a step. -/

namespace StaticInjection.Model

/-- The units that a unit of a module needs. -/
abbrev neededUnits (model : Model) (id : ModuleId) : PlanStep → List PlanStep :=
  unitNeeds (model.crossings model.graph id)

variable {model : Model}

/-! ## Units of nodes -/

theorem unitOf?_eq_bean {id : ModuleId} {node : Provider} {bean : BeanId} :
    model.unitOf? id node = some (.bean bean) ↔
      node = .bean bean ∧ (model.bean bean).module = id := by
  unfold unitOf?
  constructor
  · intro found
    split at found
    · rename_i here
      cases node with
      | bean other =>
          cases found
          exact ⟨rfl, here⟩
      | socket other => cases found
    · obtain ⟨child, _, equal⟩ := Option.map_eq_some_iff.mp found
      cases equal
  · rintro ⟨rfl, here⟩
    rw [if_pos (show model.providerModule (.bean bean) = id from here)]

section

variable (wellFormed : model.WellFormed)

include wellFormed

theorem unitOf?_eq_module {id child : ModuleId} {node : Provider}
    (offered : model.Offers node) :
    model.unitOf? id node = some (.module child) ↔
      model.parent child = some id ∧ model.isWithin (model.providerModule node) child = true := by
  have known := wellFormed.providerModule_known offered
  rw [← wellFormed.childContaining?_eq_some known]
  unfold unitOf?
  constructor
  · intro found
    split at found
    · cases node with
      | bean bean => cases found
      | socket socket => cases found
    · obtain ⟨other, held, equal⟩ := Option.map_eq_some_iff.mp found
      cases equal
      exact held
  · intro held
    have apart : model.providerModule node ≠ id := by
      intro same
      rw [same, childContaining?, if_pos rfl] at held
      cases held
    rw [if_neg apart, held]
    rfl

theorem mem_units_bean {id : ModuleId} (known : id ∈ model.moduleIds) {bean : BeanId} :
    .bean bean ∈ model.units id ↔ bean ∈ model.beanIds ∧ (model.bean bean).module = id := by
  rw [← wellFormed.beans id known bean]
  simp [units]

theorem mem_units_module {id : ModuleId} (known : id ∈ model.moduleIds) {child : ModuleId} :
    .module child ∈ model.units id ↔ child ∈ model.moduleIds ∧ model.parent child = some id := by
  rw [← wellFormed.children id known child]
  simp [units]

theorem units_nodup {id : ModuleId} (known : id ∈ model.moduleIds) :
    (model.units id).Nodup := by
  have beans := (wellFormed.beans_placed id known).nodup
  refine List.nodup_append.mpr ⟨?_, ?_, ?_⟩
  · exact beans.map fun left right equal => PlanStep.bean.inj equal
  · exact (wellFormed.children_nodup id known).map fun left right equal =>
      PlanStep.module.inj equal
  · intro left leftMember right rightMember equal
    obtain ⟨bean, _, rfl⟩ := List.mem_map.mp leftMember
    obtain ⟨child, _, rfl⟩ := List.mem_map.mp rightMember
    cases equal

theorem unitOf?_mem_units {id : ModuleId} (known : id ∈ model.moduleIds) {node : Provider}
    (offered : model.Offers node) {unit : PlanStep} (found : model.unitOf? id node = some unit) :
    unit ∈ model.units id := by
  cases unit with
  | bean bean =>
      obtain ⟨rfl, here⟩ := unitOf?_eq_bean.mp found
      exact (mem_units_bean wellFormed known).mpr ⟨offered, here⟩
  | module child =>
      obtain ⟨isChild, within⟩ := (unitOf?_eq_module wellFormed offered).mp found
      have childKnown :=
        wellFormed.isWithin_known (wellFormed.providerModule_known offered) within
      exact (mem_units_module wellFormed known).mpr ⟨childKnown, isChild⟩

/-! ## Needs -/

omit wellFormed in
theorem mem_crossings {graph : DependencyGraph} {id : ModuleId} {crossing : Crossing} :
    crossing ∈ model.crossings graph id ↔
      crossing.edge ∈ graph.edges ∧ crossing.edge.isLazy = false ∧
        model.unitOf? id crossing.edge.source = some crossing.source ∧
        model.unitOf? id crossing.edge.target = some crossing.target ∧
        crossing.source ≠ crossing.target := by
  unfold crossings
  rw [List.mem_filterMap]
  constructor
  · rintro ⟨edge, member, found⟩
    simp only [crossing?, bind, Option.bind_eq_some_iff] at found
    obtain ⟨source, sourceUnit, target, targetUnit, found⟩ := found
    split at found
    · cases found
    · rename_i kept
      cases found
      simp only [Bool.or_eq_true, beq_iff_eq, not_or, Bool.not_eq_true] at kept
      exact ⟨member, kept.1, sourceUnit, targetUnit, kept.2⟩
  · rintro ⟨member, eager, source, target, different⟩
    refine ⟨crossing.edge, member, ?_⟩
    simp only [crossing?, bind, source, target, Option.bind_some, eager, Bool.false_or,
      beq_iff_eq, different, if_false]

omit wellFormed in
theorem mem_neededUnits {id : ModuleId} {unit need : PlanStep} :
    need ∈ model.neededUnits id unit ↔
      ∃ edge ∈ model.graph.edges, edge.isLazy = false ∧
        model.unitOf? id edge.source = some unit ∧
        model.unitOf? id edge.target = some need ∧ unit ≠ need := by
  simp only [neededUnits, unitNeeds, List.mem_map, List.mem_filter, beq_iff_eq]
  constructor
  · rintro ⟨crossing, ⟨member, rfl⟩, rfl⟩
    rw [mem_crossings] at member
    obtain ⟨inside, eager, source, target, different⟩ := member
    exact ⟨crossing.edge, inside, eager, source, target, different⟩
  · rintro ⟨edge, inside, eager, source, target, different⟩
    refine ⟨⟨unit, need, edge⟩, ⟨?_, rfl⟩, rfl⟩
    rw [mem_crossings]
    exact ⟨inside, eager, source, target, different⟩

theorem neededUnits_mem_units {id : ModuleId} (known : id ∈ model.moduleIds)
    {unit need : PlanStep} (needed : need ∈ model.neededUnits id unit) :
    need ∈ model.units id := by
  rw [mem_neededUnits] at needed
  obtain ⟨edge, inside, _, _, target, _⟩ := needed
  exact unitOf?_mem_units wellFormed known (wellFormed.edge_offers inside).2 target

/-! ## Circles -/

omit wellFormed in
theorem unitGraph_edge_iff {items : List PlanStep} (nodup : items.Nodup) {crossings : List Crossing}
    {source target : Nat} : (unitGraph items crossings).Edge source target ↔
      source < items.length ∧ target < items.length ∧
        itemAt items target ∈ unitNeeds crossings (itemAt items source) := by
  unfold Adjacency.Edge Adjacency.successors unitGraph unitNeeds
  rw [List.getD_eq_getElem?_getD, List.getElem?_map]
  by_cases inside : source < items.length
  · rw [getElem?_eq_itemAt inside]
    simp only [Option.map_some, Option.getD_some, List.mem_filterMap, List.mem_map,
      idxOf?_eq_some_itemAt nodup, inside, true_and]
    constructor
    · rintro ⟨crossing, kept, targetInside, isTarget⟩
      exact ⟨targetInside, crossing, kept, isTarget.symm⟩
    · rintro ⟨targetInside, crossing, kept, isTarget⟩
      exact ⟨crossing, kept, targetInside, isTarget.symm⟩
  · simp [inside]

/-- The graph on the places of units says what they need. -/
theorem unitGraph_presents {id : ModuleId} (known : id ∈ model.moduleIds) :
    (unitGraph (model.units id) (model.crossings model.graph id)).Presents (model.units id)
      fun unit need => need ∈ model.neededUnits id unit where
  nodup := units_nodup wellFormed known
  length := List.length_map _
  edge_iff _ _ := unitGraph_edge_iff (units_nodup wellFormed known)
  listed unit need needed := by
    obtain ⟨edge, inside, _, source, _⟩ := mem_neededUnits.mp needed
    exact ⟨unitOf?_mem_units wellFormed known (wellFormed.edge_offers inside).1 source,
      neededUnits_mem_units wellFormed known needed⟩

theorem unitCycles_eq_nil_iff {id : ModuleId} (known : id ∈ model.moduleIds) :
    model.unitCycles model.graph id = [] ↔
      ¬ Schedule.HasCircle (model.neededUnits id) (model.units id) := by
  have irreflexive : ∀ unit, unit ∉ model.neededUnits id unit := by
    intro unit needed
    rw [mem_neededUnits] at needed
    obtain ⟨_, _, _, _, _, different⟩ := needed
    exact different rfl
  rw [Schedule.HasCircle, ← (unitGraph_presents wellFormed known).several_iff irreflexive]
  simp [unitCycles]

/-! ## Steps -/

/-- Every unit is a step, once. -/
theorem steps_perm {id : ModuleId} (known : id ∈ model.moduleIds)
    (clean : model.unitCycles model.graph id = []) :
    (model.steps model.graph id).Perm (model.units id) := by
  refine (List.perm_ext_iff_of_nodup (Schedule.nodup_order (units_nodup wellFormed known))
    (units_nodup wellFormed known)).mpr fun unit => ⟨Schedule.mem_of_mem_order, ?_⟩
  exact Schedule.mem_order (fun unit _ need needed => neededUnits_mem_units wellFormed known needed)
    ((unitCycles_eq_nil_iff wellFormed known).mp clean)

omit wellFormed in
/-- A step comes after the steps that it needs. -/
theorem need_before {id : ModuleId} {before after : List PlanStep} {unit need : PlanStep}
    (split : model.steps model.graph id = before ++ unit :: after)
    (needed : need ∈ model.neededUnits id unit) : need ∈ before := by
  have ordered : Schedule.InOrder (model.neededUnits id) [] (before ++ unit :: after) :=
    split ▸ Schedule.order_inOrder (model.units id)
  rcases ordered.needs_before need needed with earlier | done
  · exact earlier
  · cases done

omit wellFormed in
theorem step_before {id : ModuleId} {before after : List PlanStep} {unit need : PlanStep}
    (split : model.steps model.graph id = before ++ unit :: after)
    {edge : Dependency} (inside : edge ∈ model.graph.edges) (eager : edge.isLazy = false)
    (source : model.unitOf? id edge.source = some unit)
    (target : model.unitOf? id edge.target = some need) (different : unit ≠ need) :
    need ∈ before := by
  apply need_before split
  rw [mem_neededUnits]
  exact ⟨edge, inside, eager, source, target, different⟩

end

end StaticInjection.Model
