import StaticInjection.Proofs.Build.Survival

/-! # How planning ends

Planning is done again as long as it shows that more modules fail. Every circle of
units is reported in the first round, whatever has been reported before, but for those
of modules that fail already; so the second round, if there is one, reports nothing. -/

namespace StaticInjection

/-- Why no further round of planning follows. -/
inductive PlanningEnd where
  /-- The last round reports nothing. -/
  | settled
  /-- The last round reports something, but no further module fails because of it. -/
  | stalled
deriving DecidableEq, Repr

namespace Model

/-- The rounds of planning after some diagnostics, with no bound on their number, and why
they end. -/
inductive Plans (model : Model) (wires : WireSet) :
    List Diagnostic → List PlanRound → PlanningEnd → Prop
  | settled {reported : List Diagnostic}
      (silent : (model.planRound wires reported).planning.diagnostics = []) :
      Plans model wires reported [model.planRound wires reported] .settled
  | stalled {reported : List Diagnostic}
      (loud : (model.planRound wires reported).planning.diagnostics ≠ [])
      (same : ∀ id ∈ Diagnostic.failingModules
        (reported ++ (model.planRound wires reported).planning.diagnostics),
          id ∈ (model.planRound wires reported).failed) :
      Plans model wires reported [model.planRound wires reported] .stalled
  | again {reported : List Diagnostic} {later : List PlanRound} {ending : PlanningEnd}
      (loud : (model.planRound wires reported).planning.diagnostics ≠ [])
      (more : ∃ id ∈ Diagnostic.failingModules
        (reported ++ (model.planRound wires reported).planning.diagnostics),
          id ∉ (model.planRound wires reported).failed)
      (rest : Plans model wires
        (reported ++ (model.planRound wires reported).planning.diagnostics) later ending) :
      Plans model wires reported (model.planRound wires reported :: later) ending

variable {model : Model} {wires : WireSet}

theorem Plans.unique {reported : List Diagnostic} {left right : List PlanRound}
    {leftEnd rightEnd : PlanningEnd} (leftPlans : model.Plans wires reported left leftEnd)
    (rightPlans : model.Plans wires reported right rightEnd) :
    left = right ∧ leftEnd = rightEnd := by
  induction leftPlans generalizing right rightEnd with
  | settled silent =>
      cases rightPlans with
      | settled => exact ⟨rfl, rfl⟩
      | stalled loud => exact absurd silent loud
      | again loud => exact absurd silent loud
  | stalled loud same =>
      cases rightPlans with
      | settled silent => exact absurd silent loud
      | stalled => exact ⟨rfl, rfl⟩
      | again _ more =>
          obtain ⟨id, failing, apart⟩ := more
          exact absurd (same id failing) apart
  | again loud more _ induction =>
      cases rightPlans with
      | settled silent => exact absurd silent loud
      | stalled _ same =>
          obtain ⟨id, failing, apart⟩ := more
          exact absurd (same id failing) apart
      | again _ _ rest =>
          obtain ⟨equal, sameEnd⟩ := induction rest
          exact ⟨by rw [equal], sameEnd⟩

/-! ## One round -/

/-- A module that a round reports was not left out of it. -/
theorem exists_more {reported : List Diagnostic}
    (loud : (model.planRound wires reported).planning.diagnostics ≠ []) :
    ∃ id ∈ Diagnostic.failingModules
      (reported ++ (model.planRound wires reported).planning.diagnostics),
        id ∉ (model.planRound wires reported).failed := by
  obtain ⟨diagnostic, report⟩ := List.exists_mem_of_ne_nil _ loud
  obtain ⟨id, _, kept, cycle, _, rfl⟩ := mem_planAll_diagnostics.mp report
  exact ⟨id, Diagnostic.mem_failingModules.mpr
    ⟨_, List.mem_append_right _ report, by simp [unitCycleDiagnostic], rfl⟩, kept⟩

theorem findsMore_iff {reported : List Diagnostic} :
    (model.planRound wires reported).findsMore reported = true ↔
      (model.planRound wires reported).planning.diagnostics ≠ [] := by
  simp only [PlanRound.findsMore, Bool.and_eq_true, Bool.not_eq_true', List.isEmpty_eq_false_iff,
    List.any_eq_true, List.contains_eq_mem, decide_eq_false_iff_not]
  exact and_iff_left_of_imp exists_more

/-- After one round no circle of units is left to report: its module fails by it. -/
theorem second_round_silent (wellFormed : model.WellFormed) (wires : WireSet)
    (reported : List Diagnostic) :
    (model.planRound wires (reported ++
      (model.planRound wires reported).planning.diagnostics)).planning.diagnostics = [] := by
  refine planAll_silent_iff.mpr fun id known kept => ?_
  refine List.eq_nil_iff_forall_not_mem.mpr fun cycle member => kept ?_
  by_cases failed : id ∈ (model.planRound wires reported).failed
  · refine failed_mono wellFormed (fun module failing => ?_) failed
    obtain ⟨diagnostic, listed, blames⟩ := Diagnostic.mem_failingModules.mp failing
    exact Diagnostic.mem_failingModules.mpr
      ⟨diagnostic, List.mem_append_left _ listed, blames⟩
  · have report : model.unitCycleDiagnostic id cycle ∈
        (model.planRound wires reported).planning.diagnostics :=
      mem_planAll_diagnostics.mpr ⟨id, known, failed, cycle, member, rfl⟩
    exact failed_of_direct wellFormed known (Diagnostic.mem_failingModules.mpr
      ⟨_, List.mem_append_right _ report, by simp [unitCycleDiagnostic], rfl⟩)

/-! ## All rounds -/

theorem planRounds_of_silent {reported : List Diagnostic}
    (silent : (model.planRound wires reported).planning.diagnostics = []) (bound : Nat) :
    model.planRounds wires bound reported = [model.planRound wires reported] := by
  cases bound with
  | zero => rfl
  | succ bound =>
      have last : ¬ (model.planRound wires reported).findsMore reported = true := by
        rw [findsMore_iff]
        exact not_not_intro silent
      simp only [planRounds, if_neg last]

/-- The bound on the rounds is never what ends them. -/
theorem allRounds_eq (wellFormed : model.WellFormed) (reported : List Diagnostic) :
    model.allRounds wires reported =
      if (model.planRound wires reported).planning.diagnostics = [] then
        [model.planRound wires reported]
      else
        [model.planRound wires reported, model.planRound wires
          (reported ++ (model.planRound wires reported).planning.diagnostics)] := by
  unfold allRounds
  split
  · rename_i silent
    exact planRounds_of_silent silent _
  · rename_i loud
    cases modules : model.modules with
    | nil =>
        refine absurd (planAll_silent_iff.mpr fun id known => ?_) loud
        rw [moduleIds, modules] at known
        cases known
    | cons first others =>
        simp only [List.length_cons, planRounds, if_pos (findsMore_iff.mpr loud),
          planRounds_of_silent (second_round_silent wellFormed wires reported)]

/-- The last round is made of all that is reported, and reports nothing. -/
theorem exists_settled_round (wellFormed : model.WellFormed) (wires : WireSet)
    (reported : List Diagnostic) :
    let rounds := model.allRounds wires reported
    model.Plans wires reported rounds .settled ∧ rounds.length ≤ 2 ∧
      (model.planRound wires (reported ++ PlanRound.diagnostics rounds)).planning.diagnostics = [] ∧
      rounds.getLast? = some (model.planRound wires (reported ++ PlanRound.diagnostics rounds)) := by
  intro rounds
  have all : rounds = _ := allRounds_eq wellFormed reported
  split at all
  · rename_i silent
    have diagnostics : reported ++ PlanRound.diagnostics rounds = reported := by
      rw [all, PlanRound.diagnostics, List.flatMap_singleton, silent, List.append_nil]
    rw [diagnostics, all]
    exact ⟨.settled silent, by simp, silent, rfl⟩
  · rename_i loud
    have second := second_round_silent wellFormed wires reported
    have diagnostics : PlanRound.diagnostics rounds =
        (model.planRound wires reported).planning.diagnostics := by
      rw [all, PlanRound.diagnostics, List.flatMap_cons, List.flatMap_singleton, second,
        List.append_nil]
    rw [diagnostics, all]
    exact ⟨.again loud (exists_more loud) (.settled second), by simp, second, rfl⟩

end Model

/-- Whatever has been reported, planning ends after two rounds at most, because the last
of them reports nothing. The plan then has each module once, in order, that does not fail
by what has been reported up to then. -/
theorem planning_ends (declarations : List ModuleDeclaration) (wires : WireSet)
    (reported : List Diagnostic) :
    let model := Model.ofDeclarations declarations
    let rounds := model.allRounds wires reported
    let failure := model.propagate (model.reliances wires)
      (Diagnostic.failingModules (reported ++ PlanRound.diagnostics rounds))
    rounds.length ≤ 2 ∧
      model.Plans wires reported rounds .settled ∧
      (∀ others ending, model.Plans wires reported others ending →
        others = rounds ∧ ending = .settled) ∧
      (PlanRound.finalPlan rounds).modules.map (·.module) =
        model.moduleIds.filter (· ∉ failure.failed) := by
  intro model rounds failure
  have wellFormed : model.WellFormed := Model.ofDeclarations_wellFormed declarations
  obtain ⟨plans, count, silent, last⟩ := Model.exists_settled_round wellFormed wires reported
  refine ⟨count, plans, fun others ending plansToo => plansToo.unique plans, ?_⟩
  rw [PlanRound.finalPlan, last]
  exact Model.plans_of_silent silent

end StaticInjection
