import StaticInjection.Diagnostic.Report
import StaticInjection.Plan.Planning
import StaticInjection.Propagation

namespace StaticInjection

/-! Planning may find modules that cannot be built. It is then done again without them and without the
modules that need them. -/

structure PlanRound where
  /-- The modules left out. -/
  failed : List ModuleId
  planning : Planning
deriving Inhabited

namespace PlanRound

/-- Whether a round shows that more modules fail than were left out. -/
def findsMore (round : PlanRound) (reported : List Diagnostic) : Bool :=
  !round.planning.diagnostics.isEmpty &&
    (Diagnostic.failingModules (reported ++ round.planning.diagnostics)).any
      fun module => !round.failed.contains module

end PlanRound

namespace Model

/-- One round, given what has been reported before it. -/
def planRound (model : Model) (wires : WireSet) (reported : List Diagnostic) : PlanRound :=
  let direct := Diagnostic.failingModules reported
  let failed := (model.propagate (model.reliances wires) direct).failed
  { failed, planning := model.planAll wires (model.dependencyGraph wires) failed }

/-- The rounds until one finds no more failing modules. The number bounds those that may follow the
first. -/
def planRounds (model : Model) (wires : WireSet) : Nat → List Diagnostic → List PlanRound
  | 0, reported => [model.planRound wires reported]
  | bound + 1, reported =>
    let round := model.planRound wires reported
    if round.findsMore reported then
      round :: model.planRounds wires bound (reported ++ round.planning.diagnostics)
    else [round]

/-- Every further round leaves out more modules. -/
def allRounds (model : Model) (wires : WireSet) (reported : List Diagnostic) : List PlanRound :=
  model.planRounds wires model.modules.length reported

end Model

namespace PlanRound

/-- The plan of the last round. -/
def finalPlan (rounds : List PlanRound) : Plan :=
  (rounds.getLast?.map (·.planning.plan)).getD default

def diagnostics (rounds : List PlanRound) : List Diagnostic :=
  rounds.flatMap (·.planning.diagnostics)

end PlanRound

end StaticInjection
