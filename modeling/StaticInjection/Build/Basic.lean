import StaticInjection.Build.Outcome
import StaticInjection.Build.Rounds
import StaticInjection.Emission.Artifact
import StaticInjection.Model.Fault
import StaticInjection.Model.Layout
import StaticInjection.Wire.Resolution

namespace StaticInjection

/-! A build turns declarations into artifacts and diagnostics. No module is built that has an error or
needs one that has. -/

structure Build where
  /-- In the order of the modules. -/
  artifacts : List Artifact
  /-- Sorted. -/
  diagnostics : List Diagnostic
  /-- In the order of the modules. -/
  outcomes : List ModuleOutcome
deriving Inhabited

namespace Model

/-! ## Stages -/

/-- What is wrong before any socket is resolved. -/
def structureDiagnostics (model : Model) : List Diagnostic :=
  model.faults ++ model.duplicates

def resolutions (model : Model) : List Resolution :=
  model.moduleIds.map model.resolveModule

def wireDiagnostics (model : Model) (wires : WireSet) : List Diagnostic :=
  model.cycleDiagnostics (model.dependencyGraph wires).cycles

/-- Each planned module with its artifact, or with what keeps it from being generated. -/
def emissions (model : Model) (wires : WireSet) (header : String) (plan : Plan) :
    List (Except (List Diagnostic) Artifact) :=
  plan.modules.map fun modulePlan => model.emit wires plan header modulePlan.module

def emissionDiagnostics : Except (List Diagnostic) Artifact → List Diagnostic
  | .ok _ => []
  | .error diagnostics => diagnostics

/-! ## Conclusion -/

def outcome (artifacts : List Artifact) (direct : List ModuleId) (report : FailureReport)
    (module : Module) : Outcome :=
  if artifacts.any (·.module == module.id) then .emitted
  else if direct.contains module.id || !report.isFailed module.id then .failed
  else .skipped

/-- What a build comes to, given what was generated, in whatever order, and reported. -/
def conclude (model : Model) (wires : WireSet) (generated : List Artifact)
    (reported : List Diagnostic) : Build :=
  let direct := Diagnostic.failingModules reported
  let report := model.propagate (model.reliances wires) direct
  let kept := model.moduleIds.filter fun id => !report.isFailed id
  let artifacts := kept.filterMap fun id => generated.find? (·.module == id)
  { artifacts
    diagnostics := Diagnostic.sort (reported ++ report.derived)
    outcomes := model.modules.map fun module =>
      { path := module.path, outcome := outcome artifacts direct report module } }

/-- The rest of a build once its sockets are resolved. -/
def complete (model : Model) (header : String) (wires : WireSet) (reported : List Diagnostic) :
    Build :=
  let beforePlan := reported ++ model.wireDiagnostics wires
  let rounds := model.allRounds wires beforePlan
  let emissions := model.emissions wires header (PlanRound.finalPlan rounds)
  model.conclude wires (emissions.filterMap (·.toOption))
    (beforePlan ++ PlanRound.diagnostics rounds ++ emissions.flatMap emissionDiagnostics)

end Model

namespace Build

def ofModel (model : Model) (header : String) : Build :=
  model.complete header model.wires
    (model.structureDiagnostics ++ model.resolutions.flatMap (·.diagnostics))

def ofDeclarations (declarations : List ModuleDeclaration) (header : String) : Build :=
  ofModel (Model.ofDeclarations declarations) header

/-- A build succeeds when nothing is reported. -/
def isSuccess (build : Build) : Bool :=
  build.diagnostics.isEmpty

end Build

end StaticInjection
