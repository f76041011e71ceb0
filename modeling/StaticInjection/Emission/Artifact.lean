import StaticInjection.Code.Printer
import StaticInjection.Emission.Assembly

namespace StaticInjection

/-! What is generated for a module. -/

structure Artifact where
  module : ModuleId
  path : String
  source : String
  descriptor : Descriptor
deriving DecidableEq

namespace Artifact

def sourceFile (artifact : Artifact) : String :=
  Naming.sourceFile artifact.path

def descriptorFile (artifact : Artifact) : String :=
  Naming.descriptorFile artifact.path

end Artifact

/-- The first lines of generated files, unless they are set. -/
def defaultHeader : String := "// @generated by wiringc. DO NOT EDIT."

namespace Model

def artifact (model : Model) (wires : WireSet) (plan : Plan) (modulePlan : ModulePlan)
    (header : String) : Artifact :=
  let id := modulePlan.module
  { module := id
    path := model.path id
    source := (model.moduleCode wires plan modulePlan header).text
    descriptor := model.describe id }

/-- The artifact of a module, or what keeps it from being generated. -/
def emit (model : Model) (wires : WireSet) (plan : Plan) (header : String) (id : ModuleId) :
    Except (List Diagnostic) Artifact :=
  match plan.module? id with
  | none => .error (emissionReports id { module := model.path id } [.noPlan])
  | some modulePlan =>
    let faults := model.emissionFaults id
    if faults.isEmpty then .ok (model.artifact wires plan modulePlan header) else .error faults

end Model

end StaticInjection
