import StaticInjection.Graph.Adjacency
import StaticInjection.Model.Basic
import StaticInjection.Wire.Basic

namespace StaticInjection

/-! Failure spreads from a module to all modules that need it for their own construction. -/

/-- Pairs of a module and one that it relies on. -/
abbrev Reliances := List (ModuleId × ModuleId)

namespace Model

def moduleIds (model : Model) : List ModuleId :=
  model.modules.map (·.id)

/-- The module in which a socket is wired: that of its bean, or the one around a module socket's. -/
def wiringModule? (model : Model) (socket : SocketId) : Option ModuleId :=
  match (model.socket socket).owner with
  | .bean bean => some (model.bean bean).module
  | .module module => (model.module module).parent

/-- A module relies on its children. -/
def childReliances (model : Model) : Reliances :=
  model.modules.flatMap fun module => module.children.map fun child => (module.id, child)

/-- The module of a wire relies on the modules of the targets. -/
def wireReliances (model : Model) (wire : Wire) : Reliances :=
  match model.wiringModule? wire.socket with
  | none => []
  | some module =>
    (wire.targets.map fun target => (module, model.providerModule target)).filter
      fun (module, owner) => owner != module

def reliances (model : Model) (wires : WireSet) : Reliances :=
  model.childReliances ++ wires.wires.flatMap model.wireReliances

end Model

namespace Reliances

def on (reliances : Reliances) (model : Model) (module : ModuleId) : List ModuleId :=
  model.moduleIds.filter fun other => reliances.contains (module, other)

/-- The reliances between positions of modules, without those of the modules given. -/
def without (reliances : Reliances) (model : Model) (direct : List ModuleId) : Adjacency :=
  model.moduleIds.map fun module =>
    if direct.contains module then [] else (reliances.on model module).map (·.index)

end Reliances

/-- Which modules fail, and the diagnostics for those that fail because of others. -/
structure FailureReport where
  failed : List ModuleId
  derived : List Diagnostic
deriving Inhabited

namespace FailureReport

def isFailed (report : FailureReport) (module : ModuleId) : Bool :=
  report.failed.contains module

end FailureReport

namespace Model

/-- The failing modules that a module reaches without passing through another failing one. -/
def rootCauses (model : Model) (reliances : Reliances) (direct : List ModuleId)
    (module : ModuleId) : List ModuleId :=
  let reached := (reliances.without model direct).reachable module.index
  model.moduleIds.filter fun other => direct.contains other && reached.contains other.index

def derivedDiagnostic (model : Model) (module : Module) (causes : List ModuleId) : Diagnostic :=
  let paths := causes.map model.path
  let list := ", ".intercalate paths
  { kind := .failedReliance
    location := module.location
    message := s!"依赖的模块解析失败: {list}"
    rootCauses := paths
    scope := some module.id }

/-- The modules that fail only because of others, with their causes. -/
def derivedFailures (model : Model) (reliances : Reliances) (direct : List ModuleId) :
    List (Module × List ModuleId) :=
  ((model.modules.filter fun module => !direct.contains module.id).map fun module =>
    (module, model.rootCauses reliances direct module.id)).filter fun (_, causes) => !causes.isEmpty

def propagate (model : Model) (reliances : Reliances) (direct : List ModuleId) : FailureReport :=
  let derived := model.derivedFailures reliances direct
  { failed := model.moduleIds.filter fun module =>
      direct.contains module || derived.any fun (failing, _) => failing.id == module
    derived := derived.map fun (module, causes) => model.derivedDiagnostic module causes }

end Model

end StaticInjection
