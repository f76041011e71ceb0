import StaticInjection.Graph.Cycle
import StaticInjection.Model.Tree
import StaticInjection.Plan.Basic
import StaticInjection.Plan.Schedule

namespace StaticInjection

/-! Planning: an order of all beans, and for each module the order of its own construction. -/

namespace Model

/-! ## All beans -/

/-- What a node needs at once, among nodes for which there is a plan. -/
def needs (model : Model) (graph : DependencyGraph) (failed : List ModuleId) (node : Provider) :
    List Provider :=
  ((graph.outgoing node).filter fun edge =>
    !edge.isLazy && !failed.contains (model.providerModule edge.target) &&
      edge.target != node).map (·.target)

/-- The sockets and beans of the modules that have not failed, module by module. -/
def aliveNodes (model : Model) (failed : List ModuleId) : List Provider :=
  (model.modules.filter fun module => !failed.contains module.id).flatMap fun module =>
    module.sockets.map .socket ++ module.beans.map .bean

def beanOrder (model : Model) (graph : DependencyGraph) (failed : List ModuleId) : List BeanId :=
  (Schedule.order (model.needs graph failed) (model.aliveNodes failed)).filterMap (·.bean?)

/-! ## Deferred edges -/

/-- The cell is made in the common ancestor of the bean and the target, or in the root above the bean
when they share none. -/
def anchor (model : Model) (requirer : ModuleId) : Option Provider → ModuleId
  | none => requirer
  | some target =>
    (model.commonAncestor? requirer (model.providerModule target)).getD (model.rootOf requirer)

def deferredEdge? (model : Model) (failed : List ModuleId) (wire : Wire) : Option DeferredEdge :=
  match (model.socket wire.socket).owner with
  | .module _ => none
  | .bean bean =>
    let requirer := (model.bean bean).module
    if wire.isLazy && !failed.contains requirer then
      let target := wire.targets.head?
      some { socket := wire.socket, bean, target, anchor := model.anchor requirer target }
    else none

def deferredEdges (model : Model) (wires : WireSet) (failed : List ModuleId) : List DeferredEdge :=
  wires.wires.filterMap (model.deferredEdge? failed)

/-! ## One module -/

/-- What a module builds: its beans and its children. -/
def units (model : Model) (id : ModuleId) : List PlanStep :=
  (model.module id).beans.map .bean ++ (model.module id).children.map .module

/-- The unit of a module that a node belongs to. The module's own sockets are inputs and belong to
none. -/
def unitOf? (model : Model) (id : ModuleId) (node : Provider) : Option PlanStep :=
  if model.providerModule node = id then
    match node with
    | .bean bean => some (.bean bean)
    | .socket _ => none
  else (model.childContaining? id (model.providerModule node)).map .module

/-- An edge from one unit of a module to another. -/
structure Crossing where
  source : PlanStep
  target : PlanStep
  edge : Dependency
deriving DecidableEq

def crossing? (model : Model) (id : ModuleId) (edge : Dependency) : Option Crossing := do
  let source ← model.unitOf? id edge.source
  let target ← model.unitOf? id edge.target
  if edge.isLazy || source == target then none else some { source, target, edge }

def crossings (model : Model) (graph : DependencyGraph) (id : ModuleId) : List Crossing :=
  graph.edges.filterMap (model.crossing? id)

/-- Whether some unit of a module needs a bean outside the module's subtree. -/
def isImported (model : Model) (graph : DependencyGraph) (id : ModuleId) (bean : BeanId) : Bool :=
  graph.edges.any fun edge =>
    !edge.isLazy && edge.target == .bean bean && (model.unitOf? id edge.source).isSome

/-- Whether a cell made in the module is to be filled with the bean. -/
def isPatched (deferred : List DeferredEdge) (id : ModuleId) (bean : BeanId) : Bool :=
  deferred.any fun edge => edge.anchor == id && edge.target == some (.bean bean)

def imports (model : Model) (graph : DependencyGraph) (deferred : List DeferredEdge)
    (id : ModuleId) : List BeanId :=
  (model.beans.filter fun bean =>
    !model.isWithin bean.module id &&
      (model.isImported graph id bean.id || isPatched deferred id bean.id)).map (·.id)

/-- Units that need each other in a circle. -/
structure UnitCycle where
  /-- One circle, in its order. -/
  walk : List PlanStep
  /-- The ends of the edges between units of the component, ascending. -/
  implicated : List Provider
deriving DecidableEq, Inhabited

/-- The units that each unit needs, as positions. -/
def unitGraph (units : List PlanStep) (crossings : List Crossing) : Adjacency :=
  units.map fun unit =>
    (crossings.filter (·.source == unit)).filterMap fun crossing => units.idxOf? crossing.target

def unitCycle (graph : DependencyGraph) (units : List PlanStep) (crossings : List Crossing)
    (component : List Nat) : UnitCycle :=
  let unitsAt (positions : List Nat) := positions.filterMap fun position => units[position]?
  let members := unitsAt component
  let inner := crossings.filter fun crossing =>
    members.contains crossing.source && members.contains crossing.target
  { walk := unitsAt ((unitGraph units crossings).cycleWalk component)
    implicated := graph.nodes.filter fun node =>
      inner.any fun crossing => crossing.edge.source == node || crossing.edge.target == node }

/-- One cycle for each component of several units. -/
def unitCycles (model : Model) (graph : DependencyGraph) (id : ModuleId) : List UnitCycle :=
  let units := model.units id
  let crossings := model.crossings graph id
  ((unitGraph units crossings).components.filter fun component => component.length > 1).map
    (unitCycle graph units crossings)

/-- What a unit needs among the units of its module. -/
def unitNeeds (crossings : List Crossing) (unit : PlanStep) : List PlanStep :=
  (crossings.filter (·.source == unit)).map (·.target)

def steps (model : Model) (graph : DependencyGraph) (id : ModuleId) : List PlanStep :=
  Schedule.order (unitNeeds (model.crossings graph id)) (model.units id)

def stepBean? : PlanStep → Option BeanId
  | .bean id => some id
  | .module _ => none

/-- The sockets below a module whose cells come from above it. -/
def deferredInto (model : Model) (deferred : List DeferredEdge) (id : ModuleId) : List SocketId :=
  (deferred.filter fun edge =>
    edge.anchor != id && model.isWithin id edge.anchor &&
      model.isWithin (model.bean edge.bean).module id).map (·.socket)

def deferredOwnedBy (deferred : List DeferredEdge) (id : ModuleId) : List SocketId :=
  (deferred.filter (·.anchor == id)).map (·.socket)

def planModule (model : Model) (graph : DependencyGraph) (deferred : List DeferredEdge)
    (id : ModuleId) : Except (List UnitCycle) ModulePlan :=
  let cycles := model.unitCycles graph id
  if cycles.isEmpty then
    let steps := model.steps graph id
    let beans := steps.filterMap stepBean?
    .ok {
      module := id
      steps
      imports := model.imports graph deferred id
      deferredIn := model.deferredInto deferred id
      deferredOwned := deferredOwnedBy deferred id
      singletons := beans.filter fun bean => (model.bean bean).lifetime == .singleton
      perRequest := beans.filter fun bean => (model.bean bean).lifetime != .singleton }
  else .error cycles

def unitName (model : Model) : PlanStep → String
  | .bean id => model.qualifiedName (.bean id)
  | .module id => "模块 " ++ model.path id

def unitCycleDiagnostic (model : Model) (id : ModuleId) (cycle : UnitCycle) : Diagnostic :=
  let path := model.path id
  let chain := cycleText (cycle.walk.map model.unitName)
  { kind := .cyclicDependency
    location := (model.module id).location
    message := s!"模块 `{path}` 的构造单元之间存在循环: {chain}"
    implicated := cycle.implicated.map model.qualifiedName
    scope := some id }

/-! ## All modules -/

def planModules (model : Model) (graph : DependencyGraph) (deferred : List DeferredEdge)
    (failed : List ModuleId) : List (ModuleId × Except (List UnitCycle) ModulePlan) :=
  (model.modules.filter fun module => !failed.contains module.id).map fun module =>
    (module.id, model.planModule graph deferred module.id)

end Model

/-- A plan, with the diagnostics of the modules that have none. -/
structure Planning where
  plan : Plan
  diagnostics : List Diagnostic
deriving Inhabited

namespace Model

def planAll (model : Model) (wires : WireSet) (graph : DependencyGraph) (failed : List ModuleId) :
    Planning :=
  let deferred := model.deferredEdges wires failed
  let planned := model.planModules graph deferred failed
  { plan := {
      order := model.beanOrder graph failed
      modules := planned.filterMap fun (_, result) => result.toOption
      deferred }
    diagnostics := planned.flatMap fun (id, result) =>
      match result with
      | .ok _ => []
      | .error cycles => cycles.map (model.unitCycleDiagnostic id) }

end Model

end StaticInjection
