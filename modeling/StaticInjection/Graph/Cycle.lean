import StaticInjection.Graph.Component
import StaticInjection.Graph.Dependency

namespace StaticInjection

/-! Dependency cycles. An edge that is lazy closes no cycle. -/

structure DependencyCycle where
  /-- The nodes of one simple cycle, in its order. -/
  nodes : List Provider
  /-- The nodes of the whole component, ascending. -/
  members : List Provider
deriving DecidableEq, Repr, Inhabited

namespace DependencyGraph

def providersAt (graph : DependencyGraph) (positions : List Nat) : List Provider :=
  positions.filterMap fun position => graph.nodes[position]?

/-- A component with several nodes, or a node that needs itself. -/
def isCyclic (graph : DependencyGraph) (component : List Nat) : Bool :=
  component.length > 1 || (graph.providersAt component).any graph.hasSelfEdge

/-- The positions of the nodes on cycles, component by component, by their smallest nodes. -/
def cyclicComponents (graph : DependencyGraph) : List (List Nat) :=
  ((graph.adjacency false).components.filter graph.isCyclic).mergeSort fun left right =>
    left.headD 0 ≤ right.headD 0

def cycles (graph : DependencyGraph) : List DependencyCycle :=
  graph.cyclicComponents.map fun component =>
    { nodes := graph.providersAt ((graph.adjacency false).cycleWalk component)
      members := graph.providersAt component }

end DependencyGraph

namespace DependencyCycle

/-- The nodes of the cycle, then the other members. -/
def ordered (cycle : DependencyCycle) : List Provider :=
  cycle.nodes ++ cycle.members.filter fun node => !cycle.nodes.contains node

end DependencyCycle

namespace Model

/-- The names along a cycle, with the first one again at the end. -/
def cycleText (names : List String) : String :=
  " -> ".intercalate (names ++ names.take 1)

def cycleMessage (model : Model) (cycle : DependencyCycle) : String :=
  let chain := cycleText (cycle.nodes.map model.qualifiedName)
  let others := cycle.members.filter fun node => !cycle.nodes.contains node
  let names := ", ".intercalate (others.map model.qualifiedName)
  let note := if others.isEmpty then "" else s!"（同一强连通分量还包括 {names}）"
  s!"检测到循环依赖: {chain}{note}"

/-- The modules that own a node of a cycle. -/
def cycleModules (model : Model) (cycle : DependencyCycle) : List ModuleId :=
  (model.modules.map (·.id)).filter fun id =>
    cycle.ordered.any fun node => model.providerModule node == id

/-- The first node of the cycle in a module says where. -/
def cycleLocation (model : Model) (cycle : DependencyCycle) (module : ModuleId) : Location :=
  match cycle.ordered.find? fun node => model.providerModule node == module with
  | some node => model.providerLocation node
  | none => { module := model.path module }

/-- One diagnostic for each module that owns a node of the cycle. -/
def cycleReports (model : Model) (cycle : DependencyCycle) : List Diagnostic :=
  (model.cycleModules cycle).map fun module =>
    { kind := .cyclicDependency
      location := model.cycleLocation cycle module
      message := model.cycleMessage cycle
      implicated := cycle.ordered.map model.qualifiedName
      scope := some module }

def cycleDiagnostics (model : Model) (cycles : List DependencyCycle) : List Diagnostic :=
  cycles.flatMap model.cycleReports

end Model

end StaticInjection
