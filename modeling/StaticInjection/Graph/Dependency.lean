import StaticInjection.Graph.Adjacency
import StaticInjection.Model.Basic
import StaticInjection.Wire.Basic

namespace StaticInjection

/-! The dependency graph: which provider needs which other, and through which socket. -/

structure Dependency where
  /-- What needs the other. -/
  source : Provider
  target : Provider
  socket : SocketId
  isLazy : Bool
deriving DecidableEq, Repr, Inhabited

namespace Provider

def atMost (left right : Provider) : Bool :=
  left.key.1 < right.key.1 || (left.key.1 == right.key.1 && left.key.2 ≤ right.key.2)

end Provider

structure DependencyGraph where
  /-- Ascending, without repetition. -/
  nodes : List Provider
  edges : List Dependency
deriving Inhabited

namespace DependencyGraph

def ofNodes (nodes : List Provider) : DependencyGraph where
  nodes := (nodes.mergeSort Provider.atMost).eraseDups
  edges := []

def holds (graph : DependencyGraph) (edge : Dependency) : Bool :=
  graph.nodes.contains edge.source && graph.nodes.contains edge.target

/-- An edge with an end outside the graph is not added. -/
def add (graph : DependencyGraph) (edge : Dependency) : DependencyGraph :=
  if graph.holds edge then { graph with edges := graph.edges ++ [edge] } else graph

def position? (graph : DependencyGraph) (node : Provider) : Option Nat :=
  graph.nodes.idxOf? node

def outgoing (graph : DependencyGraph) (node : Provider) : List Dependency :=
  graph.edges.filter (·.source == node)

def hasSelfEdge (graph : DependencyGraph) (node : Provider) : Bool :=
  (graph.outgoing node).any fun edge => !edge.isLazy && edge.target == node

/-- The graph on the positions of the nodes, with or without lazy edges. -/
def adjacency (graph : DependencyGraph) (withLazy : Bool) : Adjacency :=
  graph.nodes.map fun node =>
    ((graph.outgoing node).filter fun edge => withLazy || !edge.isLazy).filterMap fun edge =>
      graph.position? edge.target

end DependencyGraph

namespace Model

/-- One edge for each target of each wire. -/
def dependencies (model : Model) (wires : WireSet) : List Dependency :=
  wires.wires.flatMap fun wire =>
    wire.targets.map fun target =>
      { source := model.requirer wire.socket, target, socket := wire.socket, isLazy := wire.isLazy }

/-- All beans and all module sockets. -/
def graphNodes (model : Model) : List Provider :=
  model.beans.map (fun bean => .bean bean.id) ++
  model.modules.flatMap fun module => module.sockets.map .socket

def dependencyGraph (model : Model) (wires : WireSet) : DependencyGraph :=
  let graph : DependencyGraph := ⟨model.graphNodes, []⟩
  { graph with edges := (model.dependencies wires).filter graph.holds }

end Model

end StaticInjection
