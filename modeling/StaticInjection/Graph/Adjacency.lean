namespace StaticInjection

/-! Finite directed graphs by their successor lists: nodes are the positions of the lists. -/

abbrev Adjacency := List (List Nat)

namespace Adjacency

def successors (graph : Adjacency) (node : Nat) : List Nat :=
  graph.getD node []

def nodes (graph : Adjacency) : List Nat :=
  List.range graph.length

def edgeCount (graph : Adjacency) : Nat :=
  graph.flatten.length

/-! ## Depth-first walks -/

/-- What a walk has still to do. -/
inductive Visit where
  | enter (node : Nat)
  | leave (node : Nat)
deriving DecidableEq, Repr

/-- The nodes in the order in which the walk leaves them. A node is entered once; it is left when all
that its successors lead to has been left. The number bounds the steps. -/
def walk (graph : Adjacency) : Nat → List Visit → (entered : List Nat) → List Nat
  | 0, _, _ => []
  | _ + 1, [], _ => []
  | bound + 1, .leave node :: rest, entered => node :: walk graph bound rest entered
  | bound + 1, .enter node :: rest, entered =>
    if entered.contains node then walk graph bound rest entered
    else
      walk graph bound ((graph.successors node).map .enter ++ .leave node :: rest) (node :: entered)

/-- Walk from some nodes in order. Each start, each edge and each node left is one step. -/
def walkFrom (graph : Adjacency) (starts : List Nat) : List Nat :=
  graph.walk (starts.length + graph.edgeCount + graph.length) (starts.map .enter) []

/-- The nodes that a node leads to, itself included. -/
def reachable (graph : Adjacency) (node : Nat) : List Nat :=
  graph.walkFrom [node]

/-! ## Shortest cycles -/

/-- Breadth-first search for a way back to the start. The queue holds paths from the start, last node
first. The number bounds the steps. -/
def searchBack (graph : Adjacency) (start : Nat) (members : List Nat) :
    Nat → (queue : List (List Nat)) → (met : List Nat) → List Nat
  | 0, _, _ => [start]
  | _ + 1, [], _ => [start]
  | bound + 1, path :: queue, met =>
    let next := graph.successors (path.headD start)
    if next.contains start then path.reverse
    else
      let fresh := members.filter fun node => next.contains node && !met.contains node
      graph.searchBack start members bound (queue ++ fresh.map (· :: path)) (met ++ fresh)

/-- A shortest cycle inside a component through its smallest node, from that node on. Without a cycle
it is that node alone. -/
def cycleWalk (graph : Adjacency) (component : List Nat) : List Nat :=
  let members := graph.nodes.filter component.contains
  match members with
  | [] => []
  | start :: _ => graph.searchBack start members (members.length + 1) [[start]] []

example : cycleWalk [[1, 2], [0], [1]] [2, 0, 1] = [0, 1] := by decide

end Adjacency

end StaticInjection
