import StaticInjection.Graph.Adjacency
import StaticInjection.Order.Insertion

namespace StaticInjection

/-! Strongly connected components by one depth-first search. The search numbers the nodes as it meets
them, and keeps for each the least number of a waiting node that it is known to lead to. A node that
is left without a lower number than its own closes a component: the nodes that still wait, from the
latest one back to it. -/

/-- What is known of a node that has been met. -/
structure Mark where
  /-- How many nodes were met before. -/
  number : Nat
  /-- The least number that the node is known to lead to. -/
  low : Nat
  /-- Whether the node waits for its component. -/
  isOpen : Bool
deriving DecidableEq, Repr, Inhabited

/-- A node that the search is at or will come back to, with the successors still to look at. -/
structure Frame where
  node : Nat
  ahead : List Nat
deriving DecidableEq, Repr

structure ComponentSearch where
  /-- Where the search has still to begin. -/
  starts : List Nat
  /-- What is known of each node. -/
  marks : List (Option Mark)
  /-- How many nodes have been met. -/
  count : Nat
  /-- The nodes that wait for their components, the latest first. -/
  stack : List Nat
  /-- The way from a start to where the search is, the latest first. -/
  frames : List Frame
  /-- The components that are complete, the latest first. -/
  found : List (List Nat)
deriving DecidableEq, Repr

/-- The items of a stack down to the first occurrence of an item, and what is left below. -/
def takeThrough (item : Nat) : List Nat → List Nat × List Nat
  | [] => ([], [])
  | head :: rest =>
    if head = item then ([head], rest)
    else
      let (taken, left) := takeThrough item rest
      (head :: taken, left)

namespace ComponentSearch

def mark? (search : ComponentSearch) (node : Nat) : Option Mark :=
  search.marks.getD node none

def number (search : ComponentSearch) (node : Nat) : Nat :=
  ((search.mark? node).getD default).number

def low (search : ComponentSearch) (node : Nat) : Nat :=
  ((search.mark? node).getD default).low

/-! ## Changes -/

/-- Meet a node. -/
def enter (graph : Adjacency) (node : Nat) (search : ComponentSearch) : ComponentSearch :=
  { search with
    marks := search.marks.set node (some ⟨search.count, search.count, true⟩)
    count := search.count + 1
    stack := node :: search.stack
    frames := ⟨node, graph.successors node⟩ :: search.frames }

/-- A node is found to lead to a number. -/
def lower (node number : Nat) (search : ComponentSearch) : ComponentSearch :=
  { search with
    marks := search.marks.modify node (Option.map fun mark =>
      { mark with low := min mark.low number }) }

def closeMark (marks : List (Option Mark)) (node : Nat) : List (Option Mark) :=
  marks.modify node (Option.map fun mark => { mark with isOpen := false })

/-- The nodes that wait down to a node are a component. -/
def close (node : Nat) (search : ComponentSearch) : ComponentSearch :=
  let (members, stack) := takeThrough node search.stack
  { search with
    marks := members.foldl closeMark search.marks
    stack
    found := sortBy (· ≤ ·) members :: search.found }

/-- What a node leads to, the node before it on the way leads to as well. -/
def passOn (node : Nat) (search : ComponentSearch) : ComponentSearch :=
  match search.frames with
  | [] => search
  | frame :: _ => search.lower frame.node (search.low node)

/-- Go back from a node. -/
def leave (node : Nat) (search : ComponentSearch) : ComponentSearch :=
  let passed := search.passOn node
  if passed.low node = passed.number node then passed.close node else passed

/-! ## The search -/

/-- Look at one successor. -/
def look (graph : Adjacency) (node next : Nat) (search : ComponentSearch) : ComponentSearch :=
  match search.mark? next with
  | none => search.enter graph next
  | some mark => if mark.isOpen then search.lower node mark.number else search

/-- Begin at a node that has not been met. -/
def begin (graph : Adjacency) (start : Nat) (search : ComponentSearch) : ComponentSearch :=
  if (search.mark? start).isSome then search else search.enter graph start

/-- One step, or nothing when the search is at its end. -/
def step? (graph : Adjacency) (search : ComponentSearch) : Option ComponentSearch :=
  match search.frames, search.starts with
  | [], [] => none
  | [], start :: starts => some ({ search with starts }.begin graph start)
  | ⟨node, next :: ahead⟩ :: frames, _ =>
    some ({ search with frames := ⟨node, ahead⟩ :: frames }.look graph node next)
  | ⟨node, []⟩ :: frames, _ => some ({ search with frames }.leave node)

/-- The number bounds the steps. -/
def run (graph : Adjacency) : Nat → ComponentSearch → ComponentSearch
  | 0, search => search
  | bound + 1, search =>
    match search.step? graph with
    | none => search
    | some later => run graph bound later

/-- Nothing has been met. -/
def fresh (graph : Adjacency) : ComponentSearch where
  starts := graph.nodes
  marks := graph.nodes.map fun _ => none
  count := 0
  stack := []
  frames := []
  found := []

end ComponentSearch

namespace Adjacency

/-- The whole search. Each start, each edge and each node left is one step. -/
def componentSearch (graph : Adjacency) : ComponentSearch :=
  (ComponentSearch.fresh graph).run graph (graph.length + graph.edgeCount + graph.length)

/-- The components, each ascending, in the order in which the search completes them. -/
def components (graph : Adjacency) : List (List Nat) :=
  graph.componentSearch.found.reverse

example : components [[1], [2], [0, 3], []] = [[3], [0, 1, 2]] := by decide

end Adjacency

end StaticInjection
