import StaticInjection.Order.Insertion

namespace StaticInjection

/-! Putting numbered nodes in order by counting down, for each of them, the dependencies that are
still open. A dependency is a pair of a node and one that it depends on. -/

structure Countdown (κ : Type u) where
  /-- How many dependencies of each node are open. -/
  pending : List Nat
  /-- The nodes with none open that are not in the order yet, with their keys, in order. -/
  ready : List (κ × Nat)

namespace Countdown

variable {κ : Type u} [LT κ] [DecidableLT κ]

/-- By key, and by number where keys are the same. -/
def atMost (left right : κ × Nat) : Bool :=
  left.1 < right.1 || (!decide (right.1 < left.1) && left.2 ≤ right.2)

/-- How often each node depends on another. -/
def counters (count : Nat) (dependencies : List (Nat × Nat)) : List Nat :=
  dependencies.foldl (fun pending dependency => pending.modify dependency.1 (· + 1))
    (List.replicate count 0)

/-- The nodes that depend on a node, each as often as it does. -/
def dependents (dependencies : List (Nat × Nat)) (need : Nat) : List Nat :=
  (dependencies.filter (·.2 == need)).map (·.1)

def start (count : Nat) (dependencies : List (Nat × Nat)) (included : Nat → Bool) (key : Nat → κ) :
    Countdown κ :=
  let pending := counters count dependencies
  let free := (List.range count).filter fun node => included node && pending[node]? == some 0
  { pending, ready := sortBy atMost (free.map fun node => (key node, node)) }

/-- One dependency of a node is met. There has to be an open one. -/
def meet? (key : Nat → κ) (state : Countdown κ) (node : Nat) : Option (Countdown κ) :=
  match state.pending[node]? with
  | some (left + 1) => some {
      pending := state.pending.set node left
      ready := if left = 0 then insertBy atMost (key node, node) state.ready else state.ready }
  | _ => none

/-- Take the next ready node and meet what depends on it, again and again, until no node is ready.
The number bounds the rounds, and there is no order when it is too small. -/
def run? (dependents : Nat → List Nat) (key : Nat → κ) : Nat → Countdown κ → Option (List Nat)
  | 0, state => if state.ready.isEmpty then some [] else none
  | bound + 1, state =>
    match state.ready with
    | [] => some []
    | (_, node) :: ready =>
      ((dependents node).foldlM (meet? key) { state with ready }).bind fun later =>
        (run? dependents key bound later).map (node :: ·)

/-- The included nodes, each after those that it depends on. Of several nodes that are ready the one
with the least key is next. Nodes on a cycle, and those that depend on one, are left out. All
dependencies have to be between nodes below the count. -/
def order? (count : Nat) (dependencies : List (Nat × Nat)) (included : Nat → Bool) (key : Nat → κ) :
    Option (List Nat) :=
  if dependencies.all fun (node, need) => node < count && need < count then
    run? (dependents dependencies) key count (start count dependencies included key)
  else none

example : order? 5 [(0, 2), (0, 2), (3, 4), (4, 3)] (fun _ => true) (fun node => 5 - node) =
    some [2, 1, 0] := by decide

end Countdown

end StaticInjection
