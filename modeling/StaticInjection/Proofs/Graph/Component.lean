import StaticInjection.Proofs.Graph.Reach
import StaticInjection.Proofs.Order.Ascending

/-! # Components

A component holds nodes that lead to each other, with all that do. So it is known by
any one of its nodes. -/

namespace StaticInjection

theorem one_lt_length_of_ne {left right : α} {items : List α} (leftInside : left ∈ items)
    (rightInside : right ∈ items) (different : left ≠ right) : 1 < items.length := by
  have subset : [left, right] ⊆ items := by
    simp [leftInside, rightInside]
  exact (List.subperm_of_subset (by simpa using different) subset).length_le

namespace Adjacency

variable {graph : Adjacency}

/-- Paths go both ways. -/
def Mutual (graph : Adjacency) (left right : Nat) : Prop :=
  graph.Leads left right ∧ graph.Leads right left

namespace Mutual

theorem symm {left right : Nat} (connected : graph.Mutual left right) :
    graph.Mutual right left :=
  ⟨connected.2, connected.1⟩

theorem trans {left middle right : Nat} (first : graph.Mutual left middle)
    (second : graph.Mutual middle right) : graph.Mutual left right :=
  ⟨first.1.trans second.1, second.2.trans first.2⟩

end Mutual

/-- A strongly connected component, ascending. -/
structure IsComponent (graph : Adjacency) (members : List Nat) : Prop where
  nonempty : members ≠ []
  ascending : members.Pairwise (· < ·)
  whole : ∀ node ∈ members, ∀ other,
    other ∈ members ↔ other < graph.length ∧ graph.Mutual node other

namespace IsComponent

variable {members : List Nat}

theorem inside (isComponent : graph.IsComponent members) {node : Nat} (member : node ∈ members) :
    node < graph.length :=
  ((isComponent.whole node member node).mp member).1

theorem nodup (isComponent : graph.IsComponent members) : members.Nodup :=
  isComponent.ascending.imp Nat.ne_of_lt

theorem mem_of_mutual (isComponent : graph.IsComponent members) {node other : Nat}
    (member : node ∈ members) (together : graph.Mutual node other) : other ∈ members :=
  (isComponent.whole node member other).mpr
    ⟨inside_of_leads together.2 (isComponent.inside member), together⟩

theorem eq_of_mem {left right : List Nat} (isLeft : graph.IsComponent left)
    (isRight : graph.IsComponent right) {node : Nat} (inLeft : node ∈ left)
    (inRight : node ∈ right) : left = right := by
  apply eq_of_ordered (fun _ _ => Nat.lt_asymm) isLeft.ascending isRight.ascending
  intro other
  rw [isLeft.whole node inLeft, isRight.whole node inRight]

theorem filter_nodes (isComponent : graph.IsComponent members) :
    graph.nodes.filter members.contains = members := by
  apply eq_of_ordered (fun _ _ => Nat.lt_asymm) (List.pairwise_lt_range.filter _)
    isComponent.ascending
  intro node
  rw [List.mem_filter, List.mem_range, List.contains_iff_mem]
  exact and_iff_right_of_imp isComponent.inside

end IsComponent

end Adjacency

end StaticInjection
