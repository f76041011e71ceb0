import StaticInjection.Proofs.Graph.ComponentSearch
import StaticInjection.Proofs.Graph.CycleWalk

/-! # Graphs on the positions of items

What a relation makes of the items of a list is computed on their positions. The
components of the graph there are the items that lead to each other, in the order of
the list, and each component is given once. -/

namespace StaticInjection

/-- Items of a list that lead to each other, with all that do, in their order. -/
structure ComponentOf (items : List α) (needs : α → α → Prop) (members : List α) : Prop where
  nonempty : members ≠ []
  listed : members.Sublist items
  whole : ∀ item ∈ members, ∀ other, other ∈ members ↔
    other ∈ items ∧ Relation.ReflTransGen needs item other ∧ Relation.ReflTransGen needs other item

/-- Two parts of a list without repetition are equal when they hold the same items. -/
theorem eq_of_sublists {items left right : List α} (nodup : items.Nodup)
    (leftListed : left.Sublist items) (rightListed : right.Sublist items)
    (same : ∀ item, item ∈ left ↔ item ∈ right) : left = right := by
  induction items generalizing left right with
  | nil => rw [List.sublist_nil.mp leftListed, List.sublist_nil.mp rightListed]
  | cons head tail induction =>
      rcases List.nodup_cons.mp nodup with ⟨fresh, tailNodup⟩
      cases leftListed with
      | cons _ leftRest =>
          cases rightListed with
          | cons _ rightRest => exact induction tailNodup leftRest rightRest same
          | cons_cons _ rightRest =>
              have inLeft := (same head).mpr List.mem_cons_self
              exact absurd (leftRest.subset inLeft) fresh
      | cons_cons _ leftRest =>
          cases rightListed with
          | cons _ rightRest =>
              have inRight := (same head).mp List.mem_cons_self
              exact absurd (rightRest.subset inRight) fresh
          | cons_cons _ rightRest =>
              rw [induction tailNodup leftRest rightRest]
              intro item
              have both := same item
              rw [List.mem_cons, List.mem_cons] at both
              constructor
              · intro inLeft
                have different : item ≠ head := fun equal => fresh (equal ▸ leftRest.subset inLeft)
                exact (both.mp (.inr inLeft)).resolve_left different
              · intro inRight
                have different : item ≠ head := fun equal =>
                  fresh (equal ▸ rightRest.subset inRight)
                exact (both.mpr (.inr inRight)).resolve_left different

theorem ComponentOf.eq_of_mem {items left right : List α} {needs : α → α → Prop}
    (nodup : items.Nodup) (isLeft : ComponentOf items needs left)
    (isRight : ComponentOf items needs right) {item : α} (inLeft : item ∈ left)
    (inRight : item ∈ right) : left = right := by
  apply eq_of_sublists nodup isLeft.listed isRight.listed
  intro other
  rw [isLeft.whole item inLeft, isRight.whole item inRight]

/-! ## Positions -/

section Positions

variable [Inhabited α] {items : List α}

def itemAt (items : List α) (position : Nat) : α :=
  items.getD position default

theorem getElem?_eq_itemAt {position : Nat} (inside : position < items.length) :
    items[position]? = some (itemAt items position) := by
  simp [itemAt, inside]

theorem itemAt_mem {position : Nat} (inside : position < items.length) :
    itemAt items position ∈ items :=
  List.mem_of_getElem? (getElem?_eq_itemAt inside)

theorem exists_position {item : α} (member : item ∈ items) :
    ∃ position < items.length, itemAt items position = item := by
  rcases List.getElem_of_mem member with ⟨position, inside, rfl⟩
  exact ⟨position, inside, by simp [itemAt, inside]⟩

theorem itemAt_injective (nodup : items.Nodup) {left right : Nat} (leftInside : left < items.length)
    (rightInside : right < items.length) (same : itemAt items left = itemAt items right) :
    left = right := by
  have equal : items[left]? = items[right]? := by
    rw [getElem?_eq_itemAt leftInside, getElem?_eq_itemAt rightInside, same]
  exact (List.getElem?_inj leftInside nodup).mp equal

theorem idxOf?_eq_some_itemAt [BEq α] [LawfulBEq α] (nodup : items.Nodup) {item : α}
    {position : Nat} : items.idxOf? item = some position ↔
      position < items.length ∧ itemAt items position = item := by
  rw [List.idxOf?_eq_some_iff]
  constructor
  · rintro ⟨inside, same, _⟩
    exact ⟨inside, by simpa [itemAt, inside] using same⟩
  · rintro ⟨inside, rfl⟩
    refine ⟨inside, by simp [itemAt, inside], fun other before same => ?_⟩
    have otherInside := Nat.lt_trans before inside
    have positions := itemAt_injective nodup otherInside inside
      (by simpa [itemAt, inside, otherInside] using same)
    omega

theorem filterMap_getElem? {positions : List Nat}
    (inside : ∀ position ∈ positions, position < items.length) :
    positions.filterMap (fun position => items[position]?) = positions.map (itemAt items) := by
  rw [← List.filterMap_eq_map]
  exact List.filterMap_congr fun position listed => getElem?_eq_itemAt (inside position listed)

theorem map_itemAt_range (items : List α) :
    (List.range items.length).map (itemAt items) = items := by
  apply List.ext_getElem (by simp)
  intro position _ inside
  simp [itemAt, inside]

end Positions

namespace Adjacency

/-! ## What a graph presents -/

/-- The edges of a graph are those of a relation between the items at its nodes. -/
structure Presents [Inhabited α] (graph : Adjacency) (items : List α) (needs : α → α → Prop) :
    Prop where
  nodup : items.Nodup
  length : graph.length = items.length
  edge_iff : ∀ source target, graph.Edge source target ↔
    source < items.length ∧ target < items.length ∧
      needs (itemAt items source) (itemAt items target)
  listed : ∀ item other, needs item other → item ∈ items ∧ other ∈ items

namespace Presents

variable [Inhabited α] {graph : Adjacency} {items : List α} {needs : α → α → Prop}
  (presents : graph.Presents items needs)

include presents

theorem closed : graph.Closed := by
  intro node next edge
  rw [presents.length]
  exact ((presents.edge_iff node next).mp edge).2.1

theorem leads_iff {source target : Nat} (sourceInside : source < items.length)
    (targetInside : target < items.length) :
    graph.Leads source target ↔
      Relation.ReflTransGen needs (itemAt items source) (itemAt items target) := by
  constructor
  · intro path
    exact path.lift (itemAt items) fun source target edge =>
      ((presents.edge_iff source target).mp edge).2.2
  · -- The position of each item on the way is known only by the item.
    have along : ∀ item, Relation.ReflTransGen needs (itemAt items source) item →
        ∃ position < items.length, itemAt items position = item ∧ graph.Leads source position := by
      intro item path
      induction path with
      | refl => exact ⟨source, sourceInside, rfl, .refl⟩
      | tail _ needed induction =>
          rcases induction with ⟨position, inside, rfl, leads⟩
          rcases exists_position (presents.listed _ _ needed).2 with ⟨next, nextInside, rfl⟩
          exact ⟨next, nextInside, rfl,
            leads.tail ((presents.edge_iff position next).mpr ⟨inside, nextInside, needed⟩)⟩
    intro path
    rcases along _ path with ⟨position, inside, same, leads⟩
    rwa [itemAt_injective presents.nodup inside targetInside same] at leads

theorem transGen_iff {position : Nat} (inside : position < items.length) :
    Relation.TransGen graph.Edge position position ↔
      Relation.TransGen needs (itemAt items position) (itemAt items position) := by
  rw [Relation.TransGen.head'_iff, Relation.TransGen.head'_iff]
  constructor
  · rintro ⟨next, edge, back⟩
    rcases (presents.edge_iff position next).mp edge with ⟨_, nextInside, needed⟩
    exact ⟨_, needed, (presents.leads_iff nextInside inside).mp back⟩
  · rintro ⟨other, needed, back⟩
    rcases exists_position (presents.listed _ _ needed).2 with ⟨next, nextInside, rfl⟩
    exact ⟨next, (presents.edge_iff position next).mpr ⟨inside, nextInside, needed⟩,
      (presents.leads_iff nextInside inside).mpr back⟩

/-! ## Components -/

theorem mem_map_component {component : List Nat} (isComponent : graph.IsComponent component)
    {position : Nat} (listed : position ∈ component) {other : α} :
    other ∈ component.map (itemAt items) ↔
      other ∈ items ∧ Relation.ReflTransGen needs (itemAt items position) other ∧
        Relation.ReflTransGen needs other (itemAt items position) := by
  have whole := isComponent.whole position listed
  have inside : position < items.length := presents.length ▸ isComponent.inside listed
  rw [presents.length] at whole
  rw [List.mem_map]
  constructor
  · rintro ⟨place, member, rfl⟩
    rcases (whole place).mp member with ⟨placeInside, there, back⟩
    exact ⟨itemAt_mem placeInside, (presents.leads_iff inside placeInside).mp there,
      (presents.leads_iff placeInside inside).mp back⟩
  · rintro ⟨member, there, back⟩
    rcases exists_position member with ⟨place, placeInside, rfl⟩
    exact ⟨place, (whole place).mpr ⟨placeInside,
      (presents.leads_iff inside placeInside).mpr there,
      (presents.leads_iff placeInside inside).mpr back⟩, rfl⟩

theorem componentOf_map {component : List Nat} (isComponent : graph.IsComponent component) :
    ComponentOf items needs (component.map (itemAt items)) where
  nonempty empty := isComponent.nonempty (List.map_eq_nil_iff.mp empty)
  listed := by
    have places : component.Sublist (List.range items.length) := by
      rw [← isComponent.filter_nodes, ← presents.length]
      exact List.filter_sublist
    simpa [map_itemAt_range] using places.map (itemAt items)
  whole item member other := by
    rcases List.mem_map.mp member with ⟨position, listed, rfl⟩
    exact presents.mem_map_component isComponent listed

/-- A component of the items is one of the graph, at the positions of its items. -/
theorem exists_component {members : List α} (isComponent : ComponentOf items needs members) :
    ∃ component ∈ graph.components, component.map (itemAt items) = members := by
  rcases List.exists_mem_of_ne_nil _ isComponent.nonempty with ⟨item, member⟩
  rcases exists_position (isComponent.listed.subset member) with ⟨position, inside, rfl⟩
  rcases Adjacency.exists_component presents.closed (presents.length ▸ inside) with
    ⟨component, found, listed⟩
  have isMap := presents.componentOf_map ((Adjacency.mem_components presents.closed).mp found)
  exact ⟨component, found,
    isMap.eq_of_mem presents.nodup isComponent (List.mem_map_of_mem listed) member⟩

/-- The components of the graph are those of the items. -/
theorem mem_components {members : List α} :
    members ∈ graph.components.map (·.map (itemAt items)) ↔ ComponentOf items needs members := by
  rw [List.mem_map]
  constructor
  · rintro ⟨component, listed, rfl⟩
    exact presents.componentOf_map ((Adjacency.mem_components presents.closed).mp listed)
  · exact presents.exists_component

/-- Every item is in a component. -/
theorem exists_componentOf {item : α} (member : item ∈ items) :
    ∃ members, ComponentOf items needs members ∧ item ∈ members := by
  rcases exists_position member with ⟨position, inside, rfl⟩
  rcases Adjacency.exists_component presents.closed (presents.length ▸ inside) with
    ⟨component, found, listed⟩
  exact ⟨_, presents.componentOf_map ((Adjacency.mem_components presents.closed).mp found),
    List.mem_map_of_mem listed⟩

theorem inside_of_mem_components {component : List Nat} (listed : component ∈ graph.components) :
    ∀ position ∈ component, position < items.length := by
  intro position member
  rw [← presents.length]
  exact ((Adjacency.mem_components presents.closed).mp listed).inside member

theorem components_nodup : (graph.components.map (·.map (itemAt items))).Nodup := by
  apply List.pairwise_map.mpr
  refine (components_disjoint presents.closed).imp_of_mem ?_
  intro _ _ leftListed rightListed apart same
  have isLeft := presents.mem_components.mp (List.mem_map_of_mem leftListed)
  rcases List.exists_mem_of_ne_nil _ isLeft.nonempty with ⟨item, inLeft⟩
  have inRight := same ▸ inLeft
  rcases List.mem_map.mp inLeft with ⟨position, member, rfl⟩
  rcases List.mem_map.mp inRight with ⟨other, otherMember, equal⟩
  have positions := itemAt_injective presents.nodup
    (presents.inside_of_mem_components rightListed other otherMember)
    (presents.inside_of_mem_components leftListed position member) equal
  exact apart member (positions ▸ otherMember)

/-! ## Circles -/

/-- The items of a component need themselves when there are several, or one of them does
at once. -/
theorem circle_iff {members : List α} (isComponent : ComponentOf items needs members) {item : α}
    (member : item ∈ members) : Relation.TransGen needs item item ↔
      1 < members.length ∨ ∃ other ∈ members, needs other other := by
  rcases presents.exists_component isComponent with ⟨component, found, rfl⟩
  have isPositions := (Adjacency.mem_components presents.closed).mp found
  have inside := presents.inside_of_mem_components found
  rcases List.mem_map.mp member with ⟨position, listed, rfl⟩
  rw [← presents.transGen_iff (inside position listed),
    transGen_self_iff isPositions listed, List.length_map]
  apply or_congr_right
  constructor
  · rintro ⟨place, placeListed, edge⟩
    exact ⟨_, List.mem_map_of_mem placeListed, ((presents.edge_iff place place).mp edge).2.2⟩
  · rintro ⟨other, otherListed, needed⟩
    rcases List.mem_map.mp otherListed with ⟨place, placeListed, rfl⟩
    exact ⟨place, placeListed, (presents.edge_iff place place).mpr
      ⟨inside place placeListed, inside place placeListed, needed⟩⟩

/-- Where no item needs itself at once, circles are the components of several items. -/
theorem several_iff (irreflexive : ∀ item, ¬ needs item item) :
    (∃ component ∈ graph.components, 1 < component.length) ↔
      ∃ item ∈ items, Relation.TransGen needs item item := by
  constructor
  · rintro ⟨component, listed, several⟩
    have isComponent := presents.mem_components.mp (List.mem_map_of_mem listed)
    rcases List.exists_mem_of_ne_nil _ isComponent.nonempty with ⟨item, member⟩
    exact ⟨item, isComponent.listed.subset member,
      (presents.circle_iff isComponent member).mpr (.inl (by simpa using several))⟩
  · rintro ⟨item, member, circle⟩
    rcases presents.exists_componentOf member with ⟨members, isComponent, listed⟩
    rcases presents.exists_component isComponent with ⟨component, found, rfl⟩
    rcases (presents.circle_iff isComponent listed).mp circle with several | ⟨other, _, again⟩
    · exact ⟨component, found, by simpa using several⟩
    · exact absurd again (irreflexive other)

/-- The walk through a component with a circle is one, from the first item on. -/
theorem cycleWalk_map {component : List Nat} (listed : component ∈ graph.components)
    (circular : 1 < component.length ∨ ∃ other ∈ component.map (itemAt items), needs other other) :
    (∀ position ∈ graph.cycleWalk component, position ∈ component) ∧
    SimpleCycle needs ((graph.cycleWalk component).map (itemAt items)) ∧
      ((graph.cycleWalk component).map (itemAt items)).head? =
        (component.map (itemAt items)).head? := by
  have allInside := presents.inside_of_mem_components listed
  have isComponent := (Adjacency.mem_components presents.closed).mp listed
  rcases List.exists_mem_of_ne_nil _ isComponent.nonempty with ⟨node, member⟩
  have circle : Relation.TransGen graph.Edge node node := by
    rw [presents.transGen_iff (allInside node member),
      presents.circle_iff (presents.componentOf_map isComponent) (List.mem_map_of_mem member),
      List.length_map]
    exact circular
  rcases cycleWalk_spec isComponent member circle with ⟨simple, first, within⟩
  refine ⟨within, simple.map ?_ ?_, ?_⟩
  · intro left leftWalked right rightWalked
    exact itemAt_injective presents.nodup (allInside left (within left leftWalked))
      (allInside right (within right rightWalked))
  · intro source target edge
    exact ((presents.edge_iff source target).mp edge).2.2
  · rw [List.head?_map, List.head?_map, first]

end Presents

end Adjacency

end StaticInjection
