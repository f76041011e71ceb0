import StaticInjection.Proofs.Model.WellFormed

/-! # The tree of modules

Being within a module is an order whose upper sides are chains. A module within
another one, and different from it, lies within exactly one of its children, and
two modules with a common ancestor have a deepest one. -/

namespace StaticInjection.Model.WellFormed

variable {model : Model} (wellFormed : model.WellFormed)

include wellFormed

/-! ## Numbers are positions -/

theorem module_of_mem {module : Module} (member : module ∈ model.modules) :
    model.module module.id = module := by
  have found := wellFormed.modules_numbered.getElem?_number member
  simp [Model.module, List.getD_eq_getElem?_getD, found]

theorem bean_of_mem {bean : Bean} (member : bean ∈ model.beans) :
    model.bean bean.id = bean := by
  have found := wellFormed.beans_numbered.getElem?_number member
  simp [Model.bean, List.getD_eq_getElem?_getD, found]

theorem socket_of_mem {socket : Socket} (member : socket ∈ model.sockets) :
    model.socket socket.id = socket := by
  have found := wellFormed.sockets_numbered.getElem?_number member
  simp [Model.socket, List.getD_eq_getElem?_getD, found]

theorem module_mem {id : ModuleId} (known : id ∈ model.moduleIds) :
    model.module id ∈ model.modules ∧ (model.module id).id = id := by
  obtain ⟨module, member, rfl⟩ := List.mem_map.mp known
  rw [wellFormed.module_of_mem member]
  exact ⟨member, rfl⟩

theorem bean_mem {id : BeanId} (known : id ∈ model.beanIds) :
    model.bean id ∈ model.beans ∧ (model.bean id).id = id := by
  obtain ⟨bean, member, rfl⟩ := List.mem_map.mp known
  rw [wellFormed.bean_of_mem member]
  exact ⟨member, rfl⟩

theorem socket_mem {id : SocketId} (known : id ∈ model.socketIds) :
    model.socket id ∈ model.sockets ∧ (model.socket id).id = id := by
  obtain ⟨socket, member, rfl⟩ := List.mem_map.mp known
  rw [wellFormed.socket_of_mem member]
  exact ⟨member, rfl⟩

/-- No provider gives a type twice, known or not. -/
theorem providedTypes_nodup (provider : Provider) : (model.providedTypes provider).Nodup := by
  cases provider with
  | socket id => exact List.nodup_singleton _
  | bean id =>
      rw [providedTypes, Model.bean, List.getD_eq_getElem?_getD]
      cases found : model.beans[id.index]? with
      | none => exact .nil
      | some bean => exact wellFormed.bean_provides bean (List.mem_of_getElem? found)

theorem mem_moduleIds {id : ModuleId} :
    id ∈ model.moduleIds ↔ id.index < model.modules.length := by
  have numbers : model.moduleIds.map (·.index) = List.range model.modules.length := by
    rw [moduleIds, List.map_map, List.range_eq_range']
    exact wellFormed.modules_numbered
  rw [← List.mem_range, ← numbers]
  constructor
  · exact fun member => List.mem_map_of_mem member
  · intro listed
    obtain ⟨⟨position⟩, member, same⟩ := List.mem_map.mp listed
    have equal : (⟨position⟩ : ModuleId) = id := congrArg ModuleId.mk same
    exact equal ▸ member

/-! ## Being within a module -/

theorem moduleIds_ascending :
    model.moduleIds.Pairwise fun left right => left.index < right.index :=
  List.pairwise_map.mpr wellFormed.modules_numbered.ascending

theorem moduleIds_nodup : model.moduleIds.Nodup :=
  wellFormed.moduleIds_ascending.imp fun before same => by
    rw [same] at before
    omega

theorem parent_known {id parent : ModuleId} (known : id ∈ model.moduleIds)
    (isParent : model.parent id = some parent) : parent ∈ model.moduleIds :=
  (wellFormed.parent_before id known parent isParent).1

/-- What holds of a module as soon as it holds of its parent, holds of all. -/
theorem descend {motive : ModuleId → Prop}
    (step : ∀ id ∈ model.moduleIds,
      (∀ parent, model.parent id = some parent → motive parent) → motive id)
    {id : ModuleId} (known : id ∈ model.moduleIds) : motive id := by
  obtain ⟨position⟩ := id
  induction position using Nat.strongRecOn with
  | ind position induction =>
      refine step _ known fun parent isParent => ?_
      obtain ⟨parentKnown, before⟩ := wellFormed.parent_before _ known parent isParent
      exact induction parent.index before parentKnown

/-- What holds of a module as soon as it holds of its children, holds of all. -/
theorem ascend {motive : ModuleId → Prop}
    (step : ∀ id ∈ model.moduleIds,
      (∀ child ∈ model.moduleIds, model.parent child = some id → motive child) → motive id)
    {id : ModuleId} (known : id ∈ model.moduleIds) : motive id := by
  induction distance : model.modules.length - id.index using Nat.strongRecOn generalizing id with
  | ind distance induction =>
      refine step id known fun child childKnown isChild => ?_
      have before := (wellFormed.parent_before child childKnown id isChild).2
      have inside := wellFormed.mem_moduleIds.mp childKnown
      exact induction _ (by omega) childKnown rfl

theorem lineage_of_parent {id parent : ModuleId} (known : id ∈ model.moduleIds)
    (isParent : model.parent id = some parent) :
    model.lineage id = id :: model.lineage parent := by
  rw [lineage, wellFormed.lineage_parent id known parent isParent]

omit wellFormed in
theorem lineage_of_root {id : ModuleId} (isRoot : model.parent id = none) :
    model.lineage id = [id] := by
  have none : (model.module id).ancestors = [] := List.head?_eq_none_iff.mp isRoot
  rw [lineage, none]

omit wellFormed in
theorem mem_lineage {id root : ModuleId} :
    root ∈ model.lineage id ↔ model.isWithin id root = true := by
  simp [isWithin]

omit wellFormed in
@[simp] theorem isWithin_self (id : ModuleId) : model.isWithin id id = true := by
  simp [isWithin, lineage]

theorem isWithin_of_parent {id parent root : ModuleId} (known : id ∈ model.moduleIds)
    (isParent : model.parent id = some parent) :
    model.isWithin id root = true ↔ id = root ∨ model.isWithin parent root = true := by
  rw [← mem_lineage, wellFormed.lineage_of_parent known isParent, List.mem_cons,
    mem_lineage, eq_comm]

omit wellFormed in
theorem isWithin_of_root {id root : ModuleId} (isRoot : model.parent id = none) :
    model.isWithin id root = true ↔ id = root := by
  rw [← mem_lineage, lineage_of_root isRoot, List.mem_singleton, eq_comm]

theorem isWithin_parent {id parent : ModuleId} (known : id ∈ model.moduleIds)
    (isParent : model.parent id = some parent) : model.isWithin id parent = true :=
  (wellFormed.isWithin_of_parent known isParent).mpr (.inr (isWithin_self parent))

theorem ne_of_parent {id parent : ModuleId} (known : id ∈ model.moduleIds)
    (isParent : model.parent id = some parent) : id ≠ parent := by
  rintro rfl
  have before := (wellFormed.parent_before id known id isParent).2
  omega

omit wellFormed in
theorem ne_of_not_isWithin {id root : ModuleId} (apart : model.isWithin id root = false) :
    id ≠ root := by
  rintro rfl
  rw [isWithin_self] at apart
  cases apart

theorem isWithin_facts {id root : ModuleId} (known : id ∈ model.moduleIds)
    (within : model.isWithin id root = true) :
    root ∈ model.moduleIds ∧ root.index ≤ id.index := by
  revert within
  refine wellFormed.descend (motive := fun id => model.isWithin id root = true →
    root ∈ model.moduleIds ∧ root.index ≤ id.index) ?_ known
  intro id known above within
  cases isParent : model.parent id with
  | none =>
      have same := (isWithin_of_root isParent).mp within
      exact same ▸ ⟨known, Nat.le_refl _⟩
  | some parent =>
      rcases (wellFormed.isWithin_of_parent known isParent).mp within with same | within
      · exact same ▸ ⟨known, Nat.le_refl _⟩
      · obtain ⟨rootKnown, before⟩ := above parent isParent within
        have parentBefore := (wellFormed.parent_before id known parent isParent).2
        exact ⟨rootKnown, by omega⟩

theorem isWithin_known {id root : ModuleId} (known : id ∈ model.moduleIds)
    (within : model.isWithin id root = true) : root ∈ model.moduleIds :=
  (wellFormed.isWithin_facts known within).1

theorem isWithin_trans {id middle root : ModuleId} (known : id ∈ model.moduleIds)
    (first : model.isWithin id middle = true) (second : model.isWithin middle root = true) :
    model.isWithin id root = true := by
  revert first
  refine wellFormed.descend (motive := fun id => model.isWithin id middle = true →
    model.isWithin id root = true) ?_ known
  intro id known above first
  cases isParent : model.parent id with
  | none => exact (isWithin_of_root isParent).mp first ▸ second
  | some parent =>
      rcases (wellFormed.isWithin_of_parent known isParent).mp first with same | first
      · exact same ▸ second
      · exact (wellFormed.isWithin_of_parent known isParent).mpr
          (.inr (above parent isParent first))

theorem isWithin_antisymm {left right : ModuleId} (known : left ∈ model.moduleIds)
    (first : model.isWithin left right = true)
    (second : model.isWithin right left = true) : left = right := by
  obtain ⟨rightKnown, rightBefore⟩ := wellFormed.isWithin_facts known first
  have leftBefore := (wellFormed.isWithin_facts rightKnown second).2
  cases left; cases right
  exact congrArg ModuleId.mk (Nat.le_antisymm leftBefore rightBefore)

/-- The modules that a module is within form a chain. -/
theorem isWithin_total {id left right : ModuleId} (known : id ∈ model.moduleIds)
    (first : model.isWithin id left = true) (second : model.isWithin id right = true) :
    model.isWithin left right = true ∨ model.isWithin right left = true := by
  revert first second
  refine wellFormed.descend (motive := fun id => model.isWithin id left = true →
    model.isWithin id right = true →
    model.isWithin left right = true ∨ model.isWithin right left = true) ?_ known
  intro id known above first second
  cases isParent : model.parent id with
  | none =>
      have leftSame := (isWithin_of_root isParent).mp first
      exact .inl (leftSame ▸ second)
  | some parent =>
      rcases (wellFormed.isWithin_of_parent known isParent).mp first with same | within
      · exact .inl (same ▸ second)
      · rcases (wellFormed.isWithin_of_parent known isParent).mp second with
          same | alsoWithin
        · exact .inr (same ▸ first)
        · exact above parent isParent within alsoWithin

/-- A module is not within its children. -/
theorem not_isWithin_child {id parent : ModuleId} (known : id ∈ model.moduleIds)
    (isParent : model.parent id = some parent) : model.isWithin parent id = false := by
  by_contra within
  have parentKnown := wellFormed.parent_known known isParent
  have after := (wellFormed.isWithin_facts parentKnown (by simpa using within)).2
  have before := (wellFormed.parent_before id known parent isParent).2
  omega

/-! ## The child on the way -/

/-- The element before a module in a lineage is the child of it on the way. -/
theorem elementBefore_lineage {parent id child : ModuleId} (known : id ∈ model.moduleIds) :
    elementBefore parent (model.lineage id) = some child ↔
      model.parent child = some parent ∧ model.isWithin id child = true := by
  refine wellFormed.descend (motive := fun id =>
    elementBefore parent (model.lineage id) = some child ↔
      model.parent child = some parent ∧ model.isWithin id child = true) ?_ known
  intro id known above
  cases isParent : model.parent id with
  | none =>
      rw [lineage_of_root isParent, isWithin_of_root isParent]
      constructor
      · intro found
        cases found
      · rintro ⟨isChild, same⟩
        rw [← same, isParent] at isChild
        cases isChild
  | some next =>
      have unfolded : elementBefore parent (id :: model.lineage next) =
          if next = parent then some id
          else elementBefore parent (model.lineage next) := rfl
      rw [wellFormed.lineage_of_parent known isParent,
        wellFormed.isWithin_of_parent known isParent, unfolded]
      by_cases here : next = parent
      · subst here
        rw [if_pos rfl]
        constructor
        · intro found
          injection found with same
          exact same ▸ ⟨isParent, .inl rfl⟩
        · rintro ⟨isChild, same | within⟩
          · rw [same]
          · -- A child of the parent would have its own parent within it.
            have nextKnown := wellFormed.parent_known known isParent
            have childKnown := wellFormed.isWithin_known nextKnown within
            rw [wellFormed.not_isWithin_child childKnown isChild] at within
            cases within
      · rw [if_neg here, above next isParent]
        constructor
        · rintro ⟨isChild, within⟩
          exact ⟨isChild, .inr within⟩
        · rintro ⟨isChild, same | within⟩
          · rw [← same, isParent] at isChild
            exact absurd (Option.some.inj isChild) here
          · exact ⟨isChild, within⟩

theorem childContaining?_eq_some {parent id child : ModuleId}
    (known : id ∈ model.moduleIds) :
    model.childContaining? parent id = some child ↔
      model.parent child = some parent ∧ model.isWithin id child = true := by
  unfold childContaining?
  by_cases same : id = parent
  · rw [if_pos same]
    constructor
    · intro found
      cases found
    · rintro ⟨isChild, within⟩
      subst same
      have childKnown := wellFormed.isWithin_known known within
      rw [wellFormed.not_isWithin_child childKnown isChild] at within
      cases within
  · rw [if_neg same]
    exact wellFormed.elementBefore_lineage known

/-- A module strictly within another one lies within one of its children. -/
theorem exists_child_of_isWithin {id root : ModuleId} (known : id ∈ model.moduleIds)
    (within : model.isWithin id root = true) (different : id ≠ root) :
    ∃ child ∈ model.moduleIds,
      model.parent child = some root ∧ model.isWithin id child = true := by
  revert within different
  refine wellFormed.descend (motive := fun id => model.isWithin id root = true →
    id ≠ root → ∃ child ∈ model.moduleIds,
      model.parent child = some root ∧ model.isWithin id child = true) ?_ known
  intro id known above within different
  cases isParent : model.parent id with
  | none => exact absurd ((isWithin_of_root isParent).mp within) different
  | some parent =>
      rcases (wellFormed.isWithin_of_parent known isParent).mp within with same | within
      · exact absurd same different
      · by_cases here : parent = root
        · exact ⟨id, known, here ▸ isParent, isWithin_self id⟩
        · obtain ⟨child, childKnown, isChild, inside⟩ := above parent isParent within here
          exact ⟨child, childKnown, isChild,
            (wellFormed.isWithin_of_parent known isParent).mpr (.inr inside)⟩

/-! ## Common ancestors -/

theorem commonAncestor?_spec {left right common : ModuleId}
    (known : right ∈ model.moduleIds)
    (found : model.commonAncestor? left right = some common) :
    model.isWithin left common = true ∧ model.isWithin right common = true ∧
      ∀ other, model.isWithin left other = true → model.isWithin right other = true →
        model.isWithin common other = true := by
  revert found
  unfold commonAncestor?
  refine wellFormed.descend (motive := fun right =>
    (model.lineage right).find? (model.lineage left).contains = some common →
    model.isWithin left common = true ∧ model.isWithin right common = true ∧
      ∀ other, model.isWithin left other = true → model.isWithin right other = true →
        model.isWithin common other = true) ?_ known
  intro right known above found
  cases isParent : model.parent right with
  | none =>
      rw [lineage_of_root isParent] at found
      have same := List.mem_singleton.mp (List.mem_of_find?_eq_some found)
      have within := List.find?_some found
      subst same
      exact ⟨within, isWithin_self _, fun _ _ inside => inside⟩
  | some parent =>
      rw [wellFormed.lineage_of_parent known isParent, List.find?_cons] at found
      cases here : (model.lineage left).contains right with
      | true =>
          rw [here] at found
          injection found with same
          subst same
          exact ⟨here, isWithin_self _, fun _ _ inside => inside⟩
      | false =>
          rw [here] at found
          obtain ⟨inLeft, inParent, least⟩ := above parent isParent found
          refine ⟨inLeft, ?_, ?_⟩
          · exact (wellFormed.isWithin_of_parent known isParent).mpr (.inr inParent)
          · intro other otherLeft otherRight
            rcases (wellFormed.isWithin_of_parent known isParent).mp otherRight with
              same | otherParent
            · subst same
              exact absurd (here.symm.trans otherLeft) (by simp)
            · exact least other otherLeft otherParent

omit wellFormed in
theorem exists_commonAncestor {left right other : ModuleId}
    (inLeft : model.isWithin left other = true)
    (inRight : model.isWithin right other = true) :
    ∃ common, model.commonAncestor? left right = some common := by
  apply Option.isSome_iff_exists.mp
  unfold commonAncestor?
  rw [List.find?_isSome]
  exact ⟨other, mem_lineage.mpr inRight, inLeft⟩

theorem commonAncestor?_eq {left right common : ModuleId}
    (rightKnown : right ∈ model.moduleIds) (inLeft : model.isWithin left common = true)
    (inRight : model.isWithin right common = true)
    (least : ∀ other, model.isWithin left other = true → model.isWithin right other = true →
      model.isWithin common other = true) : model.commonAncestor? left right = some common := by
  obtain ⟨found, isFound⟩ := exists_commonAncestor inLeft inRight
  obtain ⟨foundLeft, foundRight, below⟩ := wellFormed.commonAncestor?_spec rightKnown isFound
  have known := wellFormed.isWithin_known rightKnown foundRight
  have same := wellFormed.isWithin_antisymm known (below common inLeft inRight)
    (least found foundLeft foundRight)
  rw [isFound, same]

/-! ## Roots -/

theorem rootOf_of_parent {id parent : ModuleId} (known : id ∈ model.moduleIds)
    (isParent : model.parent id = some parent) : model.rootOf id = model.rootOf parent := by
  rw [rootOf, wellFormed.lineage_parent id known parent isParent, rootOf, lineage,
    List.getLastD_cons]

omit wellFormed in
theorem rootOf_of_root {id : ModuleId} (isRoot : model.parent id = none) :
    model.rootOf id = id := by
  have none : (model.module id).ancestors = [] := List.head?_eq_none_iff.mp isRoot
  rw [rootOf, none]
  rfl

theorem rootOf_spec {id : ModuleId} (known : id ∈ model.moduleIds) :
    model.isWithin id (model.rootOf id) = true ∧
      model.parent (model.rootOf id) = none := by
  refine wellFormed.descend (motive := fun id =>
    model.isWithin id (model.rootOf id) = true ∧
      model.parent (model.rootOf id) = none) ?_ known
  intro id known above
  cases isParent : model.parent id with
  | none =>
      rw [rootOf_of_root isParent]
      exact ⟨isWithin_self id, isParent⟩
  | some parent =>
      rw [wellFormed.rootOf_of_parent known isParent]
      obtain ⟨within, isRoot⟩ := above parent isParent
      exact ⟨(wellFormed.isWithin_of_parent known isParent).mpr (.inr within), isRoot⟩

/-- A module lies in the subtree of one root only. -/
theorem rootOf_eq_iff {id root : ModuleId} (known : id ∈ model.moduleIds)
    (isRoot : model.parent root = none) :
    model.rootOf id = root ↔ model.isWithin id root = true := by
  obtain ⟨within, top⟩ := wellFormed.rootOf_spec known
  constructor
  · rintro rfl
    exact within
  · intro below
    rcases wellFormed.isWithin_total known within below with up | down
    · exact (isWithin_of_root top).mp up
    · exact ((isWithin_of_root isRoot).mp down).symm

end StaticInjection.Model.WellFormed
