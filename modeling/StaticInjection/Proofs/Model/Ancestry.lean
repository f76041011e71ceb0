import Mathlib.Logic.Relation
import StaticInjection.Proofs.Model.Arrangement

/-! # Ancestors

A forest answers what lies within what, which child leads down to a module, and where two modules
meet. Each answer is found on the way from a module up to its root, and that way ends: every parent
has a smaller number than its children. -/

namespace StaticInjection

theorem find?_beq [BEq α] [LawfulBEq α] (item : α) (items : List α) :
    items.find? (· == item) = if items.contains item then some item else none := by
  induction items with
  | nil => rfl
  | cons head tail induction =>
      by_cases same : head = item
      · simp [same]
      · simp [same, induction, Ne.symm same]

namespace Model

/-- Go up from a module, parent by parent, to the first module that is wanted. The number bounds the
modules looked at; nothing comes out when it does not suffice. -/
def searchUp (model : Model) (isWanted : ModuleId → Bool) :
    Nat → ModuleId → Option (Option ModuleId)
  | 0, _ => none
  | bound + 1, id =>
    if isWanted id then some (some id)
    else
      match model.parent id with
      | none => some none
      | some parent => model.searchUp isWanted bound parent

namespace WellFormed

variable {model : Model} (wellFormed : model.WellFormed)

include wellFormed

/-- The way up is the lineage of the module, and its number bounds the length. -/
theorem searchUp_eq (isWanted : ModuleId → Bool) {id : ModuleId} (known : id ∈ model.moduleIds)
    {bound : Nat} (enough : id.index < bound) :
    model.searchUp isWanted bound id = some ((model.lineage id).find? isWanted) := by
  induction bound generalizing id with
  | zero => exact absurd enough (Nat.not_lt_zero _)
  | succ bound induction =>
      rw [searchUp]
      cases isParent : model.parent id with
      | none =>
          rw [lineage_of_root isParent, List.find?_singleton]
          split <;> rfl
      | some parent =>
          obtain ⟨parentKnown, before⟩ := wellFormed.parent_before id known parent isParent
          rw [wellFormed.lineage_of_parent known isParent, List.find?_cons]
          cases isWanted id with
          | true => rfl
          | false => exact induction parentKnown (by omega)

theorem isWithin_iff_chain {id root : ModuleId} (known : id ∈ model.moduleIds) :
    model.isWithin id root = true ↔
      Relation.ReflTransGen (fun child parent => model.parent child = some parent) id root := by
  refine wellFormed.descend (motive := fun id => model.isWithin id root = true ↔
    Relation.ReflTransGen (fun child parent => model.parent child = some parent) id root) ?_ known
  intro id known above
  rw [Relation.ReflTransGen.cases_head_iff]
  cases isParent : model.parent id with
  | none => simp [isWithin_of_root isParent]
  | some parent => simp [wellFormed.isWithin_of_parent known isParent, above parent isParent]

/-! ## The child on the way -/

/-- It is the first module on the way up whose parent is the module asked for. -/
theorem childContaining?_eq_find? {parent id : ModuleId} (known : id ∈ model.moduleIds) :
    model.childContaining? parent id =
      (model.lineage id).find? fun child => model.parent child == some parent := by
  have found : elementBefore parent (model.lineage id) =
      (model.lineage id).find? fun child => model.parent child == some parent := by
    refine wellFormed.descend (motive := fun id => elementBefore parent (model.lineage id) =
      (model.lineage id).find? fun child => model.parent child == some parent) ?_ known
    intro id known above
    cases isParent : model.parent id with
    | none => simp [lineage_of_root isParent, elementBefore, isParent]
    | some next =>
        have unfolded : elementBefore parent (id :: model.lineage next) =
            if next = parent then some id else elementBefore parent (model.lineage next) := rfl
        rw [wellFormed.lineage_of_parent known isParent, unfolded, List.find?_cons,
          above next isParent]
        by_cases here : next = parent
        · simp [here, isParent]
        · simp [here, isParent, beq_eq_false_iff_ne.mpr here]
  rw [← found]
  refine Option.ext fun child => ?_
  rw [wellFormed.childContaining?_eq_some known, wellFormed.elementBefore_lineage known]

theorem mem_childContaining? {parent id child : ModuleId} (known : id ∈ model.moduleIds)
    (parentKnown : parent ∈ model.moduleIds) :
    model.childContaining? parent id = some child ↔
      child ∈ (model.module parent).children ∧ model.isWithin id child = true := by
  rw [wellFormed.childContaining?_eq_some known, wellFormed.children parent parentKnown]
  constructor
  · rintro ⟨isChild, within⟩
    exact ⟨⟨wellFormed.isWithin_known known within, isChild⟩, within⟩
  · rintro ⟨⟨_, isChild⟩, within⟩
    exact ⟨isChild, within⟩

/-! ## Common ancestors -/

theorem commonAncestor?_eq_some_iff {left right common : ModuleId}
    (rightKnown : right ∈ model.moduleIds) :
    model.commonAncestor? left right = some common ↔
      model.isWithin left common = true ∧ model.isWithin right common = true ∧
        ∀ other, model.isWithin left other = true → model.isWithin right other = true →
          model.isWithin common other = true := by
  constructor
  · exact wellFormed.commonAncestor?_spec rightKnown
  · rintro ⟨inLeft, inRight, least⟩
    exact wellFormed.commonAncestor?_eq rightKnown inLeft inRight least

theorem commonAncestor?_comm {left right : ModuleId} (leftKnown : left ∈ model.moduleIds)
    (rightKnown : right ∈ model.moduleIds) :
    model.commonAncestor? left right = model.commonAncestor? right left := by
  refine Option.ext fun common => ?_
  rw [wellFormed.commonAncestor?_eq_some_iff rightKnown,
    wellFormed.commonAncestor?_eq_some_iff leftKnown, and_left_comm]
  exact and_congr_right' (and_congr_right' (forall_congr' fun _ => imp.swap))

/-- Modules in different trees share no ancestor, and those in one tree have its root. -/
theorem commonAncestor?_eq_none_iff {left right : ModuleId} (leftKnown : left ∈ model.moduleIds)
    (rightKnown : right ∈ model.moduleIds) :
    model.commonAncestor? left right = none ↔
      ∀ root ∈ model.roots,
        ¬(model.isWithin left root = true ∧ model.isWithin right root = true) := by
  constructor
  · rintro none root _ ⟨inLeft, inRight⟩
    obtain ⟨common, found⟩ := exists_commonAncestor inLeft inRight
    rw [none] at found
    cases found
  · intro apart
    cases found : model.commonAncestor? left right with
    | none => rfl
    | some common =>
        obtain ⟨inLeft, inRight, _⟩ := wellFormed.commonAncestor?_spec rightKnown found
        have commonKnown := wellFormed.isWithin_known rightKnown inRight
        obtain ⟨within, top⟩ := wellFormed.rootOf_spec commonKnown
        have rootKnown := wellFormed.isWithin_known commonKnown within
        exact absurd ⟨wellFormed.isWithin_trans leftKnown inLeft within,
          wellFormed.isWithin_trans rightKnown inRight within⟩
          (apart _ ((wellFormed.roots _).mpr ⟨rootKnown, top⟩))

end WellFormed

/-- How two modules of a forest stand to each other, with the declarations in the order of their
modules. -/
structure Ancestry (model : Model) (order : List ModuleDeclaration) (left right : ModuleId) :
    Prop where
  /-- A module lies within those that its parents lead to. -/
  within_chain : model.isWithin left right = true ↔
    Relation.ReflTransGen (fun child parent => model.parent child = some parent) left right
  /-- A subtree takes the numbers from that of its root on, without a gap. -/
  within_range : ∃ declaration, order[right.index]? = some declaration ∧
    (model.isWithin left right = true ↔
      right.index ≤ left.index ∧ left.index < right.index + declaration.preorder.length)
  child : ∀ child, model.childContaining? right left = some child ↔
    child ∈ (model.module right).children ∧ model.isWithin left child = true
  child_unique : ∀ child ∈ (model.module right).children, model.isWithin left child = true →
    ∀ other ∈ (model.module right).children, model.isWithin left other = true → other = child
  common_comm : model.commonAncestor? left right = model.commonAncestor? right left
  /-- There is none exactly when the modules are in different trees. -/
  common_none : model.commonAncestor? left right = none ↔
    ∀ root ∈ model.roots, ¬(model.isWithin left root = true ∧ model.isWithin right root = true)
  /-- It holds both, and lies within all that hold both. -/
  common : ∀ common, model.commonAncestor? left right = some common ↔
    model.isWithin left common = true ∧ model.isWithin right common = true ∧
      ∀ other, model.isWithin left other = true → model.isWithin right other = true →
        model.isWithin common other = true
  /-- Whatever is looked for, the way up ends, after no more modules than the number of the first
  one allows. -/
  search_ends : ∀ isWanted, (model.searchUp isWanted (left.index + 1) left).isSome
  within_search : model.searchUp (· == right) (left.index + 1) left =
    some (if model.isWithin left right then some right else none)
  child_search : model.searchUp (fun child => model.parent child == some right) (left.index + 1)
    left = some (model.childContaining? right left)
  common_search : model.searchUp (model.isWithin left) (right.index + 1) right =
    some (model.commonAncestor? left right)

end Model

variable {declarations : List ModuleDeclaration}

theorem declaration_site {site : Site} (member : site ∈ applicationSites declarations) :
    (forestPreorder declarations)[site.id.index]? = some site.declaration := by
  have numbered : Numbered (·.id.index) 0 (applicationSites declarations) := by
    simpa [Numbered, Layout.ofSites, Site.module, Function.comp_def, Extent.zero]
      using (applicationSites_chained declarations).modules_numbered
  rw [← forestSites_declarations .none (Layout.forestRoots 0 declarations) .zero, List.getElem?_map]
  exact congrArg _ (numbered.getElem?_number member)

/-- Any two modules of a forest stand to each other as its tree has it. -/
theorem Model.ofDeclarations_ancestry (declarations : List ModuleDeclaration)
    {left right : ModuleId} (leftKnown : left ∈ (ofDeclarations declarations).moduleIds)
    (rightKnown : right ∈ (ofDeclarations declarations).moduleIds) :
    (ofDeclarations declarations).Ancestry (forestPreorder declarations) left right := by
  have wellFormed := ofDeclarations_wellFormed declarations
  have child : ∀ child, (ofDeclarations declarations).childContaining? right left = some child ↔
      child ∈ ((ofDeclarations declarations).module right).children ∧
        (ofDeclarations declarations).isWithin left child = true :=
    fun _ => wellFormed.mem_childContaining? leftKnown rightKnown
  refine {
    within_chain := wellFormed.isWithin_iff_chain leftKnown
    within_range := ?range
    child
    child_unique := ?unique
    common_comm := wellFormed.commonAncestor?_comm leftKnown rightKnown
    common_none := wellFormed.commonAncestor?_eq_none_iff leftKnown rightKnown
    common := fun _ => wellFormed.commonAncestor?_eq_some_iff rightKnown
    search_ends := ?ends
    within_search := ?within
    child_search := ?search
    common_search := ?common }
  case range =>
    obtain ⟨site, member, rfl⟩ := mem_moduleIds_site.mp rightKnown
    exact ⟨site.declaration, declaration_site member,
      (isWithin_site_iff member leftKnown).trans site.exists_subtree_iff⟩
  case unique =>
    intro first isFirst holdsFirst second isSecond holdsSecond
    have found := (child first).mpr ⟨isFirst, holdsFirst⟩
    rw [(child second).mpr ⟨isSecond, holdsSecond⟩] at found
    exact Option.some.inj found
  case ends =>
    intro isWanted
    rw [wellFormed.searchUp_eq isWanted leftKnown (Nat.lt_succ_self _)]
    rfl
  case within =>
    rw [wellFormed.searchUp_eq _ leftKnown (Nat.lt_succ_self _), find?_beq]
    rfl
  case search =>
    rw [wellFormed.searchUp_eq _ leftKnown (Nat.lt_succ_self _),
      wellFormed.childContaining?_eq_find? leftKnown]
  case common => exact wellFormed.searchUp_eq _ rightKnown (Nat.lt_succ_self _)

/-- An application with a module in a module, and tools in a tree of their own. -/
def sampleForest : List ModuleDeclaration :=
  let data : ModuleDeclaration := { name := "data", modules := [{ name := "disk" }] }
  [{ name := "app", modules := [data, { name := "web" }] }, { name := "tools" }]

/-- The disk and the web meet in the application, and the disk lies in the child `data` of it. With
the tools it shares nothing. -/
theorem sampleForest_ancestry :
    let model := Model.ofDeclarations sampleForest
    let order := forestPreorder sampleForest
    model.moduleIds = [⟨0⟩, ⟨1⟩, ⟨2⟩, ⟨3⟩, ⟨4⟩] ∧
      model.commonAncestor? ⟨2⟩ ⟨3⟩ = some ⟨0⟩ ∧ model.childContaining? ⟨0⟩ ⟨2⟩ = some ⟨1⟩ ∧
      model.commonAncestor? ⟨2⟩ ⟨4⟩ = none ∧ model.Ancestry order ⟨2⟩ ⟨3⟩ ∧
      model.Ancestry order ⟨2⟩ ⟨0⟩ ∧ model.Ancestry order ⟨2⟩ ⟨4⟩ := by
  intro model order
  have ids : model.moduleIds = [⟨0⟩, ⟨1⟩, ⟨2⟩, ⟨3⟩, ⟨4⟩] := by decide +kernel
  have known : ∀ id ∈ [⟨0⟩, ⟨1⟩, ⟨2⟩, ⟨3⟩, ⟨4⟩], id ∈ model.moduleIds := by simp [ids]
  have disk := known ⟨2⟩ (by decide)
  exact ⟨ids, by decide +kernel, by decide +kernel, by decide +kernel,
    Model.ofDeclarations_ancestry sampleForest disk (known ⟨3⟩ (by decide)),
    Model.ofDeclarations_ancestry sampleForest disk (known ⟨0⟩ (by decide)),
    Model.ofDeclarations_ancestry sampleForest disk (known ⟨4⟩ (by decide))⟩

end StaticInjection
