import StaticInjection.Proofs.Emission.Binding

/-! # Cells

A lazy socket has one cell. It is made in the anchor, which lies above the bean, handed
down module by module to the bean, and filled once in the anchor, after everything has
been built. -/

namespace StaticInjection

/-- Where keys tell items apart, what is made of one item is found by its key. -/
theorem filter_filterMap_of_key {α β γ : Type} [DecidableEq γ] (make : α → Option β)
    (key : α → γ) (place : β → γ)
    (agree : ∀ item made, make item = some made → place made = key item) {items : List α}
    (nodup : (items.map key).Nodup) {item : α} (listed : item ∈ items) :
    (items.filterMap make).filter (fun made => place made = key item) = (make item).toList := by
  induction items with
  | nil => cases listed
  | cons head rest induction =>
      obtain ⟨fresh, restNodup⟩ := List.nodup_cons.mp nodup
      have joined : (head :: rest).filterMap make = (make head).toList ++ rest.filterMap make := by
        cases made : make head <;> simp [made]
      rw [joined, List.filter_append]
      rcases List.mem_cons.mp listed with rfl | later
      · have own : (make item).toList.filter (fun made => place made = key item) =
            (make item).toList :=
          List.filter_eq_self.mpr fun made member =>
            decide_eq_true (agree item made (Option.mem_toList.mp member))
        have others : (rest.filterMap make).filter (fun made => place made = key item) = [] := by
          refine List.filter_eq_nil_iff.mpr fun made member isKey => fresh ?_
          obtain ⟨other, inRest, isMade⟩ := List.mem_filterMap.mp member
          rw [← of_decide_eq_true isKey, agree other made isMade]
          exact List.mem_map_of_mem inRest
        rw [own, others, List.append_nil]
      · have own : (make head).toList.filter (fun made => place made = key item) = [] := by
          refine List.filter_eq_nil_iff.mpr fun made member isKey => fresh ?_
          rw [← agree head made (Option.mem_toList.mp member), of_decide_eq_true isKey]
          exact List.mem_map_of_mem later
        rw [own, List.nil_append, induction restNodup later]

namespace Code

/-- The cell that a patch fills. -/
def Patch.cell : Patch → Local
  | fill cell _ => cell
  | fillOptional cell _ => cell

end Code

namespace Model

open Code

/-- The deepest module whose subtree holds both. -/
structure IsLowestAncestor (model : Model) (anchor left right : ModuleId) : Prop where
  holdsLeft : model.isWithin left anchor = true
  holdsRight : model.isWithin right anchor = true
  lowest : ∀ other, model.isWithin left other = true → model.isWithin right other = true →
    model.isWithin anchor other = true

/-- Two modules lie in different trees. -/
def Apart (model : Model) (left right : ModuleId) : Prop :=
  ∀ other, model.isWithin left other = true → model.isWithin right other = false

variable {model : Model}

/-- The anchor is the lowest common ancestor, or a root where there is none. -/
theorem anchor_spec (wellFormed : model.WellFormed) {requirer : ModuleId}
    (known : requirer ∈ model.moduleIds) {target : Provider} (offered : model.Offers target) :
    let anchor := model.anchor requirer (some target)
    model.IsLowestAncestor anchor requirer (model.providerModule target) ∨
      model.Apart requirer (model.providerModule target) ∧
        model.isWithin requirer anchor = true ∧ model.parent anchor = none := by
  have place := wellFormed.providerModule_known offered
  intro anchor
  cases found : model.commonAncestor? requirer (model.providerModule target) with
  | some common =>
      have same : anchor = common := by simp [anchor, Model.anchor, found]
      obtain ⟨left, right, lowest⟩ := wellFormed.commonAncestor?_spec place found
      exact .inl (same ▸ ⟨left, right, lowest⟩)
  | none =>
      have same : anchor = model.rootOf requirer := by simp [anchor, Model.anchor, found]
      refine .inr ⟨fun other above => ?_, same ▸ wellFormed.rootOf_spec known⟩
      by_contra inside
      obtain ⟨common, isCommon⟩ := WellFormed.exists_commonAncestor above (by simpa using inside)
      rw [found] at isCommon
      cases isCommon

/-! ## Which modules handle a cell -/

theorem mem_deferredOwned_iff {id : ModuleId} {plan : ModulePlan} (planned : model.Planned id plan)
    {edge : DeferredEdge} (member : edge ∈ model.finalPlan.deferred) :
    edge.socket ∈ plan.deferredOwned ↔ id = edge.anchor := by
  rw [mem_deferredOwned planned]
  constructor
  · rintro ⟨other, otherMember, isAnchor, same⟩
    rw [← isAnchor, deferred_eq member otherMember same]
  · rintro rfl
    exact ⟨edge, member, rfl, rfl⟩

theorem mem_deferredIn_iff {id : ModuleId} {plan : ModulePlan} (planned : model.Planned id plan)
    {edge : DeferredEdge} (member : edge ∈ model.finalPlan.deferred) :
    edge.socket ∈ plan.deferredIn ↔
      model.isWithin (model.bean edge.bean).module id = true ∧
        model.isWithin id edge.anchor = true ∧ id ≠ edge.anchor := by
  rw [mem_deferredIn planned]
  constructor
  · rintro ⟨other, otherMember, notAnchor, above, inside, same⟩
    cases deferred_eq member otherMember same
    exact ⟨inside, above, notAnchor.symm⟩
  · rintro ⟨inside, above, notAnchor⟩
    exact ⟨edge, member, notAnchor.symm, above, inside, rfl⟩

/-! ## Making and filling -/

theorem patch?_cell {scope : ModuleId} {edge : DeferredEdge} {patch : Patch}
    (made : model.patch? scope edge = some patch) : patch.cell = model.cellLocal edge.socket := by
  simp only [patch?] at made
  split at made
  · cases made
  · cases made
    rfl
  · split at made <;> cases made <;> rfl

/-- A cell is filled when there is something to fill it with. -/
theorem patch?_isSome {scope : ModuleId} {edge : DeferredEdge} :
    (model.patch? scope edge).isSome = edge.target.isSome := by
  simp only [patch?]
  split
  · simp [*]
  · simp [*]
  · split <;> simp [*]

section

variable (wellFormed : model.WellFormed)

include wellFormed

theorem cellTexts_nodup {id : ModuleId} (survives : model.Survives id) {plan : ModulePlan}
    (planned : model.Planned id plan) :
    (plan.deferredOwned.map fun socket => (model.cellLocal socket).text).Nodup := by
  have cells := cellLocals_nodup wellFormed survives planned
  rw [List.map_append] at cells
  have texts := (List.nodup_append.mp cells).2.1.map Local.text_injective
  rwa [List.map_map] at texts

/-- The constructor of a survivor makes each cell that belongs to it once. -/
theorem cells_filter {id : ModuleId} (survives : model.Survives id) {plan : ModulePlan}
    (planned : model.Planned id plan) {socket : SocketId} (made : socket ∈ plan.deferredOwned) :
    ((model.constructorFor plan).cells.filter fun cell =>
      cell.1.text = (model.cellLocal socket).text) =
        [(model.cellLocal socket, (model.socket socket).requiredType.text)] := by
  let make (owned : SocketId) := some
    (model.cellLocal owned, (model.socket owned).requiredType.text)
  have found := filter_filterMap_of_key make (fun owned => (model.cellLocal owned).text)
    (fun cell => cell.1.text) (fun owned cell equal => by cases equal; rfl)
    (cellTexts_nodup wellFormed survives planned) made
  simpa [make, constructorFor, constructor] using found

/-- The constructor of a survivor fills each cell that belongs to it once, if at all. -/
theorem patches_filter {id : ModuleId} (survives : model.Survives id) {plan : ModulePlan}
    (planned : model.Planned id plan) {edge : DeferredEdge}
    (member : edge ∈ model.finalPlan.deferred) (isAnchor : id = edge.anchor) :
    ((model.constructorFor plan).patches.filter fun patch =>
      patch.cell.text = (model.cellLocal edge.socket).text) =
        (model.patch? id edge).toList := by
  let make (owned : SocketId) := (model.finalPlan.deferredEdge? owned).bind (model.patch? id)
  have agree : ∀ owned patch, make owned = some patch →
      patch.cell.text = (model.cellLocal owned).text := by
    intro owned patch made
    obtain ⟨other, found, patched⟩ := Option.bind_eq_some_iff.mp made
    have same : other.socket = owned := by simpa using List.find?_some found
    rw [patch?_cell patched, same]
  have found := filter_filterMap_of_key make (fun owned => (model.cellLocal owned).text)
    (fun patch => patch.cell.text) agree (cellTexts_nodup wellFormed survives planned)
    ((mem_deferredOwned_iff planned member).mpr isAnchor)
  simpa [make, constructorFor, constructor, planned.module, List.filterMap_filterMap,
    deferredEdge?_of_mem member] using found

end

end Model

end StaticInjection
