import StaticInjection.Proofs.Build.Survival

/-! # Deferred edges

Each lazy wire of a bean in a module that is not left out has one deferred edge. Its
anchor lies above the bean, may use the target, and holds the target in its subtree
unless it is a root. -/

namespace StaticInjection.Model

/-- A deferred edge as it comes from a lazy wire. -/
structure IsDeferred (model : Model) (wire : Wire) (edge : DeferredEdge) : Prop where
  member : wire ∈ model.wires.wires
  isLazy : wire.isLazy = true
  owner : (model.socket wire.socket).owner = .bean edge.bean
  socket : edge.socket = wire.socket
  target : edge.target = wire.targets.head?
  anchor : edge.anchor = model.anchor (model.bean edge.bean).module edge.target

variable {model : Model}

theorem deferredEdge?_eq_some {failed : List ModuleId} {wire : Wire} {edge : DeferredEdge}
    (member : wire ∈ model.wires.wires) :
    model.deferredEdge? failed wire = some edge ↔
      model.IsDeferred wire edge ∧ (model.bean edge.bean).module ∉ failed := by
  unfold deferredEdge?
  constructor
  · intro found
    split at found
    · cases found
    · rename_i bean owned
      simp only at found
      split at found
      · rename_i kept
        simp only [Bool.and_eq_true, Bool.not_eq_true', List.contains_eq_mem,
          decide_eq_false_iff_not] at kept
        cases found
        exact ⟨⟨member, kept.1, owned, rfl, rfl, rfl⟩, kept.2⟩
      · cases found
  · rintro ⟨isDeferred, kept⟩
    obtain ⟨socket, bean, target, anchor⟩ := edge
    have sameSocket := isDeferred.socket
    have sameTarget := isDeferred.target
    have sameAnchor := isDeferred.anchor
    simp only at sameSocket sameTarget sameAnchor kept
    simp [isDeferred.owner, isDeferred.isLazy, kept, sameSocket, sameAnchor, sameTarget]

theorem deferredEdge?_socket {failed : List ModuleId} {wire : Wire} {edge : DeferredEdge}
    (found : model.deferredEdge? failed wire = some edge) : edge.socket = wire.socket := by
  unfold deferredEdge? at found
  split at found
  · cases found
  · simp only at found
    split at found
    · cases found
      rfl
    · cases found

/-! ## The edges of the final plan -/

theorem finalPlan_deferred (model : Model) :
    model.finalPlan.deferred = model.deferredEdges model.wires model.leftOut := by
  rw [finalPlan_eq]
  rfl

theorem isDeferred_of_mem {edge : DeferredEdge} (member : edge ∈ model.finalPlan.deferred) :
    ∃ wire, model.IsDeferred wire edge := by
  rw [finalPlan_deferred] at member
  obtain ⟨wire, isWire, found⟩ := List.mem_filterMap.mp member
  exact ⟨wire, ((deferredEdge?_eq_some isWire).mp found).1⟩

/-- The lazy wire of a bean has a deferred edge unless the module of the bean is left
out. -/
theorem exists_deferred {wire : Wire} (member : wire ∈ model.wires.wires)
    (isLazy : wire.isLazy = true) {bean : BeanId}
    (owner : (model.socket wire.socket).owner = .bean bean)
    (kept : (model.bean bean).module ∉ model.leftOut) :
    ∃ edge ∈ model.finalPlan.deferred, model.IsDeferred wire edge ∧ edge.bean = bean := by
  let edge : DeferredEdge := ⟨wire.socket, bean, wire.targets.head?,
    model.anchor (model.bean bean).module wire.targets.head?⟩
  have isDeferred : model.IsDeferred wire edge := ⟨member, isLazy, owner, rfl, rfl, rfl⟩
  refine ⟨edge, ?_, isDeferred, rfl⟩
  rw [finalPlan_deferred]
  exact List.mem_filterMap.mpr ⟨wire, member,
    (deferredEdge?_eq_some member).mpr ⟨isDeferred, kept⟩⟩

theorem deferred_nodup : (model.finalPlan.deferred.map (·.socket)).Nodup := by
  rw [finalPlan_deferred, deferredEdges]
  exact (sublist_of_filterMap (fun _ _ => deferredEdge?_socket) _).nodup model.wires.nodup_sockets

/-- A socket has one deferred edge. -/
theorem deferred_eq {edge other : DeferredEdge} (member : edge ∈ model.finalPlan.deferred)
    (otherMember : other ∈ model.finalPlan.deferred) (same : other.socket = edge.socket) :
    other = edge :=
  List.inj_on_of_nodup_map deferred_nodup otherMember member same

theorem deferredEdge?_of_mem {edge : DeferredEdge} (member : edge ∈ model.finalPlan.deferred) :
    model.finalPlan.deferredEdge? edge.socket = some edge := by
  cases found : model.finalPlan.deferredEdge? edge.socket with
  | none =>
      have missed := List.find?_eq_none.mp found edge member
      simp at missed
  | some other =>
      have same : other.socket = edge.socket := by simpa using List.find?_some found
      exact congrArg some (deferred_eq member (List.mem_of_find?_eq_some found) same)

/-! ## Anchors -/

section

variable (wellFormed : model.WellFormed)

include wellFormed

theorem anchor_of_own (id : ModuleId) (known : id ∈ model.moduleIds) :
    model.commonAncestor? id id = some id :=
  wellFormed.commonAncestor?_eq known (WellFormed.isWithin_self id)
    (WellFormed.isWithin_self id) fun _ first _ => first

theorem commonAncestor?_of_siblings {left right parent : ModuleId}
    (leftKnown : left ∈ model.moduleIds) (rightKnown : right ∈ model.moduleIds)
    (different : right ≠ left) (isLeft : model.parent left = some parent)
    (isRight : model.parent right = some parent) :
    model.commonAncestor? left right = some parent := by
  refine wellFormed.commonAncestor?_eq rightKnown (wellFormed.isWithin_parent leftKnown isLeft)
    (wellFormed.isWithin_parent rightKnown isRight) ?_
  intro other inLeft inRight
  rcases (wellFormed.isWithin_of_parent leftKnown isLeft).mp inLeft with same | above
  · -- A module is not above its sibling.
    subst same
    rcases (wellFormed.isWithin_of_parent rightKnown isRight).mp inRight with same | again
    · exact absurd same different
    · rw [wellFormed.not_isWithin_child leftKnown isLeft] at again
      cases again
  · exact above

theorem commonAncestor?_of_roots {left right : ModuleId} (rightKnown : right ∈ model.moduleIds)
    (different : right ≠ left) (isLeft : model.parent left = none)
    (isRight : model.parent right = none) : model.commonAncestor? left right = none := by
  cases found : model.commonAncestor? left right with
  | none => rfl
  | some common =>
      obtain ⟨inLeft, inRight, _⟩ := wellFormed.commonAncestor?_spec rightKnown found
      have first := (WellFormed.isWithin_of_root isLeft).mp inLeft
      have second := (WellFormed.isWithin_of_root isRight).mp inRight
      exact absurd (second.trans first.symm) different

/-- The anchor for a module and its kin lies above the module and is kin of the other
too, which it holds unless it is a root. -/
theorem anchor_of_kin {requirer owner : ModuleId} (known : requirer ∈ model.moduleIds)
    (ownerKnown : owner ∈ model.moduleIds) (kin : model.Kin requirer owner)
    {anchor : ModuleId}
    (isAnchor : (model.commonAncestor? requirer owner).getD (model.rootOf requirer) = anchor) :
    model.isWithin requirer anchor = true ∧ model.Kin anchor owner ∧
      (owner = requirer → owner = anchor) ∧
      (model.isWithin owner anchor = true ∨ model.parent anchor = none) := by
  cases kin with
  | own =>
      rw [anchor_of_own wellFormed requirer known] at isAnchor
      cases isAnchor
      exact ⟨WellFormed.isWithin_self _, .own, fun _ => rfl, .inl (WellFormed.isWithin_self _)⟩
  | above different within =>
      have common : model.commonAncestor? requirer owner = some owner :=
        wellFormed.commonAncestor?_eq ownerKnown within (WellFormed.isWithin_self owner)
          fun _ _ inOwner => inOwner
      rw [common] at isAnchor
      cases isAnchor
      exact ⟨within, .own, fun _ => rfl, .inl (WellFormed.isWithin_self _)⟩
  | child isChild =>
      have within := wellFormed.isWithin_parent ownerKnown isChild
      have common : model.commonAncestor? requirer owner = some requirer :=
        wellFormed.commonAncestor?_eq ownerKnown (WellFormed.isWithin_self requirer) within
          fun _ inRequirer _ => inRequirer
      rw [common] at isAnchor
      cases isAnchor
      exact ⟨WellFormed.isWithin_self _, .child isChild, id, .inl within⟩
  | wired listed =>
      obtain ⟨_, different, siblings⟩ := wellFormed.wired requirer known owner listed
      cases isParent : model.parent requirer with
      | some parent =>
          rw [isParent] at siblings
          have common := commonAncestor?_of_siblings wellFormed known ownerKnown different
            isParent siblings
          rw [common] at isAnchor
          cases isAnchor
          exact ⟨wellFormed.isWithin_parent known isParent, .child siblings,
            fun same => absurd same different, .inl (wellFormed.isWithin_parent ownerKnown siblings)⟩
      | none =>
          rw [isParent] at siblings
          have apart := commonAncestor?_of_roots wellFormed ownerKnown different isParent siblings
          rw [apart] at isAnchor
          have same : anchor = requirer := isAnchor.symm.trans (WellFormed.rootOf_of_root isParent)
          subst same
          exact ⟨WellFormed.isWithin_self _, .wired listed, fun same => absurd same different,
            .inr isParent⟩

/-- The anchor of a deferred edge lies above the bean and may use the target, which it
holds unless it is a root. -/
theorem IsDeferred.anchored {wire : Wire} {edge : DeferredEdge}
    (isDeferred : model.IsDeferred wire edge) :
    model.isWithin (model.bean edge.bean).module edge.anchor = true ∧
      ∀ target, edge.target = some target → model.InReach edge.anchor target ∧
        (model.isWithin (model.providerModule target) edge.anchor = true ∨
          model.parent edge.anchor = none) := by
  obtain ⟨scope, known, wired⟩ := wellFormed.wired_of_mem isDeferred.member
  have isScope := scope_of_bean isDeferred.owner wired.wiring
  have anchor := isDeferred.anchor
  rw [isScope] at anchor ⊢
  cases isTarget : edge.target with
  | none =>
      rw [isTarget, Model.anchor] at anchor
      rw [anchor]
      exact ⟨WellFormed.isWithin_self _, by simp⟩
  | some target =>
      have listed : target ∈ wire.targets :=
        List.mem_of_mem_head? (isDeferred.target ▸ isTarget)
      have suits := wired.suits target listed
      have targetKnown := wellFormed.providerModule_known suits.offered
      rw [isTarget, Model.anchor] at anchor
      obtain ⟨above, kin, own, holds⟩ :=
        anchor_of_kin wellFormed known targetKnown suits.kin anchor.symm
      refine ⟨above, fun other same => ?_⟩
      cases same
      exact ⟨⟨suits.offered, kin, fun apart => suits.isPublic fun same => apart (own same)⟩, holds⟩

end

end StaticInjection.Model
