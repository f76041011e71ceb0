import StaticInjection.Proofs.Model.Tree
import StaticInjection.Proofs.Order.Repetition
import StaticInjection.Scope.Visibility

/-! # What a module sees

A module sees its own providers, and the public beans of the modules above it, of its
children, and of the siblings that it is wired to. What is found in several of these places
is seen once. -/

namespace StaticInjection

/-! ## The order of candidates -/

namespace PlacedProvider

variable {left right : PlacedProvider}

theorem isBefore_iff : left.isBefore right = true ↔ left.1.index < right.1.index ∨
    (left.1 = right.1 ∧ (left.2.key.1 < right.2.key.1 ∨
      (left.2.key.1 = right.2.key.1 ∧ left.2.key.2 < right.2.key.2))) := by
  simp [isBefore]

theorem isBefore_trans {first second third : PlacedProvider}
    (before : first.isBefore second = true) (after : second.isBefore third = true) :
    first.isBefore third = true := by
  rw [isBefore_iff] at before after ⊢
  rcases before with before | ⟨same, before⟩
  · rcases after with after | ⟨same, _⟩
    · exact .inl (by omega)
    · exact .inl (same ▸ before)
  · rcases after with after | ⟨alsoSame, after⟩
    · exact .inl (same ▸ after)
    · exact .inr ⟨same.trans alsoSame, by omega⟩

theorem isBefore_irrefl (placed : PlacedProvider) : placed.isBefore placed = false := by
  rw [← Bool.not_eq_true, isBefore_iff]
  omega

theorem isBefore_asymm (before : left.isBefore right = true) : ¬ right.isBefore left = true := by
  intro after
  have again := isBefore_trans before after
  rw [isBefore_irrefl] at again
  cases again

/-- Of two different placed providers, one comes before the other. -/
theorem isBefore_total (different : left ≠ right) :
    left.isBefore right = true ∨ right.isBefore left = true := by
  rw [isBefore_iff, isBefore_iff]
  by_cases modules : left.1 = right.1
  · have keys : ¬ (left.2.key.1 = right.2.key.1 ∧ left.2.key.2 = right.2.key.2) :=
      fun ⟨kinds, numbers⟩ =>
        different (Prod.ext modules (Provider.key_injective (Prod.ext kinds numbers)))
    simp only [modules, true_and]
    omega
  · have numbers : left.1.index ≠ right.1.index :=
      fun same => modules (congrArg ModuleId.mk same)
    omega

/-- Sorted, and without repetitions, placed providers ascend. -/
theorem sorted_ascending (sightings : List PlacedProvider) :
    (sortBy (fun left right => !right.isBefore left) sightings).eraseReps.Pairwise
      (·.isBefore ·) := by
  refine eraseReps_ordered (fun _ _ => isBefore_asymm) ?_
  refine (pairwise_sortBy ?_ ?_ sightings).imp fun {left right} atMost => ?_
  · intro left right
    rw [Bool.not_eq_true', Bool.not_eq_true', ← Bool.not_eq_true, ← Bool.not_eq_true]
    by_cases before : right.isBefore left = true
    · exact .inr (isBefore_asymm before)
    · exact .inl before
  · intro left middle right first second
    rw [Bool.not_eq_true'] at first second ⊢
    rw [← Bool.not_eq_true] at first second ⊢
    intro before
    by_cases same : left = middle
    · exact second (same ▸ before)
    · exact second (isBefore_trans before ((isBefore_total same).resolve_right first))
  · rw [Bool.not_eq_true', ← Bool.not_eq_true] at atMost
    by_cases same : left = right
    · exact .inl same
    · exact .inr ((isBefore_total same).resolve_right atMost)

end PlacedProvider

namespace Model

/-- A provider of the model: one of its beans, or a socket of one of its modules. -/
def Offers (model : Model) : Provider → Prop
  | .bean id => id ∈ model.beanIds
  | .socket id => id ∈ model.socketIds ∧
      (model.socket id).owner = .module (model.socket id).module

instance (model : Model) : (provider : Provider) → Decidable (model.Offers provider)
  | .bean _ => inferInstanceAs (Decidable (_ ∈ _))
  | .socket _ => inferInstanceAs (Decidable (_ ∧ _))

theorem offers_bean {model : Model} {bean : BeanId} (known : bean ∈ model.beanIds) :
    model.Offers (.bean bean) := known

/-- Where a module that a scope relies on lies, seen from the scope. -/
inductive Kin (model : Model) (scope : ModuleId) : ModuleId → Prop
  | own : Kin model scope scope
  | above {owner : ModuleId} : owner ≠ scope → model.isWithin scope owner = true →
      Kin model scope owner
  | child {owner : ModuleId} : model.parent owner = some scope → Kin model scope owner
  | wired {owner : ModuleId} : owner ∈ (model.module scope).wiredModules →
      Kin model scope owner

/-- A provider that a scope may use: its own, or a public bean of kin. -/
structure InReach (model : Model) (scope : ModuleId) (provider : Provider) : Prop where
  offered : model.Offers provider
  kin : model.Kin scope (model.providerModule provider)
  isPublic : model.providerModule provider ≠ scope → model.isPublicBean provider = true

/-- A module above another one, or a sibling that it is wired to. -/
def Outside (model : Model) (scope owner : ModuleId) : Prop :=
  (owner ≠ scope ∧ model.isWithin scope owner = true) ∨
    owner ∈ (model.module scope).wiredModules

namespace WellFormed

variable {model : Model} (wellFormed : model.WellFormed)

include wellFormed

theorem providerModule_known {provider : Provider} (offered : model.Offers provider) :
    model.providerModule provider ∈ model.moduleIds := by
  cases provider with
  | bean id => exact wellFormed.bean_module id offered
  | socket id => exact (wellFormed.owner_module id offered.1 _ offered.2).1

/-- Kin outside the subtree of a scope. -/
theorem outside_of_kin {scope owner : ModuleId} (ownerKnown : owner ∈ model.moduleIds)
    (kin : model.Kin scope owner) (apart : model.isWithin owner scope = false) :
    model.Outside scope owner := by
  cases kin with
  | own => rw [isWithin_self] at apart; cases apart
  | above different within => exact .inl ⟨different, within⟩
  | child isChild =>
      rw [wellFormed.isWithin_parent ownerKnown isChild] at apart
      cases apart
  | wired listed => exact .inr listed

theorem mem_ownProviders {scope : ModuleId} (known : scope ∈ model.moduleIds)
    {provider : Provider} : provider ∈ model.ownProviders scope ↔
      model.Offers provider ∧ model.providerModule provider = scope := by
  cases provider with
  | bean id =>
      simp only [ownProviders, List.mem_append, List.mem_map, Provider.bean.injEq,
        exists_eq_right, reduceCtorEq, and_false, exists_false, or_false]
      exact wellFormed.beans scope known id
  | socket id =>
      simp only [ownProviders, List.mem_append, List.mem_map, Provider.socket.injEq,
        exists_eq_right, reduceCtorEq, and_false, exists_false, false_or]
      rw [wellFormed.moduleSockets scope known id]
      constructor
      · rintro ⟨listed, owned⟩
        have place := (wellFormed.owner_module id listed scope owned).2
        exact ⟨⟨listed, place.symm ▸ owned⟩, place⟩
      · rintro ⟨⟨listed, owned⟩, place⟩
        exact ⟨listed, (show (model.socket id).module = scope from place) ▸ owned⟩

theorem relatives_known {scope : ModuleId} (known : scope ∈ model.moduleIds) :
    ∀ id ∈ model.relatives scope, id ∈ model.moduleIds := by
  intro id related
  rw [relatives, List.mem_append, List.mem_append] at related
  rcases related with (above | child) | wired
  · exact wellFormed.isWithin_known known (mem_lineage.mp (List.mem_cons_of_mem _ above))
  · exact ((wellFormed.children scope known id).mp child).1
  · exact (wellFormed.wired scope known id wired).1

/-! ## What is visible -/

theorem mem_publicBeans {id : ModuleId} (known : id ∈ model.moduleIds) {provider : Provider} :
    provider ∈ model.publicBeans id ↔ model.Offers provider ∧
      model.providerModule provider = id ∧ model.isPublicBean provider = true := by
  rw [publicBeans, List.mem_filter, ← and_assoc]
  refine and_congr_left fun isPublic => ?_
  cases provider with
  | socket socket => cases isPublic
  | bean bean =>
      rw [List.mem_map]
      constructor
      · rintro ⟨_, listed, same⟩
        cases same
        exact (wellFormed.beans id known bean).mp listed
      · intro owned
        exact ⟨bean, (wellFormed.beans id known bean).mpr owned, rfl⟩

/-- A provider is seen in its own module: in the scope, or as a public bean of a relative. -/
theorem mem_sightings {scope : ModuleId} (known : scope ∈ model.moduleIds)
    {placed : PlacedProvider} : placed ∈ model.sightings scope ↔
      model.Offers placed.2 ∧ model.providerModule placed.2 = placed.1 ∧
        (placed.1 = scope ∨
          placed.1 ∈ model.relatives scope ∧ model.isPublicBean placed.2 = true) := by
  rcases placed with ⟨id, provider⟩
  simp only [sightings, List.mem_append, List.mem_map, List.mem_flatMap, Prod.mk.injEq]
  constructor
  · rintro (⟨own, listed, rfl, rfl⟩ | ⟨relative, related, other, listed, rfl, rfl⟩)
    · rcases (wellFormed.mem_ownProviders known).mp listed with ⟨offered, place⟩
      exact ⟨offered, place, .inl rfl⟩
    · rcases (wellFormed.mem_publicBeans (wellFormed.relatives_known known _ related)).mp listed
        with ⟨offered, place, isPublic⟩
      exact ⟨offered, place, .inr ⟨related, isPublic⟩⟩
  · rintro ⟨offered, place, rfl | ⟨related, isPublic⟩⟩
    · exact .inl ⟨provider, (wellFormed.mem_ownProviders known).mpr ⟨offered, place⟩, rfl, rfl⟩
    · exact .inr ⟨id, related, provider, (wellFormed.mem_publicBeans
        (wellFormed.relatives_known known _ related)).mpr ⟨offered, place, isPublic⟩, rfl, rfl⟩

theorem mem_visible {scope : ModuleId} (known : scope ∈ model.moduleIds) {provider : Provider} :
    provider ∈ model.visible scope ↔ model.Offers provider ∧
      (model.providerModule provider = scope ∨
        model.providerModule provider ∈ model.relatives scope ∧
          model.isPublicBean provider = true) := by
  simp only [visible, List.mem_map, mem_eraseReps, mem_sortBy]
  constructor
  · rintro ⟨placed, seen, rfl⟩
    rcases (wellFormed.mem_sightings known).mp seen with ⟨offered, place, visible⟩
    exact ⟨offered, place ▸ visible⟩
  · rintro ⟨offered, visible⟩
    exact ⟨(_, provider), (wellFormed.mem_sightings known).mpr ⟨offered, rfl, visible⟩, rfl⟩

/-- What is visible is what is in reach. -/
theorem visible_iff_inReach {scope : ModuleId} (known : scope ∈ model.moduleIds)
    {provider : Provider} : provider ∈ model.visible scope ↔ model.InReach scope provider := by
  rw [wellFormed.mem_visible known]
  constructor
  · rintro ⟨offered, own | ⟨related, isPublic⟩⟩
    · exact ⟨offered, own.symm ▸ .own, fun different => absurd own different⟩
    · refine ⟨offered, ?_, fun _ => isPublic⟩
      by_cases own : model.providerModule provider = scope
      · exact own.symm ▸ .own
      simp only [relatives, List.mem_append] at related
      rcases related with (above | child) | wired
      · exact .above own (mem_lineage.mp (List.mem_cons_of_mem _ above))
      · exact .child ((wellFormed.children scope known _).mp child).2
      · exact .wired wired
  · intro inReach
    refine ⟨inReach.offered, ?_⟩
    by_cases own : model.providerModule provider = scope
    · exact .inl own
    have ownerKnown := wellFormed.providerModule_known inReach.offered
    refine .inr ⟨?_, inReach.isPublic own⟩
    simp only [relatives, List.mem_append]
    cases inReach.kin with
    | own => exact absurd rfl own
    | above _ within =>
        exact .inl (.inl ((List.mem_cons.mp (mem_lineage.mpr within)).resolve_left own))
    | child isChild =>
        exact .inl (.inr ((wellFormed.children scope known _).mpr ⟨ownerKnown, isChild⟩))
    | wired listed => exact .inr listed

/-- A module that is not there sees nothing. -/
theorem visible_unknown {scope : ModuleId} (unknown : scope ∉ model.moduleIds) :
    model.visible scope = [] := by
  have absent : model.module scope = default := by
    rw [wellFormed.mem_moduleIds, Nat.not_lt] at unknown
    simp [Model.module, List.getD_eq_getElem?_getD, List.getElem?_eq_none unknown]
  simp only [visible, sightings, ownProviders, relatives, absent]
  rfl

end WellFormed

end Model

end StaticInjection
