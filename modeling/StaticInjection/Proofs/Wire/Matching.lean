import StaticInjection.Proofs.Model.Matching
import StaticInjection.Proofs.Wire.Selection

/-! # Wires of matching models

Counterparts of what a scope has in reach are in reach of its counterpart. Where keys are
apart, no candidate is lost, and what is chosen does not depend on the order of
candidates: so a socket is wired to the counterparts of the targets of its own. -/

namespace StaticInjection.Relabelling

/-- The wire of a counterpart: its targets are the counterparts of the targets, perhaps
in another order. -/
structure WireMatches (labels : Relabelling) (wire other : Wire) : Prop where
  socket : other.socket = labels.socket wire.socket
  targets : other.targets.Perm (wire.targets.map labels.provider)
  isLazy : other.isLazy = wire.isLazy

namespace Matches

open Model

variable {labels : Relabelling} {left right : Model} (matched : labels.Matches left right)
  (leftFormed : left.WellFormed) (rightFormed : right.WellFormed)

include matched leftFormed rightFormed

/-! ## Providers in reach -/

theorem mem_relatives_label {scope : ModuleId} (known : scope ∈ left.moduleIds) {id : ModuleId}
    (idKnown : id ∈ left.moduleIds) :
    labels.module id ∈ right.relatives (labels.module scope) ↔ id ∈ left.relatives scope := by
  have relatives : (right.relatives (labels.module scope)).Perm
      ((left.relatives scope).map labels.module) := by
    rw [Model.relatives, Model.relatives, matched.ancestors_label known, List.map_append,
      List.map_append]
    exact ((List.Perm.refl _).append (matched.children_label known)).append
      (matched.wiredModules_label known)
  rw [relatives.mem_iff, ← List.contains_iff_mem, ← List.contains_iff_mem,
    matched.contains_label rightFormed (leftFormed.relatives_known known) idKnown]

/-- A provider is visible when its counterpart is. -/
theorem mem_visible_label {scope : ModuleId} (known : scope ∈ left.moduleIds) {provider : Provider}
    (offered : left.Offers provider) :
    labels.provider provider ∈ right.visible (labels.module scope) ↔
      provider ∈ left.visible scope := by
  have moduleKnown := leftFormed.providerModule_known offered
  have own : labels.module (left.providerModule provider) = labels.module scope ↔
      left.providerModule provider = scope :=
    ⟨matched.module_injective rightFormed moduleKnown known, congrArg _⟩
  rw [leftFormed.mem_visible known, rightFormed.mem_visible (matched.module_known known),
    matched.providerModule_label offered, matched.isPublicBean_label offered, own,
    matched.mem_relatives_label leftFormed rightFormed known moduleKnown]
  exact and_congr_left fun _ => iff_of_true (matched.offers_label offered) offered

theorem visible_label {scope : ModuleId} (known : scope ∈ left.moduleIds) :
    (right.visible (labels.module scope)).Perm ((left.visible scope).map labels.provider) := by
  have otherKnown := matched.module_known known
  have offered : ∀ provider ∈ left.visible scope, left.Offers provider := fun provider seen =>
    ((leftFormed.mem_visible known).mp seen).1
  have mapped := (leftFormed.visible_nodup known).map_on fun first firstSeen second secondSeen =>
    matched.provider_injective rightFormed (offered first firstSeen) (offered second secondSeen)
  refine (List.perm_ext_iff_of_nodup (rightFormed.visible_nodup otherKnown) mapped).mpr
    fun other => ?_
  rw [List.mem_map]
  constructor
  · intro seen
    rcases matched.exists_provider leftFormed ((rightFormed.mem_visible otherKnown).mp seen).1 with
      ⟨provider, listed, rfl⟩
    exact ⟨provider, (matched.mem_visible_label leftFormed rightFormed known listed).mp seen, rfl⟩
  · rintro ⟨provider, seen, rfl⟩
    exact (matched.mem_visible_label leftFormed rightFormed known (offered provider seen)).mpr seen

theorem candidateKeys_label {scope : ModuleId} (known : scope ∈ left.moduleIds) :
    ((right.visible (labels.module scope)).map right.candidateKey).Perm
      ((left.visible scope).map left.candidateKey) :=
  map_perm (matched.visible_label leftFormed rightFormed known) fun _ seen =>
    matched.candidateKey_label ((leftFormed.mem_visible known).mp seen).1

/-! ## Candidates -/

omit leftFormed rightFormed in
theorem excludedFor_label {id : SocketId} (known : id ∈ left.socketIds) :
    right.excludedFor (labels.socket id) = (left.excludedFor id).map labels.module := by
  rw [excludedFor, excludedFor, matched.owner_label known]
  cases (left.socket id).owner <;> rfl

theorem isOutside_label {id : SocketId} (known : id ∈ left.socketIds) {provider : Provider}
    (offered : left.Offers provider) :
    right.isOutside (right.excludedFor (labels.socket id)) (labels.provider provider) =
      left.isOutside (left.excludedFor id) provider := by
  rw [matched.excludedFor_label known, excludedFor]
  cases owned : (left.socket id).owner with
  | bean bean => rfl
  | module root =>
      have rootKnown := (leftFormed.owner_module id known root owned).1
      simp only [Option.map_some, isOutside, matched.providerModule_label offered,
        matched.isWithin_label leftFormed rightFormed (leftFormed.providerModule_known offered)
          rootKnown]

/-- A provider is kept for a socket when its counterpart is kept for the counterpart. -/
theorem keeps_label {id : SocketId} (known : id ∈ left.socketIds) {provider : Provider}
    (offered : left.Offers provider) :
    ((match (right.socket (labels.socket id)).owner with
        | .bean bean => labels.provider provider != .bean bean
        | .module _ => true) &&
      right.isOutside (right.excludedFor (labels.socket id)) (labels.provider provider) &&
      (right.socket (labels.socket id)).multiplicity.accepts
        (right.providerCardinality (labels.provider provider))) =
    ((match (left.socket id).owner with
        | .bean bean => provider != .bean bean
        | .module _ => true) &&
      left.isOutside (left.excludedFor id) provider &&
      (left.socket id).multiplicity.accepts (left.providerCardinality provider)) := by
  have multiplicity : (right.socket (labels.socket id)).multiplicity =
      (left.socket id).multiplicity := matched.read_socket known (·.multiplicity) fun _ => rfl
  rw [matched.isOutside_label leftFormed rightFormed known offered, multiplicity,
    matched.providerCardinality_label offered, matched.owner_label known]
  congr 2
  cases owned : (left.socket id).owner with
  | module root => rfl
  | bean bean =>
      have beanKnown := (leftFormed.owner_bean id known bean owned).1
      simp only [owner, bne, Bool.not_eq_eq_eq_not, Bool.not_not]
      rw [Bool.eq_iff_iff, beq_iff_eq, beq_iff_eq]
      exact ⟨fun same => matched.provider_injective rightFormed offered (offers_bean beanKnown) same,
        fun same => congrArg labels.provider same⟩

/-- Where keys are apart none is lost, so it does not matter which comes first. -/
theorem accepted_label {scope : ModuleId} (known : scope ∈ left.moduleIds)
    (distinct : ((left.visible scope).map left.candidateKey).Nodup) :
    (right.index (labels.module scope)).accepted.Perm
      ((left.index scope).accepted.map labels.provider) := by
  have rightDistinct :=
    (matched.candidateKeys_label leftFormed rightFormed known).nodup_iff.mpr distinct
  exact (accepted_perm rightDistinct).trans
    ((matched.visible_label leftFormed rightFormed known).trans
      ((accepted_perm distinct).map _).symm)

theorem lookup_label {scope : ModuleId} (known : scope ∈ left.moduleIds)
    (distinct : ((left.visible scope).map left.candidateKey).Nodup) (type : TypeName)
    (filter : Option Qualifier) :
    ((right.index (labels.module scope)).lookup right type filter).Perm
      (((left.index scope).lookup left type filter).map labels.provider) := by
  have leftIndex := leftFormed.index_consistent scope
  have rightIndex := rightFormed.index_consistent (labels.module scope)
  have accepted := matched.accepted_label leftFormed rightFormed known distinct
  have offered : ∀ provider ∈ (left.index scope).accepted, left.Offers provider :=
    fun provider listed => ((leftFormed.mem_visible known).mp (visible_of_mem_index listed)).1
  have mapped := (leftIndex.lookup_nodup type filter).map_on
    fun first firstFound second secondFound => matched.provider_injective rightFormed
      (offered first (leftIndex.mem_lookup.mp firstFound).1)
      (offered second (leftIndex.mem_lookup.mp secondFound).1)
  refine (List.perm_ext_iff_of_nodup (rightIndex.lookup_nodup type filter) mapped).mpr
    fun other => ?_
  rw [rightIndex.mem_lookup, accepted.mem_iff, List.mem_map, List.mem_map]
  constructor
  · rintro ⟨⟨provider, listed, rfl⟩, fits⟩
    rw [matched.providedTypes_label (offered provider listed),
      matched.providerQualifier_label (offered provider listed)] at fits
    exact ⟨provider, leftIndex.mem_lookup.mpr ⟨listed, fits⟩, rfl⟩
  · rintro ⟨provider, found, rfl⟩
    rcases leftIndex.mem_lookup.mp found with ⟨listed, fits⟩
    rw [matched.providedTypes_label (offered provider listed),
      matched.providerQualifier_label (offered provider listed)]
    exact ⟨⟨provider, listed, rfl⟩, fits⟩

theorem candidates_label {scope : ModuleId} (known : scope ∈ left.moduleIds)
    (distinct : ((left.visible scope).map left.candidateKey).Nodup) {id : SocketId}
    (inside : id ∈ left.socketIds) :
    (right.candidates (right.index (labels.module scope)) (right.excludedFor (labels.socket id))
        (right.socket (labels.socket id))).Perm
      ((left.candidates (left.index scope) (left.excludedFor id) (left.socket id)).map
        labels.provider) := by
  have type : (right.socket (labels.socket id)).requiredType = (left.socket id).requiredType :=
    matched.read_socket inside (·.requiredType) fun _ => rfl
  have qualifier : (right.socket (labels.socket id)).qualifier = (left.socket id).qualifier :=
    matched.read_socket inside (·.qualifier) fun _ => rfl
  rw [candidates, candidates, type, qualifier]
  refine filter_perm (matched.lookup_label leftFormed rightFormed known distinct _ _)
    fun provider found => matched.keeps_label leftFormed rightFormed inside ?_
  have accepted := ((leftFormed.index_consistent scope).mem_lookup.mp found).1
  exact ((leftFormed.mem_visible known).mp (visible_of_mem_index accepted)).1

/-! ## Choosing targets -/

section Choice

variable {allowed others : List Provider} (perm : others.Perm (allowed.map labels.provider))
  (offered : ∀ provider ∈ allowed, left.Offers provider)

include perm offered

omit rightFormed in
theorem restrict_label {names : List String} {kept : List Provider}
    (restricted : left.restrict names allowed = .ok kept) :
    ∃ counterparts, right.restrict names others = .ok counterparts ∧
      counterparts.Perm (kept.map labels.provider) := by
  have isNamed : ∀ name, ∀ provider ∈ allowed,
      right.isNamed name (labels.provider provider) = left.isNamed name provider := by
    intro name provider listed
    rw [Model.isNamed, Model.isNamed, matched.providerName_label (offered provider listed),
      matched.qualifiedName_label leftFormed (offered provider listed)]
  have any : ∀ name, others.any (right.isNamed name) = allowed.any (left.isNamed name) := by
    intro name
    rw [perm.any_eq, List.any_map, Bool.eq_iff_iff, List.any_eq_true, List.any_eq_true]
    exact exists_congr fun provider => and_congr_right fun listed => by
      rw [Function.comp_apply, isNamed name provider listed]
  unfold restrict at restricted ⊢
  split at restricted
  · rename_i free
    injection restricted with same
    exact ⟨others, if_pos free, same ▸ perm⟩
  · rename_i nonempty
    simp only [any, if_neg nonempty]
    split at restricted
    · cases restricted
    · rename_i found
      injection restricted with same
      subst same
      refine ⟨_, rfl, filter_perm perm fun provider listed => ?_⟩
      rw [Bool.eq_iff_iff, List.any_eq_true, List.any_eq_true]
      exact exists_congr fun name => and_congr_right fun _ => by
        rw [isNamed name provider listed]

omit leftFormed rightFormed in
theorem selectOne_label {chosen : Option Provider} (selected : left.selectOne allowed = .ok chosen) :
    right.selectOne others = .ok (chosen.map labels.provider) := by
  match allowed, selected with
  | [], selected =>
      cases selected
      rw [List.map_nil, List.perm_nil] at perm
      rw [perm]
      rfl
  | [only], selected =>
      cases selected
      rw [List.map_singleton, List.perm_singleton] at perm
      rw [perm]
      rfl
  | first :: second :: rest, selected =>
      have several : 2 ≤ others.length := by
        rw [perm.length_eq, List.length_map, List.length_cons, List.length_cons]
        omega
      have defaults : (others.filter right.providerIsDefault).Perm
          (((first :: second :: rest).filter left.providerIsDefault).map labels.provider) :=
        filter_perm perm fun provider listed =>
          matched.providerIsDefault_label (offered provider listed)
      simp only [selectOne] at selected
      split at selected
      · rename_i only found
        cases selected
        rw [found, List.map_singleton, List.perm_singleton] at defaults
        exact selectOne_default several defaults
      · cases selected

omit leftFormed rightFormed in
theorem select_label {multiplicity : Multiplicity} {targets : List Provider}
    (selected : left.select multiplicity allowed = .ok targets) :
    ∃ counterparts, right.select multiplicity others = .ok counterparts ∧
      counterparts.Perm (targets.map labels.provider) := by
  cases multiplicity with
  | collection =>
      cases selected
      exact ⟨others, rfl, perm⟩
  | optional =>
      cases found : left.selectOne allowed with
      | error failure => simp [select, found, Except.map] at selected
      | ok chosen =>
          simp only [select, found, Except.map, Except.ok.injEq] at selected
          subst selected
          refine ⟨_, by simp only [select, matched.selectOne_label perm offered found, Except.map]; rfl,
            .of_eq ?_⟩
          cases chosen <;> rfl
  | single =>
      cases found : left.selectOne allowed with
      | error failure => simp [select, found] at selected
      | ok chosen =>
          cases chosen with
          | none => simp [select, found] at selected
          | some only =>
              simp only [select, found, Except.ok.injEq] at selected
              subst selected
              refine ⟨_, by simp only [select, matched.selectOne_label perm offered found]; rfl, .refl _⟩

end Choice

/-! ## Wires -/

theorem resolve_label {scope : ModuleId} (known : scope ∈ left.moduleIds)
    (distinct : ((left.visible scope).map left.candidateKey).Nodup) {id : SocketId}
    (inside : id ∈ left.socketIds) {wire : Wire}
    (resolved : left.resolve (left.index scope) (left.excludedFor id) id = .ok wire) :
    ∃ other, right.resolve (right.index (labels.module scope)) (right.excludedFor (labels.socket id))
        (labels.socket id) = .ok other ∧ labels.WireMatches wire other := by
  have candidates := matched.candidates_label leftFormed rightFormed known distinct inside
  have offered : ∀ provider ∈ left.candidates (left.index scope) (left.excludedFor id)
      (left.socket id), left.Offers provider := fun provider listed =>
    (leftFormed.suits_of_mem_candidates known listed).offered
  have named : (right.socket (labels.socket id)).wiredTo = (left.socket id).wiredTo :=
    matched.read_socket inside (·.wiredTo) fun _ => rfl
  have multiplicity : (right.socket (labels.socket id)).multiplicity =
      (left.socket id).multiplicity := matched.read_socket inside (·.multiplicity) fun _ => rfl
  have isLazy : (right.socket (labels.socket id)).isLazy = (left.socket id).isLazy :=
    matched.read_socket inside (·.isLazy) fun _ => rfl
  simp only [resolve, named, multiplicity, isLazy] at resolved ⊢
  cases restricted : left.restrict (left.socket id).wiredTo
      (left.candidates (left.index scope) (left.excludedFor id) (left.socket id)) with
  | error failure => simp [restricted, bind, Except.bind] at resolved
  | ok kept =>
      obtain ⟨keptOthers, rightRestricted, keptPerm⟩ :=
        matched.restrict_label leftFormed candidates offered restricted
      have keptOffered : ∀ provider ∈ kept, left.Offers provider :=
        fun provider listed => offered provider (restrict_ok restricted provider listed)
      cases selected : left.select (left.socket id).multiplicity kept with
      | error failure => simp [restricted, selected, bind, Except.bind] at resolved
      | ok targets =>
          obtain ⟨targetOthers, rightSelected, targetsPerm⟩ :=
            matched.select_label keptPerm keptOffered selected
          simp only [restricted, selected, bind, Except.bind, pure, Except.pure,
            Except.ok.injEq] at resolved
          subst resolved
          refine ⟨⟨labels.socket id, targetOthers, (left.socket id).isLazy⟩, ?_, rfl, targetsPerm, rfl⟩
          simp [rightRestricted, rightSelected, bind, Except.bind, pure, Except.pure]

end Matches

end StaticInjection.Relabelling
