import StaticInjection.Proofs.Scope.CandidateIndex

/-! # The index of a scope

The providers in reach of a scope are registered in the order of candidates. Where no two of them
share a type and a qualifier, the index holds exactly the providers in reach. -/

namespace StaticInjection

namespace CandidateIndex

variable {model : Model} {index : CandidateIndex}

/-! ## What is refused -/

/-- An index holds for each key the first provider with that key. -/
def HoldsFirst (model : Model) (index : CandidateIndex) (seen : List Provider) : Prop :=
  ∀ key, index.holders.lookup key = seen.find? fun provider => model.candidateKey provider == key

namespace HoldsFirst

variable {seen : List Provider} {provider : Provider}

theorem empty (model : Model) : HoldsFirst model empty [] :=
  fun _ => rfl

/-- A provider whose key was seen is refused for the first one that has it, and another one is
added; either way the index holds the first ones of all that was seen. -/
theorem register_cases (first : HoldsFirst model index seen) (provider : Provider) :
    (∃ existing, (seen.find? fun other => model.candidateKey other == model.candidateKey provider) =
        some existing ∧
      index.register model provider =
        .error { key := model.candidateKey provider, existing, duplicate := provider } ∧
      HoldsFirst model index (seen ++ [provider])) ∨
    ((∀ other ∈ seen, model.candidateKey other ≠ model.candidateKey provider) ∧
      index.register model provider = .ok (index.add model provider) ∧
      HoldsFirst model (index.add model provider) (seen ++ [provider])) := by
  have held := first (model.candidateKey provider)
  cases found : index.holders.lookup (model.candidateKey provider) with
  | some existing =>
      refine .inl ⟨existing, held ▸ found, by simp only [register, found], fun key => ?_⟩
      rw [List.find?_append, first key]
      by_cases same : model.candidateKey provider = key
      · rw [← same, ← held, found]
        rfl
      · simp [same]
  | none =>
      have free := List.find?_eq_none.mp (held ▸ found)
      refine .inr ⟨fun other member => by simpa using free other member,
        by simp only [register, found], fun key => ?_⟩
      rw [List.find?_append, ← first key]
      change List.lookup key ((_, _) :: index.holders) = _
      rw [List.lookup_cons]
      by_cases same : model.candidateKey provider = key
      · simp [← same, found]
      · simp [same, beq_eq_false_iff_ne.mpr (Ne.symm same)]

end HoldsFirst

/-- Nothing is refused exactly when no key comes twice. -/
theorem registerAll_eq_nil_iff {seen providers : List Provider}
    (first : HoldsFirst model index seen) : (index.registerAll model providers).2 = [] ↔
      (providers.map model.candidateKey).Nodup ∧ ∀ provider ∈ providers,
        ∀ held ∈ seen, model.candidateKey held ≠ model.candidateKey provider := by
  induction providers generalizing index seen with
  | nil => simp [registerAll]
  | cons provider rest induction =>
      rcases first.register_cases provider with ⟨held, found, refused, _⟩ | ⟨free, registered, next⟩
      · simp only [registerAll_of_error refused, List.cons_ne_nil, false_iff, not_and]
        intro _ apart
        exact apart provider List.mem_cons_self held (List.mem_of_find?_eq_some found)
          (by simpa using List.find?_some found)
      · rw [registerAll_of_ok registered, induction next, List.map_cons, List.nodup_cons]
        constructor
        · rintro ⟨nodup, apart⟩
          refine ⟨⟨fun again => ?_, nodup⟩, fun other listed held inside => ?_⟩
          · rcases List.mem_map.mp again with ⟨other, later, same⟩
            exact apart other later provider (by simp) same.symm
          · rcases List.mem_cons.mp listed with equal | later
            · exact equal ▸ free held inside
            · exact apart other later held (List.mem_append_left _ inside)
        · rintro ⟨⟨fresh, nodup⟩, apart⟩
          refine ⟨nodup, fun other later held inside same => ?_⟩
          rcases List.mem_append.mp inside with known | only
          · exact apart other (List.mem_cons_of_mem _ later) held known same
          · cases List.mem_singleton.mp only
            exact fresh (List.mem_map.mpr ⟨other, later, same.symm⟩)

/-- Whether a provider follows one of some providers that has its key. -/
def isRepeated (model : Model) (providers : List Provider) (provider : Provider) : Bool :=
  providers.any fun other =>
    model.precedes other provider && model.candidateKey other == model.candidateKey provider

/-- A refusal names a provider, and the first provider that has its key. -/
structure IsRefusal (model : Model) (providers : List Provider) (refused : DuplicateProvider) :
    Prop where
  key : refused.key = model.candidateKey refused.duplicate
  existing_mem : refused.existing ∈ providers
  existing_key : model.candidateKey refused.existing = refused.key
  existing_first : ∀ other ∈ providers, model.candidateKey other = refused.key →
    other = refused.existing ∨ model.precedes refused.existing other = true

section Ascending

variable {seen later : List Provider} {provider : Provider}
  (ascending : (seen ++ provider :: later).Pairwise (model.precedes · ·))

include ascending

/-- Of providers in order, those that precede one stand before it. -/
theorem isRepeated_iff : isRepeated model (seen ++ provider :: later) provider = true ↔
    ∃ other ∈ seen, model.candidateKey other = model.candidateKey provider := by
  rcases List.pairwise_append.mp ascending with ⟨_, rest, across⟩
  simp only [isRepeated, List.any_eq_true, Bool.and_eq_true, beq_iff_eq]
  constructor
  · rintro ⟨other, member, before, same⟩
    rcases List.mem_append.mp member with early | member
    · exact ⟨other, early, same⟩
    · rcases List.mem_cons.mp member with rfl | late
      · exact absurd rfl (Model.ne_of_precedes before)
      · have after := (List.pairwise_cons.mp rest).1 other late
        exact absurd before (Model.precedes_asymm after)
  · rintro ⟨other, early, same⟩
    have before := across other early provider List.mem_cons_self
    exact ⟨other, List.mem_append_left _ early, before, same⟩

theorem isRefusal_of_find? {existing : Provider}
    (found : (seen.find? fun other => model.candidateKey other == model.candidateKey provider) =
      some existing) :
    IsRefusal model (seen ++ provider :: later)
      { key := model.candidateKey provider, existing, duplicate := provider } := by
  rcases List.find?_eq_some_iff_append.mp found with ⟨same, before, after, rfl, others⟩
  rw [beq_iff_eq] at same
  refine ⟨rfl, by simp, same, fun other member key => ?_⟩
  rw [List.append_assoc, List.cons_append] at member ascending
  rcases List.mem_append.mp member with early | member
  · have apart := others other early
    simp [show model.candidateKey other = model.candidateKey provider from key] at apart
  · rcases List.mem_cons.mp member with rfl | late
    · exact .inl rfl
    · exact .inr ((List.pairwise_cons.mp (List.pairwise_append.mp ascending).2.1).1 other late)

end Ascending

/-- Of providers in order, those are refused that follow one with their key. -/
theorem refused_of_ascending {seen rest : List Provider}
    (ascending : (seen ++ rest).Pairwise (model.precedes · ·))
    (first : HoldsFirst model index seen) :
    (index.registerAll model rest).2.map (·.duplicate) =
        rest.filter (isRepeated model (seen ++ rest)) ∧
      ∀ refused ∈ (index.registerAll model rest).2, IsRefusal model (seen ++ rest) refused := by
  induction rest generalizing index seen with
  | nil => simp [registerAll]
  | cons provider later induction =>
      have again : seen ++ provider :: later = seen ++ [provider] ++ later := by simp
      have follows := isRepeated_iff ascending
      rcases first.register_cases provider with ⟨existing, found, refused, next⟩ |
        ⟨free, registered, next⟩
      · have repeated : ∃ other ∈ seen, model.candidateKey other = model.candidateKey provider :=
          ⟨existing, List.mem_of_find?_eq_some found, by simpa using List.find?_some found⟩
        rcases induction (again ▸ ascending) next with ⟨duplicates, refusals⟩
        rw [← again] at duplicates refusals
        rw [registerAll_of_error refused, List.map_cons,
          List.filter_cons_of_pos (follows.mpr repeated), duplicates]
        exact ⟨rfl, List.forall_mem_cons.mpr ⟨isRefusal_of_find? ascending found, refusals⟩⟩
      · have single : ¬ ∃ other ∈ seen, model.candidateKey other = model.candidateKey provider := by
          rintro ⟨other, member, same⟩
          exact free other member same
        rcases induction (again ▸ ascending) next with ⟨duplicates, refusals⟩
        rw [← again] at duplicates refusals
        rw [registerAll_of_ok registered, List.filter_cons_of_neg (mt follows.mp single)]
        exact ⟨duplicates, refusals⟩

end CandidateIndex

namespace Model

variable {model : Model}

/-! ## Duplicates of a scope -/

theorem flatMap_of_single {items : List α} {place : α → β} [DecidableEq β] {only : β}
    {answers : List γ} (nodup : (items.map place).Nodup) (member : only ∈ items.map place) :
    (items.flatMap fun item => if place item = only then answers else []) = answers := by
  induction items with
  | nil => cases member
  | cons head rest induction =>
      rcases List.nodup_cons.mp nodup with ⟨fresh, restNodup⟩
      rw [List.flatMap_cons]
      by_cases here : place head = only
      · have absent : ∀ item ∈ rest, (if place item = only then answers else []) = [] := by
          intro item listed
          refine if_neg fun same => fresh ?_
          rw [here, ← same]
          exact List.mem_map_of_mem listed
        rw [if_pos here, List.flatMap_eq_nil_iff.mpr absent, List.append_nil]
      · rw [if_neg here, List.nil_append]
        exact induction restNodup ((List.mem_cons.mp member).resolve_left (Ne.symm here))

theorem filter_duplicates (model : Model) (scope : ModuleId) :
    model.duplicates.filter (·.scope == some scope) =
      model.modules.flatMap fun module =>
        if module.id = scope then model.duplicateReports scope else [] := by
  rw [duplicates, List.filter_flatMap]
  refine List.flatMap_congr fun module _ => ?_
  rw [duplicateReports, List.filter_map]
  split
  · rename_i same
    subst same
    rw [List.filter_eq_self.mpr fun refused _ => by simp [duplicateDiagnostic]]
    rfl
  · rename_i different
    rw [List.filter_eq_nil_iff.mpr fun refused _ => by simp [duplicateDiagnostic, different]]
    rfl

theorem mem_visible_iff (model : Model) {scope : ModuleId} {provider : Provider} :
    provider ∈ model.visible scope ↔ provider ∈ model.ownProviders scope ∨
      ∃ id, (id ∈ (model.module scope).ancestors ∨ id ∈ (model.module scope).children ∨
          id ∈ (model.module scope).wiredModules) ∧
        ∃ bean ∈ (model.module id).beans,
          (model.bean bean).visibility = .isPublic ∧ provider = .bean bean := by
  have isPublic : ∀ {id}, provider ∈ model.publicBeans id ↔ ∃ bean ∈ (model.module id).beans,
      (model.bean bean).visibility = .isPublic ∧ provider = .bean bean := by
    intro id
    rw [publicBeans, List.mem_filter, List.mem_map]
    constructor
    · rintro ⟨⟨bean, listed, rfl⟩, isPublic⟩
      exact ⟨bean, listed, by simpa [isPublicBean, Bean.isPublic] using isPublic, rfl⟩
    · rintro ⟨bean, listed, isPublic, rfl⟩
      exact ⟨⟨bean, listed, rfl⟩, by simp [isPublicBean, Bean.isPublic, isPublic]⟩
  simp only [visible, List.mem_map, mem_eraseReps, mem_sortBy, sightings, List.mem_append,
    List.mem_flatMap, relatives, ← isPublic, or_assoc]
  constructor
  · rintro ⟨_, ⟨own, listed, rfl⟩ | ⟨id, related, found, listed, rfl⟩, rfl⟩
    · exact .inl listed
    · exact .inr ⟨id, related, listed⟩
  · rintro (listed | ⟨id, related, listed⟩)
    · exact ⟨_, .inl ⟨provider, listed, rfl⟩, rfl⟩
    · exact ⟨_, .inr ⟨id, related, provider, listed, rfl⟩, rfl⟩

/-! ## Keys that are apart -/

theorem duplicateReports_eq_nil_iff {scope : ModuleId} : model.duplicateReports scope = [] ↔
    ((model.visible scope).map model.candidateKey).Nodup := by
  rw [duplicateReports, List.map_eq_nil_iff, scopeEntries,
    CandidateIndex.registerAll_eq_nil_iff (CandidateIndex.HoldsFirst.empty model)]
  exact and_iff_left fun _ _ _ inside => absurd inside List.not_mem_nil

theorem accepted_index (scope : ModuleId) : (model.index scope).accepted =
    (CandidateIndex.successes model .empty (model.visible scope)).reverse :=
  (CandidateIndex.accepted_registerAll _ _).trans (List.append_nil _)

theorem visible_of_mem_index {scope : ModuleId} {provider : Provider}
    (member : provider ∈ (model.index scope).accepted) : provider ∈ model.visible scope := by
  rw [accepted_index, List.mem_reverse] at member
  exact (CandidateIndex.successes_sublist _ _).subset member

/-- Where no key comes twice, the index of a scope holds what is visible. -/
theorem accepted_perm {scope : ModuleId}
    (distinct : ((model.visible scope).map model.candidateKey).Nodup) :
    (model.index scope).accepted.Perm (model.visible scope) := by
  have silent := List.map_eq_nil_iff.mp (duplicateReports_eq_nil_iff.mpr distinct)
  rw [accepted_index, CandidateIndex.successes_eq_of_silent silent]
  exact List.reverse_perm _

namespace WellFormed

variable (wellFormed : model.WellFormed)

include wellFormed

theorem index_consistent (scope : ModuleId) : (model.index scope).Consistent model :=
  CandidateIndex.registerAll_consistent wellFormed.providedTypes_nodup
    (CandidateIndex.empty_consistent model) _

/-- Where nothing is refused, the index holds what is in reach. -/
theorem mem_index {scope : ModuleId} (known : scope ∈ model.moduleIds)
    (silent : model.duplicateReports scope = []) {provider : Provider} :
    provider ∈ (model.index scope).accepted ↔ model.InReach scope provider := by
  rw [(accepted_perm (duplicateReports_eq_nil_iff.mp silent)).mem_iff]
  exact wellFormed.visible_iff_inReach known

/-- What is visible is in the order of candidates. -/
theorem visible_ascending {scope : ModuleId} (known : scope ∈ model.moduleIds) :
    (model.visible scope).Pairwise (model.precedes · ·) := by
  refine List.pairwise_map.mpr ((PlacedProvider.sorted_ascending _).imp_of_mem ?_)
  intro left right leftListed rightListed before
  have leftSeen := mem_sortBy.mp (mem_eraseReps.mp leftListed)
  have rightSeen := mem_sortBy.mp (mem_eraseReps.mp rightListed)
  rw [precedes, ((wellFormed.mem_sightings known).mp leftSeen).2.1,
    ((wellFormed.mem_sightings known).mp rightSeen).2.1]
  exact before

/-- What is reported about a scope comes from its own index. -/
theorem duplicates_of_scope {scope : ModuleId} (known : scope ∈ model.moduleIds) :
    model.duplicates.filter (·.scope == some scope) = model.duplicateReports scope := by
  rw [filter_duplicates]
  exact flatMap_of_single wellFormed.moduleIds_nodup known

/-- The providers that a scope refuses are those that follow one with their key. -/
theorem scopeEntries_refused {scope : ModuleId} (known : scope ∈ model.moduleIds) :
    (model.scopeEntries scope).2.map (·.duplicate) =
        (model.visible scope).filter (CandidateIndex.isRepeated model (model.visible scope)) ∧
      ∀ refused ∈ (model.scopeEntries scope).2,
        CandidateIndex.IsRefusal model (model.visible scope) refused := by
  have ascending : ([] ++ model.visible scope).Pairwise (model.precedes · ·) :=
    wellFormed.visible_ascending known
  exact CandidateIndex.refused_of_ascending ascending (CandidateIndex.HoldsFirst.empty model)

theorem visible_nodup {scope : ModuleId} (known : scope ∈ model.moduleIds) :
    (model.visible scope).Nodup :=
  (wellFormed.visible_ascending known).imp ne_of_precedes

end WellFormed

end Model

/-- A module sees its own providers and the public beans of its ancestors, its children and the
siblings that it is wired to, each once and in order. A diagnostic about its scope stands for each
of them that follows one with its type and qualifier, and names the first such one. So keys are
apart when there is none, and then all of them are candidates. -/
theorem visible_registered (declarations : List ModuleDeclaration) (scope : ModuleId)
    (known : scope ∈ (Model.ofDeclarations declarations).moduleIds) :
    let model := Model.ofDeclarations declarations
    let visible := model.visible scope
    let diagnostics := model.duplicates.filter (·.scope == some scope)
    visible.Pairwise (model.precedes · ·) ∧
    (∀ provider, provider ∈ visible ↔ provider ∈ model.ownProviders scope ∨
      ∃ id, (id ∈ (model.module scope).ancestors ∨ id ∈ (model.module scope).children ∨
          id ∈ (model.module scope).wiredModules) ∧
        ∃ bean ∈ (model.module id).beans,
          (model.bean bean).visibility = .isPublic ∧ provider = .bean bean) ∧
    (∃ refusals : List DuplicateProvider,
      diagnostics = refusals.map (model.duplicateDiagnostic scope) ∧
      refusals.map (·.duplicate) = visible.filter (CandidateIndex.isRepeated model visible) ∧
      ∀ refused ∈ refusals, CandidateIndex.IsRefusal model visible refused) ∧
    (diagnostics = [] ↔ (visible.map model.candidateKey).Nodup) ∧
    (diagnostics = [] → (model.index scope).size = visible.length) := by
  intro model visible diagnostics
  have wellFormed : model.WellFormed := Model.ofDeclarations_wellFormed declarations
  have reports : diagnostics = model.duplicateReports scope := wellFormed.duplicates_of_scope known
  refine ⟨wellFormed.visible_ascending known, fun provider => model.mem_visible_iff,
    ⟨_, reports, wellFormed.scopeEntries_refused known⟩, ?_, ?_⟩
  · rw [reports]
    exact Model.duplicateReports_eq_nil_iff
  · intro silent
    have distinct := Model.duplicateReports_eq_nil_iff.mp (reports.symm.trans silent)
    rw [CandidateIndex.size_eq, (Model.accepted_perm distinct).length_eq]

/-- A desk inside a shop sees the clock of the shop, and has one of the same type. -/
def sampleDesk : List ModuleDeclaration :=
  let clock : BeanDeclaration :=
    { name := "clock", declaredType := .ofText "Clock", visibility := .isPublic }
  [{ name := "shop"
     beans := [clock, { name := "safe", declaredType := .ofText "Safe" }]
     modules := [{ name := "desk", beans := [clock] }] }]

set_option maxRecDepth 100000 in
/-- So its own clock is refused, and the safe is not seen. -/
theorem sampleDesk_registered :
    let model := Model.ofDeclarations sampleDesk
    ⟨1⟩ ∈ model.moduleIds ∧ model.visible ⟨1⟩ = [.bean ⟨0⟩, .bean ⟨2⟩] ∧
      (model.scopeEntries ⟨1⟩).2.map (fun refused => (refused.existing, refused.duplicate)) =
        [(.bean ⟨0⟩, .bean ⟨2⟩)] ∧
      ¬ ((model.visible ⟨1⟩).map model.candidateKey).Nodup := by
  intro model
  have known : ⟨1⟩ ∈ model.moduleIds := by decide +kernel
  have reported : model.duplicates.filter (·.scope == some ⟨1⟩) ≠ [] := by decide +kernel
  exact ⟨known, by decide +kernel, by decide +kernel,
    mt (visible_registered sampleDesk ⟨1⟩ known).2.2.2.1.mpr reported⟩

end StaticInjection
