import StaticInjection.Proofs.Order.Bisection
import StaticInjection.Proofs.Scope.Visibility
import StaticInjection.Scope.CandidateIndex

/-! # The index of candidates

An index holds each key once, and its lists for the types stand in the order of candidates: halving
finds the place of a candidate because its list is in order, and a provider whose key is held
changes nothing. So what an index answers depends on the accepted providers alone. -/

namespace StaticInjection

namespace Model

variable {model : Model}

/-! ## The order of candidates -/

theorem precedes_trans {first second third : Provider}
    (before : model.precedes first second = true) (after : model.precedes second third = true) :
    model.precedes first third = true :=
  PlacedProvider.isBefore_trans before after

theorem precedes_asymm {left right : Provider} (before : model.precedes left right = true) :
    ¬ model.precedes right left = true :=
  PlacedProvider.isBefore_asymm before

/-- Of two different providers, one precedes the other. -/
theorem precedes_total {left right : Provider} (different : left ≠ right) :
    model.precedes left right = true ∨ model.precedes right left = true :=
  PlacedProvider.isBefore_total fun same => different (congrArg Prod.snd same)

theorem ne_of_precedes {left right : Provider} (before : model.precedes left right = true) :
    left ≠ right := by
  rintro rfl
  exact precedes_asymm before before

theorem admits_iff {filter candidate : Option Qualifier} :
    Qualifier.admits filter candidate = true ↔
      ∀ name, filter = some name → candidate = some name := by
  cases filter <;> simp [Qualifier.admits]

end Model

namespace CandidateIndex

variable {model : Model} {index larger : CandidateIndex} {provider : Provider} {type : TypeName}

/-! ## Entering a candidate -/

/-- Candidates in order are split by a further one. -/
theorem exists_split {entries : List Provider} (ascending : entries.Pairwise (model.precedes · ·))
    (fresh : provider ∉ entries) : ∃ before after, entries = before ++ after ∧
      (∀ other ∈ before, model.precedes other provider = true) ∧
      ∀ other ∈ after, model.precedes provider other = true := by
  induction entries with
  | nil => exact ⟨[], [], rfl, by simp, by simp⟩
  | cons head tail induction =>
      rcases List.pairwise_cons.mp ascending with ⟨first, others⟩
      cases early : model.precedes head provider with
      | true =>
          rcases induction others (mt (List.mem_cons_of_mem _) fresh) with
            ⟨before, after, rfl, precede, follow⟩
          exact ⟨head :: before, after, rfl, List.forall_mem_cons.mpr ⟨early, precede⟩, follow⟩
      | false =>
          have different : head ≠ provider := fun same => fresh (same ▸ List.mem_cons_self)
          have late : model.precedes provider head = true := by
            rcases Model.precedes_total different with contrary | late
            · rw [early] at contrary
              cases contrary
            · exact late
          refine ⟨[], head :: tail, rfl, by simp, List.forall_mem_cons.mpr ⟨late, ?_⟩⟩
          exact fun other member => Model.precedes_trans late (first other member)

theorem insertCandidate_split {before after : List Provider}
    (precede : ∀ other ∈ before, model.precedes other provider = true)
    (follow : ∀ other ∈ after, model.precedes provider other = true) :
    insertCandidate model provider (before ++ after) = before ++ provider :: after :=
  insertIdx_partitionPoint provider precede fun other member => by
    rw [← Bool.not_eq_true]
    exact Model.precedes_asymm (follow other member)

section Insertion

variable {entries : List Provider} (ascending : entries.Pairwise (model.precedes · ·))
  (fresh : provider ∉ entries)

include ascending fresh

theorem mem_insertCandidate {other : Provider} :
    other ∈ insertCandidate model provider entries ↔ other = provider ∨ other ∈ entries := by
  rcases exists_split ascending fresh with ⟨before, after, rfl, precede, follow⟩
  rw [insertCandidate_split precede follow, List.mem_append, List.mem_append, List.mem_cons]
  exact or_left_comm

theorem insertCandidate_ascending :
    (insertCandidate model provider entries).Pairwise (model.precedes · ·) := by
  rcases exists_split ascending fresh with ⟨before, after, rfl, precede, follow⟩
  rcases List.pairwise_append.mp ascending with ⟨early, late, across⟩
  rw [insertCandidate_split precede follow]
  refine List.pairwise_append.mpr ⟨early, List.pairwise_cons.mpr ⟨follow, late⟩, ?_⟩
  intro left leftEarly right rightLate
  rcases List.mem_cons.mp rightLate with rfl | rightLate
  · exact precede left leftEarly
  · exact across left leftEarly right rightLate

end Insertion

/-! ## Lists for the types -/

theorem lookup_row (rest : List (TypeName × List Provider)) (held other : TypeName)
    (entries : List Provider) :
    ((held, entries) :: rest).lookup other =
      if other = held then some entries else rest.lookup other := by
  rw [List.lookup_cons]
  by_cases same : other = held
  · simp [same]
  · simp [same, beq_eq_false_iff_ne.mpr same]

theorem lookup_enter (byType : List (TypeName × List Provider)) (other : TypeName) :
    (enter model provider type byType).lookup other =
      if other = type then some (insertCandidate model provider ((byType.lookup type).getD []))
      else byType.lookup other := by
  induction byType with
  | nil => simp [enter, lookup_row]
  | cons row rest induction =>
      rcases row with ⟨held, entries⟩
      unfold enter
      by_cases here : held = type
      · by_cases same : other = type <;> simp [lookup_row, here, same]
      · by_cases same : other = type
        · simp [lookup_row, here, Ne.symm here, same, same ▸ induction]
        · simp [lookup_row, here, same, induction]

/-- Each of the types gets the candidate once. -/
theorem lookup_enter_all {types : List TypeName} (once : types.Nodup)
    (byType : List (TypeName × List Provider)) (other : TypeName) :
    (types.foldl (fun byType type => enter model provider type byType) byType).lookup other =
      if other ∈ types then some (insertCandidate model provider ((byType.lookup other).getD []))
      else byType.lookup other := by
  induction types generalizing byType with
  | nil => simp
  | cons type rest induction =>
      rcases List.nodup_cons.mp once with ⟨fresh, restOnce⟩
      rw [List.foldl_cons, induction restOnce, lookup_enter]
      by_cases same : other = type
      · subst same
        simp [fresh]
      · simp [same]

/-! ## What an index holds -/

/-- The providers that are held, the latest first. -/
def accepted (index : CandidateIndex) : List Provider :=
  index.holders.map (·.2)

/-- Every provider is held under its key and no key is held twice; the list for a type holds, in
order, the providers that provide it. -/
structure Consistent (model : Model) (index : CandidateIndex) : Prop where
  held : index.holders = index.accepted.map fun provider => (model.candidateKey provider, provider)
  apart : (index.accepted.map model.candidateKey).Nodup
  ascending : ∀ type, (index.entries type).Pairwise (model.precedes · ·)
  mem_entries : ∀ type provider, provider ∈ index.entries type ↔
    provider ∈ index.accepted ∧ type ∈ model.providedTypes provider

theorem size_eq : index.size = index.accepted.length := by
  rw [size, accepted, List.length_map]

theorem empty_consistent (model : Model) : empty.Consistent model where
  held := rfl
  apart := .nil
  ascending _ := .nil
  mem_entries _ _ := by simp [empty, entries, accepted]

namespace Consistent

variable (consistent : index.Consistent model)

include consistent

theorem lookup_eq_none {key : CandidateKey} : index.holders.lookup key = none ↔
    ∀ existing ∈ index.accepted, model.candidateKey existing ≠ key := by
  rw [consistent.held, List.lookup_eq_none_iff, List.forall_mem_map]
  simp only [bne_iff_ne, ne_comm]

theorem of_lookup {key : CandidateKey} {existing : Provider}
    (found : index.holders.lookup key = some existing) :
    existing ∈ index.accepted ∧ model.candidateKey existing = key := by
  rcases List.lookup_eq_some_iff.mp found with ⟨before, after, holders, _⟩
  have member : (key, existing) ∈ index.holders := by simp [holders]
  rw [consistent.held, List.mem_map] at member
  rcases member with ⟨provider, listed, same⟩
  cases same
  exact ⟨listed, rfl⟩

theorem add (once : (model.providedTypes provider).Nodup)
    (free : ∀ existing ∈ index.accepted,
      model.candidateKey existing ≠ model.candidateKey provider) :
    (index.add model provider).Consistent model := by
  have fresh : ∀ type, provider ∉ index.entries type := fun type listed =>
    free provider ((consistent.mem_entries type provider).mp listed).1 rfl
  have entries : ∀ type, (index.add model provider).entries type =
      if type ∈ model.providedTypes provider
      then insertCandidate model provider (index.entries type) else index.entries type := by
    intro type
    rw [CandidateIndex.entries, CandidateIndex.add, lookup_enter_all once]
    split <;> rfl
  constructor
  · exact congrArg (_ :: ·) consistent.held
  · refine List.nodup_cons.mpr ⟨fun again => ?_, consistent.apart⟩
    rcases List.mem_map.mp again with ⟨existing, listed, same⟩
    exact free existing listed same
  · intro type
    rw [entries]
    split
    · exact insertCandidate_ascending (consistent.ascending type) (fresh type)
    · exact consistent.ascending type
  · intro type other
    change _ ↔ other ∈ provider :: index.accepted ∧ _
    rw [entries, List.mem_cons]
    by_cases provided : type ∈ model.providedTypes provider
    · rw [if_pos provided, mem_insertCandidate (consistent.ascending type) (fresh type),
        consistent.mem_entries]
      constructor
      · rintro (rfl | ⟨listed, provides⟩)
        · exact ⟨.inl rfl, provided⟩
        · exact ⟨.inr listed, provides⟩
      · rintro ⟨rfl | listed, provides⟩
        · exact .inl rfl
        · exact .inr ⟨listed, provides⟩
    · rw [if_neg provided, consistent.mem_entries]
      refine and_congr_left fun provides => (or_iff_right ?_).symm
      rintro rfl
      exact provided provides

/-- A provider is refused when its key is held, and added otherwise. -/
theorem register_cases (provider : Provider) :
    (∃ existing ∈ index.accepted, model.candidateKey existing = model.candidateKey provider ∧
      index.register model provider =
        .error { key := model.candidateKey provider, existing, duplicate := provider }) ∨
    ((∀ existing ∈ index.accepted, model.candidateKey existing ≠ model.candidateKey provider) ∧
      index.register model provider = .ok (index.add model provider)) := by
  simp only [register]
  cases found : index.holders.lookup (model.candidateKey provider) with
  | some existing =>
      rcases consistent.of_lookup found with ⟨listed, same⟩
      exact .inl ⟨existing, listed, same, rfl⟩
  | none => exact .inr ⟨consistent.lookup_eq_none.mp found, rfl⟩

/-- The answers of an index, in terms of the accepted providers. -/
theorem mem_lookup {filter : Option Qualifier} :
    provider ∈ index.lookup model type filter ↔
      provider ∈ index.accepted ∧ type ∈ model.providedTypes provider ∧
        Qualifier.admits filter (model.providerQualifier provider) = true := by
  rw [lookup, List.mem_filter, consistent.mem_entries, and_assoc]

theorem lookup_ascending (type : TypeName) (filter : Option Qualifier) :
    (index.lookup model type filter).Pairwise (model.precedes · ·) :=
  (consistent.ascending type).filter _

theorem lookup_nodup (type : TypeName) (filter : Option Qualifier) :
    (index.lookup model type filter).Nodup :=
  (consistent.lookup_ascending type filter).imp Model.ne_of_precedes

/-- So indexes of the same providers answer the same. -/
theorem lookup_eq {other : CandidateIndex} (otherConsistent : other.Consistent model)
    (same : ∀ provider, provider ∈ index.accepted ↔ provider ∈ other.accepted) (type : TypeName)
    (filter : Option Qualifier) :
    index.lookup model type filter = other.lookup model type filter := by
  refine eq_of_ordered (fun _ _ => Model.precedes_asymm) (consistent.lookup_ascending type filter)
    (otherConsistent.lookup_ascending type filter) fun provider => ?_
  rw [consistent.mem_lookup, otherConsistent.mem_lookup, same]

end Consistent

/-! ## Many calls -/

theorem registerAll_of_ok (registered : index.register model provider = .ok larger)
    (rest : List Provider) :
    index.registerAll model (provider :: rest) = larger.registerAll model rest := by
  simp only [registerAll, registered]

theorem registerAll_of_error {duplicate : DuplicateProvider}
    (refused : index.register model provider = .error duplicate) (rest : List Provider) :
    index.registerAll model (provider :: rest) =
      ((index.registerAll model rest).1, duplicate :: (index.registerAll model rest).2) := by
  simp only [registerAll, refused]

/-- The providers whose calls succeed, in the order of the calls. -/
def successes (model : Model) (index : CandidateIndex) : List Provider → List Provider
  | [] => []
  | provider :: rest =>
    match index.register model provider with
    | .ok larger => provider :: successes model larger rest
    | .error _ => successes model index rest

theorem register_ok (registered : index.register model provider = .ok larger) :
    larger = index.add model provider := by
  simp only [register] at registered
  split at registered
  · cases registered
  · exact (Except.ok.inj registered).symm

theorem successes_sublist (index : CandidateIndex) (calls : List Provider) :
    (successes model index calls).Sublist calls := by
  induction calls generalizing index with
  | nil => exact .slnil
  | cons provider rest induction =>
      unfold successes
      split
      · exact (induction _).cons_cons provider
      · exact (induction index).cons provider

theorem accepted_registerAll (index : CandidateIndex) (calls : List Provider) :
    (index.registerAll model calls).1.accepted =
      (successes model index calls).reverse ++ index.accepted := by
  induction calls generalizing index with
  | nil => rfl
  | cons provider rest induction =>
      cases registered : index.register model provider with
      | error duplicate =>
          rw [registerAll_of_error registered, successes, registered]
          exact induction index
      | ok larger =>
          have added : larger.accepted = provider :: index.accepted :=
            congrArg accepted (register_ok registered)
          rw [registerAll_of_ok registered, successes, registered]
          simp only [induction larger, added, List.reverse_cons, List.append_assoc,
            List.singleton_append]

/-- Every call succeeds or is refused. -/
theorem length_successes (model : Model) (index : CandidateIndex) (calls : List Provider) :
    (successes model index calls).length + (index.registerAll model calls).2.length =
      calls.length := by
  induction calls generalizing index with
  | nil => rfl
  | cons provider rest induction =>
      cases registered : index.register model provider with
      | error duplicate =>
          have later := induction index
          rw [registerAll_of_error registered, successes, registered]
          simp only [List.length_cons]
          omega
      | ok larger =>
          have later := induction larger
          rw [registerAll_of_ok registered, successes, registered]
          simp only [List.length_cons]
          omega

theorem successes_eq_of_silent {calls : List Provider}
    (silent : (index.registerAll model calls).2 = []) : successes model index calls = calls := by
  have count := length_successes model index calls
  rw [silent, List.length_nil, Nat.add_zero] at count
  exact (successes_sublist index calls).eq_of_length count

/-- A call comes after those before it. -/
theorem registerAll_concat (index : CandidateIndex) (calls : List Provider) (provider : Provider) :
    (index.registerAll model (calls ++ [provider])).1 =
      match (index.registerAll model calls).1.register model provider with
      | .ok larger => larger
      | .error _ => (index.registerAll model calls).1 := by
  induction calls generalizing index with
  | nil =>
      simp only [List.nil_append, registerAll]
      cases index.register model provider <;> rfl
  | cons head rest induction =>
      rw [List.cons_append]
      cases registered : index.register model head with
      | ok larger =>
          rw [registerAll_of_ok registered, registerAll_of_ok registered]
          exact induction larger
      | error duplicate =>
          rw [registerAll_of_error registered, registerAll_of_error registered]
          exact induction index

theorem registerAll_consistent (once : ∀ provider, (model.providedTypes provider).Nodup)
    (consistent : index.Consistent model) (calls : List Provider) :
    (index.registerAll model calls).1.Consistent model := by
  induction calls generalizing index with
  | nil => exact consistent
  | cons provider rest induction =>
      rcases consistent.register_cases provider with ⟨_, _, _, refused⟩ | ⟨free, registered⟩
      · rw [registerAll_of_error refused]
        exact induction consistent
      · rw [registerAll_of_ok registered]
        exact induction (consistent.add (once provider) free)

/-- A call is refused only for a provider that is held, so every key that was offered is held. -/
theorem exists_accepted (once : ∀ provider, (model.providedTypes provider).Nodup)
    (consistent : index.Consistent model) {calls : List Provider} {provider : Provider}
    (called : provider ∈ calls) :
    ∃ existing ∈ (index.registerAll model calls).1.accepted,
      model.candidateKey existing = model.candidateKey provider := by
  induction calls generalizing index with
  | nil => cases called
  | cons head rest induction =>
      rcases consistent.register_cases head with
        ⟨existing, listed, same, refused⟩ | ⟨free, registered⟩
      · rw [registerAll_of_error refused]
        rcases List.mem_cons.mp called with rfl | later
        · refine ⟨existing, ?_, same⟩
          rw [accepted_registerAll]
          exact List.mem_append_right _ listed
        · exact induction consistent later
      · rw [registerAll_of_ok registered]
        rcases List.mem_cons.mp called with rfl | later
        · refine ⟨provider, ?_, rfl⟩
          rw [accepted_registerAll]
          exact List.mem_append_right _ List.mem_cons_self
        · exact induction (consistent.add (once head) free) later

theorem mem_accepted_iff {calls : List Provider} :
    provider ∈ (empty.registerAll model calls).1.accepted ↔
      provider ∈ successes model empty calls := by
  rw [accepted_registerAll, show empty.accepted = [] from rfl, List.append_nil, List.mem_reverse]

/-- Where only calls for one provider share a key, each provider that was called for is held. -/
theorem mem_accepted_of_apart (once : ∀ provider, (model.providedTypes provider).Nodup)
    {calls : List Provider} (apart : ∀ left ∈ calls, ∀ right ∈ calls,
      model.candidateKey left = model.candidateKey right → left = right) :
    provider ∈ (empty.registerAll model calls).1.accepted ↔ provider ∈ calls := by
  constructor
  · intro listed
    exact (successes_sublist empty calls).subset (mem_accepted_iff.mp listed)
  · intro called
    rcases exists_accepted once (empty_consistent model) called with ⟨existing, listed, same⟩
    have existingCalled := (successes_sublist empty calls).subset (mem_accepted_iff.mp listed)
    exact apart existing existingCalled provider called same ▸ listed

/-! ## Any calls -/

/-- A call fails when the key is that of an earlier successful call; it names that provider, and
changes nothing. So no two successful calls share a key. After any calls, a lookup gives the
providers of the successful ones that fit, in the order of candidates. Where no two providers share
a key, the order of the calls is lost. -/
theorem registered_candidates (declarations : List ModuleDeclaration) (calls : List Provider) :
    let model := Model.ofDeclarations declarations
    let index := (empty.registerAll model calls).1
    let accepted := successes model empty calls
    (∀ provider,
      ((∃ refused, index.register model provider = .error refused) ↔
        ∃ existing ∈ accepted, model.candidateKey existing = model.candidateKey provider) ∧
      ∀ refused, index.register model provider = .error refused →
        refused.duplicate = provider ∧ refused.key = model.candidateKey provider ∧
          refused.existing ∈ accepted ∧ model.candidateKey refused.existing = refused.key ∧
          (empty.registerAll model (calls ++ [provider])).1 = index) ∧
    (∀ type filter, (index.lookup model type filter).Pairwise (model.precedes · ·) ∧
      ∀ provider, provider ∈ index.lookup model type filter ↔
        provider ∈ accepted ∧ type ∈ model.providedTypes provider ∧
          ∀ name, filter = some name → model.providerQualifier provider = some name) ∧
    (accepted.map model.candidateKey).Nodup ∧ index.size = accepted.length ∧
    ((∀ left ∈ calls, ∀ right ∈ calls,
        model.candidateKey left = model.candidateKey right → left = right) →
      ∀ others, others.Perm calls → ∀ type filter,
        (empty.registerAll model others).1.lookup model type filter =
          index.lookup model type filter) := by
  intro model index accepted
  have once := (Model.ofDeclarations_wellFormed declarations).providedTypes_nodup
  have consistent : index.Consistent model :=
    registerAll_consistent once (empty_consistent model) calls
  have listed : index.accepted = accepted.reverse :=
    (accepted_registerAll empty calls).trans (List.append_nil _)
  have mem_accepted : ∀ provider, provider ∈ index.accepted ↔ provider ∈ accepted :=
    fun provider => mem_accepted_iff
  refine ⟨fun provider => ?_, fun type filter => ?_, ?_, ?_, ?_⟩
  · rcases consistent.register_cases provider with
      ⟨existing, held, same, refused⟩ | ⟨free, registered⟩
    · refine ⟨iff_of_true ⟨_, refused⟩ ⟨existing, (mem_accepted existing).mp held, same⟩, ?_⟩
      intro other found
      rw [refused] at found
      cases found
      refine ⟨rfl, rfl, (mem_accepted existing).mp held, same, ?_⟩
      rw [registerAll_concat, refused]
    · refine ⟨iff_of_false ?_ ?_, ?_⟩
      · rintro ⟨refused, found⟩
        rw [registered] at found
        cases found
      · rintro ⟨existing, held, same⟩
        exact free existing ((mem_accepted existing).mpr held) same
      · intro refused found
        rw [registered] at found
        cases found
  · refine ⟨consistent.lookup_ascending type filter, fun provider => ?_⟩
    rw [consistent.mem_lookup, mem_accepted, Model.admits_iff]
  · have distinct : (index.accepted.map model.candidateKey).Nodup := consistent.apart
    rw [listed, List.map_reverse] at distinct
    exact List.nodup_reverse.mp distinct
  · rw [size_eq, listed, List.length_reverse]
  · intro apart others perm type filter
    have othersConsistent := registerAll_consistent once (empty_consistent model) others
    refine othersConsistent.lookup_eq consistent (fun provider => ?_) type filter
    rw [mem_accepted_of_apart once apart, mem_accepted_of_apart once, perm.mem_iff]
    intro left leftCalled right rightCalled
    exact apart left (perm.mem_iff.mp leftCalled) right (perm.mem_iff.mp rightCalled)

/-- Two clocks of one type, and a spare one of another. -/
def sampleClocks : List ModuleDeclaration :=
  let time : TypeName := .ofText "dyn Time"
  [{ name := "app"
     beans := [{ name := "clock", declaredType := .ofText "Clock", provides := [time] },
       { name := "twin", declaredType := .ofText "Clock", provides := [time] },
       { name := "spare", declaredType := .ofText "Spare", provides := [time] }] }]

set_option maxRecDepth 100000 in
/-- The twin is refused for the clock, and without it the order of the calls is lost. -/
theorem sampleClocks_registered :
    let model := Model.ofDeclarations sampleClocks
    let calls : List Provider := [.bean ⟨2⟩, .bean ⟨0⟩, .bean ⟨2⟩]
    (successes model empty [.bean ⟨2⟩, .bean ⟨0⟩, .bean ⟨1⟩] = [.bean ⟨2⟩, .bean ⟨0⟩]) ∧
      (∀ left ∈ calls, ∀ right ∈ calls,
        model.candidateKey left = model.candidateKey right → left = right) ∧
      (empty.registerAll model calls).1.lookup model (.ofText "dyn Time") none =
        [.bean ⟨0⟩, .bean ⟨2⟩] ∧
      ∀ type filter, (empty.registerAll model calls.reverse).1.lookup model type filter =
        (empty.registerAll model calls).1.lookup model type filter := by
  intro model calls
  have apart : ∀ left ∈ calls, ∀ right ∈ calls,
      model.candidateKey left = model.candidateKey right → left = right := by decide +kernel
  exact ⟨by decide +kernel, apart, by decide +kernel,
    (registered_candidates sampleClocks calls).2.2.2.2 apart _ (List.reverse_perm calls)⟩

end CandidateIndex

end StaticInjection
