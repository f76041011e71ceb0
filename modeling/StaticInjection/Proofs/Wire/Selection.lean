import StaticInjection.Proofs.Scope.Registration
import StaticInjection.Proofs.Wire.Resolution

/-! # What a socket resolves to

The candidates for a socket are the providers that suit it and pass its filter, in
the order of candidates. The targets of its wire are chosen among them: those that
the declaration names when it names any, all of them for a collection, and
otherwise the only one or the only default one. -/

namespace StaticInjection

namespace Model

/-! ## Candidates -/

/-- A provider that suits a socket in a scope and passes its filter. -/
structure Eligible (model : Model) (scope : ModuleId) (socket : Socket) (provider : Provider) :
    Prop extends model.Suits scope socket provider where
  admitted : ∀ filter, socket.qualifier = some filter →
    model.providerQualifier provider = some filter

variable {model : Model}

theorem WellFormed.candidates_ascending (wellFormed : model.WellFormed) (scope : ModuleId)
    (excluded : Option ModuleId) (socket : Socket) :
    (model.candidates (model.index scope) excluded socket).Pairwise (model.precedes · ·) :=
  ((wellFormed.index_consistent scope).lookup_ascending _ _).filter _

/-- Where no provider is refused, the candidates for a socket are all eligible
providers. -/
theorem WellFormed.mem_candidates (wellFormed : model.WellFormed) {scope : ModuleId}
    (known : scope ∈ model.moduleIds) (silent : model.duplicateReports scope = [])
    {id : SocketId} {provider : Provider} :
    provider ∈ model.candidates (model.index scope) (model.excludedFor id) (model.socket id) ↔
      model.Eligible scope (model.socket id) provider := by
  constructor
  · intro member
    refine ⟨wellFormed.suits_of_mem_candidates known member, ?_⟩
    have looked := List.mem_of_mem_filter member
    exact admits_iff.mp ((wellFormed.index_consistent scope).mem_lookup.mp looked).2.2
  · intro eligible
    refine List.mem_filter.mpr ⟨(wellFormed.index_consistent scope).mem_lookup.mpr
      ⟨(wellFormed.mem_index known silent).mpr eligible.toInReach, eligible.provides,
        admits_iff.mpr eligible.admitted⟩, ?_⟩
    · cases owned : (model.socket id).owner with
      | bean bean =>
          simp [excludedFor, owned, isOutside, eligible.accepted, eligible.notItself bean owned]
      | module child =>
          simp [excludedFor, owned, isOutside, eligible.accepted, eligible.outside child owned]

/-! ## Targets -/

/-- An entry of a declaration names a provider, by its name or by its qualified name. -/
def Names (model : Model) (entry : String) (provider : Provider) : Prop :=
  entry = model.providerName provider ∨ entry = model.qualifiedName provider

instance (entry : String) (provider : Provider) : Decidable (model.Names entry provider) :=
  inferInstanceAs (Decidable (_ ∨ _))

/-- The wire of a socket, with its targets. -/
def wireTo (model : Model) (id : SocketId) (targets : List Provider) : Wire :=
  { socket := id, targets, isLazy := (model.socket id).isLazy }

/-- A socket has no wire, and a diagnostic at the socket says why. -/
def Refuses (model : Model) (scope : ModuleId) (id : SocketId) (kind : DiagnosticKind)
    (implicated : List Provider) (result : Except Diagnostic Wire) : Prop :=
  ∃ diagnostic, result = .error diagnostic ∧ diagnostic.kind = kind ∧
    diagnostic.scope = some scope ∧ diagnostic.location = model.socketLocation id ∧
    diagnostic.implicated = implicated.map model.qualifiedName

/-- How targets are chosen among those that are left. -/
structure Chooses (model : Model) (scope : ModuleId) (id : SocketId) (allowed : List Provider)
    (result : Except Diagnostic Wire) : Prop where
  collection : (model.socket id).multiplicity = .collection →
    result = .ok (model.wireTo id allowed)
  only : (model.socket id).multiplicity ≠ .collection → ∀ provider, allowed = [provider] →
    result = .ok (model.wireTo id [provider])
  default : (model.socket id).multiplicity ≠ .collection → 2 ≤ allowed.length →
    ∀ chosen, allowed.filter model.providerIsDefault = [chosen] →
      result = .ok (model.wireTo id [chosen])
  ambiguous : (model.socket id).multiplicity ≠ .collection → 2 ≤ allowed.length →
    (∀ chosen, allowed.filter model.providerIsDefault ≠ [chosen]) →
      model.Refuses scope id .ambiguousDependency allowed result
  absent : (model.socket id).multiplicity = .optional → allowed = [] →
    result = .ok (model.wireTo id [])
  unsatisfied : (model.socket id).multiplicity = .single → allowed = [] →
    model.Refuses scope id .unsatisfiedDependency [] result

/-- What a socket resolves to among its candidates. -/
structure Resolves (model : Model) (scope : ModuleId) (id : SocketId)
    (candidates : List Provider) (result : Except Diagnostic Wire) : Prop where
  unknown : (∃ entry ∈ (model.socket id).wiredTo,
      ∀ provider ∈ candidates, ¬ model.Names entry provider) →
    model.Refuses scope id .invalidDeclaration [] result
  free : (model.socket id).wiredTo = [] → model.Chooses scope id candidates result
  named : (model.socket id).wiredTo ≠ [] → (∀ entry ∈ (model.socket id).wiredTo,
      ∃ provider ∈ candidates, model.Names entry provider) →
    model.Chooses scope id (candidates.filter fun provider =>
      ∃ entry ∈ (model.socket id).wiredTo, model.Names entry provider) result

theorem isNamed_eq (entry : String) (provider : Provider) :
    model.isNamed entry provider = decide (model.Names entry provider) := by
  rw [Bool.eq_iff_iff, decide_eq_true_iff]
  simp [isNamed, Names]

/-- An entry that names no candidate is found. -/
theorem restrict_unknown {names : List String} {candidates : List Provider}
    (unknown : ∃ entry ∈ names, ∀ provider ∈ candidates, ¬ model.Names entry provider) :
    ∃ entry, model.restrict names candidates = .error (.unknownTarget entry) := by
  obtain ⟨entry, listed, nobody⟩ := unknown
  have some : (names.find? fun name => !candidates.any (model.isNamed name)).isSome := by
    refine List.find?_isSome.mpr ⟨entry, listed, ?_⟩
    simpa [isNamed_eq] using nobody
  obtain ⟨found, isFound⟩ := Option.isSome_iff_exists.mp some
  have nonempty : names.isEmpty = false := by
    simpa using List.ne_nil_of_mem listed
  exact ⟨found, by simp [restrict, nonempty, isFound]⟩

theorem restrict_named {names : List String} {candidates : List Provider} (nonempty : names ≠ [])
    (known : ∀ entry ∈ names, ∃ provider ∈ candidates, model.Names entry provider) :
    model.restrict names candidates = .ok (candidates.filter fun provider =>
      ∃ entry ∈ names, model.Names entry provider) := by
  have none : names.find? (fun name => !candidates.any (model.isNamed name)) = none := by
    refine List.find?_eq_none.mpr fun entry listed => ?_
    simpa [isNamed_eq] using known entry listed
  simp only [restrict, List.isEmpty_iff, nonempty, if_false, none]
  congr 1
  refine List.filter_congr fun provider _ => Bool.eq_iff_iff.mpr ?_
  simp [isNamed_eq]

theorem selectOne_default {allowed : List Provider} (several : 2 ≤ allowed.length)
    {chosen : Provider} (only : allowed.filter model.providerIsDefault = [chosen]) :
    model.selectOne allowed = .ok (some chosen) := by
  match allowed, several with
  | first :: second :: rest, _ => simp only [selectOne, only]

theorem selectOne_ambiguous {allowed : List Provider} (several : 2 ≤ allowed.length)
    (notOne : ∀ chosen, allowed.filter model.providerIsDefault ≠ [chosen]) :
    model.selectOne allowed = .error (.severalCandidates allowed) := by
  match allowed, several with
  | first :: second :: rest, _ => simp only [selectOne]

/-- What a socket with the multiplicity of one value makes of the target found. -/
theorem select_one {multiplicity : Multiplicity} (notMany : multiplicity ≠ .collection)
    {allowed : List Provider} {chosen : Provider}
    (found : model.selectOne allowed = .ok (some chosen)) :
    model.select multiplicity allowed = .ok [chosen] := by
  cases multiplicity with
  | single => simp [select, found]
  | optional => simp [select, found, Except.map]
  | collection => exact absurd rfl notMany

theorem select_error {multiplicity : Multiplicity} (notMany : multiplicity ≠ .collection)
    {allowed : List Provider} {failure : ResolutionFailure}
    (failed : model.selectOne allowed = .error failure) :
    model.select multiplicity allowed = .error failure := by
  cases multiplicity with
  | single => simp [select, failed]
  | optional => simp [select, failed, Except.map]
  | collection => exact absurd rfl notMany

/-- The result for a socket once its candidates are restricted. -/
def chosen (model : Model) (scope : ModuleId) (id : SocketId) (allowed : List Provider) :
    Except Diagnostic Wire :=
  ((model.select (model.socket id).multiplicity allowed).map (model.wireTo id)).mapError
    (model.resolutionDiagnostic scope id)

theorem chooses_chosen (scope : ModuleId) (id : SocketId) (allowed : List Provider) :
    model.Chooses scope id allowed (model.chosen scope id allowed) := by
  constructor
  case collection =>
    intro many
    simp [chosen, many, select, Except.map, Except.mapError]
  case only =>
    intro notMany provider equal
    have found : model.selectOne allowed = .ok (some provider) := by rw [equal]; rfl
    simp [chosen, select_one notMany found, Except.map, Except.mapError]
  case default =>
    intro notMany several provider only
    simp [chosen, select_one notMany (selectOne_default several only), Except.map, Except.mapError]
  case ambiguous =>
    intro notMany several notOne
    have failed := select_error notMany (selectOne_ambiguous several notOne)
    refine ⟨model.resolutionDiagnostic scope id (.severalCandidates allowed), ?_, rfl, rfl, rfl, rfl⟩
    simp [chosen, failed, Except.map, Except.mapError]
  case absent =>
    intro optional equal
    simp [chosen, optional, equal, select, selectOne, Except.map, Except.mapError]
  case unsatisfied =>
    intro single equal
    refine ⟨model.resolutionDiagnostic scope id .noCandidate, ?_, rfl, rfl, rfl, rfl⟩
    simp [chosen, single, equal, select, selectOne, Except.map, Except.mapError]

/-! ## Sockets -/

/-- What a socket resolves to in a scope, with what is reported when it has no wire. -/
def resolveSocket (model : Model) (scope : ModuleId) (id : SocketId) : Except Diagnostic Wire :=
  (model.resolve (model.index scope) (model.excludedFor id) id).mapError
    (model.resolutionDiagnostic scope id)

theorem resolveSocket_error {scope : ModuleId} {id : SocketId} {failure : ResolutionFailure}
    (restricted : model.restrict (model.socket id).wiredTo (model.candidates (model.index scope)
      (model.excludedFor id) (model.socket id)) = .error failure) :
    model.resolveSocket scope id = .error (model.resolutionDiagnostic scope id failure) := by
  simp [resolveSocket, resolve, restricted, bind, Except.bind, Except.mapError]

theorem resolveSocket_chosen {scope : ModuleId} {id : SocketId} {allowed : List Provider}
    (restricted : model.restrict (model.socket id).wiredTo (model.candidates (model.index scope)
      (model.excludedFor id) (model.socket id)) = .ok allowed) :
    model.resolveSocket scope id = model.chosen scope id allowed := by
  simp only [resolveSocket, resolve, restricted, bind, Except.bind, chosen]
  cases model.select (model.socket id).multiplicity allowed <;> rfl

theorem resolves_resolveSocket (scope : ModuleId) (id : SocketId) :
    model.Resolves scope id (model.candidates (model.index scope) (model.excludedFor id)
      (model.socket id)) (model.resolveSocket scope id) := by
  constructor
  case unknown =>
    intro unknown
    obtain ⟨entry, restricted⟩ := restrict_unknown unknown
    exact ⟨_, resolveSocket_error restricted, rfl, rfl, rfl, rfl⟩
  case free =>
    intro free
    have restricted : model.restrict (model.socket id).wiredTo (model.candidates
        (model.index scope) (model.excludedFor id) (model.socket id)) =
          .ok (model.candidates (model.index scope) (model.excludedFor id) (model.socket id)) := by
      simp [restrict, free]
    rw [resolveSocket_chosen restricted]
    exact chooses_chosen scope id _
  case named =>
    intro nonempty known
    rw [resolveSocket_chosen (restrict_named nonempty known)]
    exact chooses_chosen scope id _

namespace WellFormed

variable (wellFormed : model.WellFormed)

include wellFormed

theorem wiringModule?_known {id : SocketId} (inside : id ∈ model.socketIds) {scope : ModuleId}
    (wiring : model.wiringModule? id = some scope) : scope ∈ model.moduleIds := by
  cases owned : (model.socket id).owner with
  | bean bean =>
      rw [wiringModule?, owned] at wiring
      have beanKnown := (wellFormed.owner_bean id inside bean owned).1
      exact Option.some.inj wiring ▸ wellFormed.bean_module bean beanKnown
  | module child =>
      rw [wiringModule?, owned] at wiring
      exact wellFormed.parent_known (wellFormed.owner_module id inside child owned).1 wiring

/-- The wire of a socket is what the socket resolves to. -/
theorem get?_wires {id : SocketId} (inside : id ∈ model.socketIds) {scope : ModuleId}
    (wiring : model.wiringModule? id = some scope) :
    model.wires.get? id = (model.resolveSocket scope id).toOption := by
  have known := wellFormed.wiringModule?_known inside wiring
  cases resolved : model.resolve (model.index scope) (model.excludedFor id) id with
  | ok wire =>
      have same := (resolve_ok resolved).1
      subst same
      simp only [resolveSocket, resolved, Except.mapError, Except.toOption]
      exact WireSet.get?_eq_some.mpr
        ⟨wellFormed.mem_wires.mpr ⟨scope, known, inside, wiring, resolved⟩, rfl⟩
  | error failure =>
      simp only [resolveSocket, resolved, Except.mapError, Except.toOption]
      cases found : model.wires.get? id with
      | none => rfl
      | some wire =>
          obtain ⟨member, rfl⟩ := WireSet.get?_eq_some.mp found
          obtain ⟨other, _, _, otherWiring, otherResolved⟩ := wellFormed.mem_wires.mp member
          rw [wiring] at otherWiring
          cases otherWiring
          rw [resolved] at otherResolved
          cases otherResolved

/-- A socket that is resolved nowhere has no wire. -/
theorem get?_of_unwired {id : SocketId} (unwired : model.wiringModule? id = none) :
    model.wires.get? id = none := by
  refine Option.eq_none_iff_forall_ne_some.mpr fun wire found => ?_
  obtain ⟨member, rfl⟩ := WireSet.get?_eq_some.mp found
  obtain ⟨_, _, _, wiring, _⟩ := wellFormed.mem_wires.mp member
  rw [unwired] at wiring
  cases wiring

/-- What is reported instead of a wire stands in the diagnostics of the scope. -/
theorem resolveSocket_reported {id : SocketId} (inside : id ∈ model.socketIds)
    {scope : ModuleId} (wiring : model.wiringModule? id = some scope) {diagnostic : Diagnostic}
    (failed : model.resolveSocket scope id = .error diagnostic) :
    diagnostic ∈ (model.resolveModule scope).diagnostics := by
  have known := wellFormed.wiringModule?_known inside wiring
  have entry := (wellFormed.mem_socketsResolvedIn known).mpr ⟨inside, wiring, rfl⟩
  cases resolved : model.resolve (model.index scope) (model.excludedFor id) id with
  | ok wire => simp [resolveSocket, resolved, Except.mapError] at failed
  | error failure =>
      simp only [resolveSocket, resolved, Except.mapError, Except.error.injEq] at failed
      subst failed
      exact mem_resolveModule_diagnostics.mpr ⟨_, entry, failure, resolved, rfl⟩

end WellFormed

end Model

/-- Where no two providers in reach are the same, a socket is resolved among all
providers that are eligible for it, and among nothing else. -/
theorem socket_resolves_among_eligible (declarations : List ModuleDeclaration) (scope : ModuleId)
    (id : SocketId) (inside : id ∈ (Model.ofDeclarations declarations).socketIds)
    (wiring : (Model.ofDeclarations declarations).wiringModule? id = some scope)
    (apart : ∀ diagnostic ∈ (Model.ofDeclarations declarations).duplicates,
      diagnostic.scope ≠ some scope) :
    let model := Model.ofDeclarations declarations
    ∃ candidates, candidates.Pairwise (model.precedes · ·) ∧
      (∀ provider, provider ∈ candidates ↔ model.Eligible scope (model.socket id) provider) ∧
      model.Resolves scope id candidates (model.resolveSocket scope id) ∧
      model.wires.get? id = (model.resolveSocket scope id).toOption ∧
      ∀ diagnostic, model.resolveSocket scope id = .error diagnostic →
        diagnostic ∈ (model.resolveModule scope).diagnostics := by
  have wellFormed := Model.ofDeclarations_wellFormed declarations
  generalize Model.ofDeclarations declarations = model at *
  have known := wellFormed.wiringModule?_known inside wiring
  have silent : model.duplicateReports scope = [] := by
    apply List.eq_nil_iff_forall_not_mem.mpr
    intro diagnostic report
    obtain ⟨member, same⟩ := wellFormed.module_mem known
    refine apart diagnostic (List.mem_flatMap.mpr ⟨_, member, same.symm ▸ report⟩) ?_
    obtain ⟨refused, _, rfl⟩ := List.mem_map.mp report
    rfl
  exact ⟨_, wellFormed.candidates_ascending scope _ _,
    fun provider => wellFormed.mem_candidates known silent,
    Model.resolves_resolveSocket scope id, wellFormed.get?_wires inside wiring,
    fun diagnostic => wellFormed.resolveSocket_reported inside wiring⟩

/-- Two beans are times, and one of them is the default one. -/
def sampleTimes : List ModuleDeclaration :=
  let clock : BeanDeclaration :=
    { name := "clock", declaredType := .ofText "Clock", provides := [.ofText "dyn Time"]
      isDefault := true }
  let spare : BeanDeclaration :=
    { name := "spare", declaredType := .ofText "Spare", provides := [.ofText "dyn Time"] }
  let server : BeanDeclaration :=
    { name := "server", declaredType := .ofText "Server"
      sockets := [{ name := "time", requiredType := .ofText "dyn Time" }] }
  [{ name := "app", beans := [clock, spare, server] }]

set_option maxRecDepth 100000 in
/-- The socket takes the default one. -/
theorem sampleTimes_resolves_to_default :
    let model := Model.ofDeclarations sampleTimes
    model.resolveSocket ⟨0⟩ ⟨0⟩ = .ok (model.wireTo ⟨0⟩ [.bean ⟨0⟩]) ∧
      ∃ candidates,
        (∀ provider, provider ∈ candidates ↔ model.Eligible ⟨0⟩ (model.socket ⟨0⟩) provider) ∧
        model.Resolves ⟨0⟩ ⟨0⟩ candidates (model.resolveSocket ⟨0⟩ ⟨0⟩) := by
  intro model
  have inside : (⟨0⟩ : SocketId) ∈ model.socketIds := by decide +kernel
  have wiring : model.wiringModule? ⟨0⟩ = some ⟨0⟩ := by decide +kernel
  have apart : ∀ diagnostic ∈ model.duplicates, diagnostic.scope ≠ some ⟨0⟩ := by decide +kernel
  obtain ⟨candidates, _, eligible, resolves, _⟩ :=
    socket_resolves_among_eligible sampleTimes ⟨0⟩ ⟨0⟩ inside wiring apart
  refine ⟨?_, candidates, eligible, resolves⟩
  have chosen : (model.resolveSocket ⟨0⟩ ⟨0⟩).toOption =
      some (model.wireTo ⟨0⟩ [.bean ⟨0⟩]) := by decide +kernel
  cases result : model.resolveSocket ⟨0⟩ ⟨0⟩ with
  | error diagnostic =>
      rw [result] at chosen
      cases chosen
  | ok wire =>
      rw [result] at chosen
      exact congrArg Except.ok (Option.some.inj chosen)

end StaticInjection
