import Mathlib.Data.List.Nodup
import StaticInjection.Proofs.Scope.Registration
import StaticInjection.Wire.Resolution

/-! # Wires

Every socket is resolved in one scope only, so the wires of a model are exactly
what the sockets resolve to. The targets of a wire suit its socket, and there are
as many of them as the socket takes. -/

namespace StaticInjection

/-! ## Sets of wires -/

theorem Wire.mem_insertInto_iff {wire other : Wire} {wires : List Wire}
    (ascending : wires.Pairwise (·.socket.index < ·.socket.index)) :
    other ∈ wire.insertInto wires ↔
      other = wire ∨ (other ∈ wires ∧ other.socket ≠ wire.socket) := by
  induction wires with
  | nil => simp [insertInto]
  | cons head tail induction =>
      obtain ⟨first, others⟩ := List.pairwise_cons.mp ascending
      unfold insertInto
      split
      · rename_i before
        have apart : ∀ held ∈ head :: tail, held.socket ≠ wire.socket := by
          intro held member same
          rcases List.mem_cons.mp member with equal | later
          · rw [← same, equal] at before
            omega
          · have after := first held later
            rw [same] at after
            omega
        rw [List.mem_cons]
        constructor
        · rintro (equal | member)
          · exact .inl equal
          · exact .inr ⟨member, apart other member⟩
        · rintro (equal | ⟨member, _⟩)
          · exact .inl equal
          · exact .inr member
      · split
        · rename_i same
          rw [List.mem_cons, List.mem_cons]
          constructor
          · rintro (equal | later)
            · exact .inl equal
            · refine .inr ⟨.inr later, fun again => ?_⟩
              have after := first other later
              rw [again, same] at after
              omega
          · rintro (equal | ⟨equal | later, different⟩)
            · exact .inl equal
            · rw [equal] at different
              exact absurd same.symm different
            · exact .inr later
        · rename_i different
          rw [List.mem_cons, induction others, List.mem_cons]
          constructor
          · rintro (equal | equal | ⟨later, apart⟩)
            · exact .inr ⟨.inl equal, fun same => different (by rw [← same, equal])⟩
            · exact .inl equal
            · exact .inr ⟨.inr later, apart⟩
          · rintro (equal | ⟨equal | later, apart⟩)
            · exact .inr (.inl equal)
            · exact .inl equal
            · exact .inr (.inr ⟨later, apart⟩)

namespace WireSet

theorem nodup_sockets (set : WireSet) : (set.wires.map (·.socket)).Nodup := by
  refine List.pairwise_map.mpr (set.ascending.imp fun before same => ?_)
  rw [same] at before
  omega

theorem eq_of_socket_eq {set : WireSet} {left right : Wire} (leftMember : left ∈ set.wires)
    (rightMember : right ∈ set.wires) (same : left.socket = right.socket) : left = right :=
  List.inj_on_of_nodup_map set.nodup_sockets leftMember rightMember same

theorem get?_eq_some {set : WireSet} {socket : SocketId} {wire : Wire} :
    set.get? socket = some wire ↔ wire ∈ set.wires ∧ wire.socket = socket := by
  constructor
  · intro found
    exact ⟨List.mem_of_find?_eq_some found, by simpa using List.find?_some found⟩
  · rintro ⟨member, rfl⟩
    cases found : set.get? wire.socket with
    | none =>
        have missed := List.find?_eq_none.mp found wire member
        simp at missed
    | some other =>
        have same : other.socket = wire.socket := by simpa using List.find?_some found
        rw [eq_of_socket_eq (List.mem_of_find?_eq_some found) member same]

theorem eq_of_mem {left right : WireSet}
    (same : ∀ wire, wire ∈ left.wires ↔ wire ∈ right.wires) : left = right := by
  have equal : left.wires = right.wires :=
    eq_of_ordered (fun _ _ => Nat.lt_asymm) left.ascending right.ascending same
  cases left; cases right
  cases equal
  rfl

/-- Wires that agree on each socket are all kept. -/
theorem mem_insertAll {set : WireSet} {wires : List Wire}
    (agree : ∀ left ∈ set.wires ++ wires, ∀ right ∈ set.wires ++ wires,
      left.socket = right.socket → left = right) {wire : Wire} :
    wire ∈ (set.insertAll wires).wires ↔ wire ∈ set.wires ∨ wire ∈ wires := by
  induction wires generalizing set with
  | nil => simp [insertAll]
  | cons head tail induction =>
      have inserted : ∀ other, other ∈ (set.insert head).wires ↔
          other = head ∨ other ∈ set.wires := by
        intro other
        rw [insert, Wire.mem_insertInto_iff set.ascending]
        constructor
        · rintro (equal | ⟨member, _⟩)
          · exact .inl equal
          · exact .inr member
        · rintro (equal | member)
          · exact .inl equal
          · by_cases same : other.socket = head.socket
            · exact .inl (agree other (by simp [member]) head (by simp) same)
            · exact .inr ⟨member, same⟩
      have kept : ∀ other, other ∈ (set.insert head).wires ++ tail →
          other ∈ set.wires ++ head :: tail := by
        intro other member
        rcases List.mem_append.mp member with member | later
        · rcases (inserted other).mp member with equal | member
          · simp [equal]
          · simp [member]
        · simp [later]
      have rest := @induction (set.insert head)
        (fun left leftMember right rightMember same =>
          agree left (kept left leftMember) right (kept right rightMember) same)
      show wire ∈ ((set.insert head).insertAll tail).wires ↔ _
      rw [rest, inserted, List.mem_cons]
      tauto

theorem foldl_insertAll {set : WireSet} {items : List α} {wires : α → List Wire} :
    items.foldl (fun set item => set.insertAll (wires item)) set =
      set.insertAll (items.flatMap wires) := by
  induction items generalizing set with
  | nil => rfl
  | cons head tail induction =>
      rw [List.foldl_cons, induction, List.flatMap_cons]
      simp [insertAll]

end WireSet

/-! ## Choosing targets -/

/-- How many targets a socket may have. -/
def Multiplicity.Allows : Multiplicity → List Provider → Prop
  | single, targets => ∃ only, targets = [only]
  | optional, targets => targets.length ≤ 1
  | collection, _ => True

namespace Model

/-- What makes a provider a possible target of a socket that is resolved in a
scope. -/
structure Suits (model : Model) (scope : ModuleId) (socket : Socket) (target : Provider) :
    Prop extends model.InReach scope target where
  provides : socket.requiredType ∈ model.providedTypes target
  notItself : ∀ bean, socket.owner = .bean bean → target ≠ .bean bean
  outside : ∀ child, socket.owner = .module child →
    model.isWithin (model.providerModule target) child = false
  accepted : socket.multiplicity.accepts (model.providerCardinality target) = true

/-- The subtree in which a socket finds nothing: that of the module whose input it
is. -/
def excludedFor (model : Model) (id : SocketId) : Option ModuleId :=
  match (model.socket id).owner with
  | .bean _ => none
  | .module module => some module

/-- A wire as it comes from resolving its socket in a scope. -/
structure Wired (model : Model) (scope : ModuleId) (wire : Wire) : Prop where
  known : wire.socket ∈ model.socketIds
  wiring : model.wiringModule? wire.socket = some scope
  isLazy : wire.isLazy = (model.socket wire.socket).isLazy
  allowed : (model.socket wire.socket).multiplicity.Allows wire.targets
  suits : ∀ target ∈ wire.targets, model.Suits scope (model.socket wire.socket) target

variable {model : Model}

theorem selectOne_ok {candidates : List Provider} {chosen : Option Provider}
    (selected : model.selectOne candidates = .ok chosen) :
    ∀ target ∈ chosen, target ∈ candidates := by
  unfold selectOne at selected
  split at selected
  · injection selected with equal
    simp [← equal]
  · injection selected with equal
    simp [← equal]
  · split at selected
    · rename_i found
      injection selected with equal
      subst equal
      intro target same
      cases same
      exact List.mem_of_mem_filter (found ▸ List.mem_singleton_self _)
    · cases selected

theorem select_ok {multiplicity : Multiplicity} {candidates targets : List Provider}
    (selected : model.select multiplicity candidates = .ok targets) :
    multiplicity.Allows targets ∧ ∀ target ∈ targets, target ∈ candidates := by
  cases multiplicity with
  | collection =>
      injection selected with equal
      exact ⟨trivial, fun target member => equal ▸ member⟩
  | optional =>
      unfold select at selected
      cases found : model.selectOne candidates with
      | error failure => simp [found, Except.map] at selected
      | ok chosen =>
          have inside := selectOne_ok found
          simp only [found, Except.map, Except.ok.injEq] at selected
          subst selected
          cases chosen with
          | none => exact ⟨by simp [Multiplicity.Allows], by simp⟩
          | some only => exact ⟨by simp [Multiplicity.Allows], by simpa using inside⟩
  | single =>
      unfold select at selected
      cases found : model.selectOne candidates with
      | error failure => simp [found] at selected
      | ok chosen =>
          have inside := selectOne_ok found
          cases chosen with
          | none => simp [found] at selected
          | some only =>
              simp only [found, Except.ok.injEq] at selected
              subst selected
              exact ⟨⟨only, rfl⟩, by simpa using inside⟩

theorem restrict_sublist {names : List String} {candidates allowed : List Provider}
    (restricted : model.restrict names candidates = .ok allowed) : allowed.Sublist candidates := by
  unfold restrict at restricted
  split at restricted
  · injection restricted with equal
    exact equal ▸ List.Sublist.refl _
  · split at restricted
    · cases restricted
    · injection restricted with equal
      exact equal ▸ List.filter_sublist

theorem restrict_ok {names : List String} {candidates allowed : List Provider}
    (restricted : model.restrict names candidates = .ok allowed) :
    ∀ target ∈ allowed, target ∈ candidates :=
  fun _ member => (restrict_sublist restricted).subset member

theorem resolve_ok {index : CandidateIndex} {excluded : Option ModuleId} {id : SocketId}
    {wire : Wire} (resolved : model.resolve index excluded id = .ok wire) :
    wire.socket = id ∧ wire.isLazy = (model.socket id).isLazy ∧
      (model.socket id).multiplicity.Allows wire.targets ∧
      ∀ target ∈ wire.targets, target ∈ model.candidates index excluded (model.socket id) := by
  unfold resolve at resolved
  cases allowed : model.restrict (model.socket id).wiredTo
      (model.candidates index excluded (model.socket id)) with
  | error failure => simp [allowed, bind, Except.bind] at resolved
  | ok kept =>
      cases selected : model.select (model.socket id).multiplicity kept with
      | error failure => simp [allowed, selected, bind, Except.bind] at resolved
      | ok targets =>
          simp only [allowed, selected, bind, Except.bind, pure, Except.pure,
            Except.ok.injEq] at resolved
          subst resolved
          obtain ⟨count, inside⟩ := select_ok selected
          exact ⟨rfl, rfl, count, fun target member =>
            restrict_ok allowed target (inside target member)⟩

/-! ## Choosing none -/

theorem restrict_error {names : List String} {candidates : List Provider}
    {failure : ResolutionFailure} (failed : model.restrict names candidates = .error failure) :
    ∃ entry ∈ names, failure = .unknownTarget entry := by
  unfold restrict at failed
  split at failed
  · cases failed
  · split at failed
    · rename_i entry found
      injection failed with equal
      exact ⟨entry, List.mem_of_find?_eq_some found, equal.symm⟩
    · cases failed

theorem selectOne_error {candidates : List Provider} {failure : ResolutionFailure}
    (failed : model.selectOne candidates = .error failure) :
    failure = .severalCandidates candidates := by
  unfold selectOne at failed
  split at failed
  · cases failed
  · cases failed
  · split at failed
    · cases failed
    · injection failed with equal
      exact equal.symm

theorem select_error_cases {multiplicity : Multiplicity} {candidates : List Provider}
    {failure : ResolutionFailure} (failed : model.select multiplicity candidates = .error failure) :
    failure = .noCandidate ∨ failure = .severalCandidates candidates := by
  cases multiplicity with
  | collection => cases failed
  | optional =>
      unfold select at failed
      cases found : model.selectOne candidates with
      | ok chosen => simp [found, Except.map] at failed
      | error other =>
          simp only [found, Except.map, Except.error.injEq] at failed
          exact .inr (failed ▸ selectOne_error found)
  | single =>
      unfold select at failed
      cases found : model.selectOne candidates with
      | error other =>
          simp only [found, Except.error.injEq] at failed
          exact .inr (failed ▸ selectOne_error found)
      | ok chosen =>
          cases chosen with
          | none =>
              simp only [found, Except.error.injEq] at failed
              exact .inl failed.symm
          | some only => simp [found] at failed

/-- A socket has no wire because of an entry of its declaration, for want of candidates, or because
no choice is made among several of them. -/
theorem resolve_error {index : CandidateIndex} {excluded : Option ModuleId} {id : SocketId}
    {failure : ResolutionFailure} (failed : model.resolve index excluded id = .error failure) :
    (∃ entry ∈ (model.socket id).wiredTo, failure = .unknownTarget entry) ∨
      failure = .noCandidate ∨
      ∃ several, (∀ target ∈ several, target ∈ model.candidates index excluded (model.socket id)) ∧
        failure = .severalCandidates several := by
  unfold resolve at failed
  cases allowed : model.restrict (model.socket id).wiredTo
      (model.candidates index excluded (model.socket id)) with
  | error failure =>
      simp only [allowed, bind, Except.bind, Except.error.injEq] at failed
      exact .inl (failed ▸ restrict_error allowed)
  | ok kept =>
      cases selected : model.select (model.socket id).multiplicity kept with
      | ok targets => simp [allowed, selected, bind, Except.bind, pure, Except.pure] at failed
      | error failure =>
          simp only [allowed, selected, bind, Except.bind, Except.error.injEq] at failed
          subst failed
          rcases select_error_cases selected with none | several
          · exact .inr (.inl none)
          · exact .inr (.inr ⟨kept, restrict_ok allowed, several⟩)

/-- Each socket without a wire has its diagnostic. -/
theorem mem_resolveModule_diagnostics {scope : ModuleId} {diagnostic : Diagnostic} :
    diagnostic ∈ (model.resolveModule scope).diagnostics ↔
      ∃ entry ∈ model.socketsResolvedIn scope, ∃ failure,
        model.resolve (model.index scope) entry.2 entry.1 = .error failure ∧
          diagnostic = model.resolutionDiagnostic scope entry.1 failure := by
  simp only [resolveModule, resolveScope, List.mem_filterMap, List.mem_map]
  constructor
  · rintro ⟨_, ⟨entry, listed, rfl⟩, found⟩
    dsimp only at found
    split at found
    · cases found
    · rename_i failure failed
      exact ⟨entry, listed, failure, failed, (Option.some.inj found).symm⟩
  · rintro ⟨entry, listed, failure, failed, rfl⟩
    exact ⟨_, ⟨entry, listed, rfl⟩, by simp only [failed]⟩

namespace WellFormed

variable (wellFormed : model.WellFormed)

include wellFormed

theorem visible_of_mem_candidates {scope : ModuleId} {excluded : Option ModuleId}
    {socket : Socket} {target : Provider}
    (member : target ∈ model.candidates (model.index scope) excluded socket) :
    target ∈ model.visible scope := by
  have looked := List.mem_of_mem_filter member
  exact visible_of_mem_index ((wellFormed.index_consistent scope).mem_lookup.mp looked).1

theorem suits_of_mem_candidates {scope : ModuleId} (known : scope ∈ model.moduleIds)
    {id : SocketId} {target : Provider}
    (member : target ∈ model.candidates (model.index scope) (model.excludedFor id)
      (model.socket id)) : model.Suits scope (model.socket id) target := by
  obtain ⟨looked, passes⟩ := List.mem_filter.mp member
  obtain ⟨_, provides, _⟩ := (wellFormed.index_consistent scope).mem_lookup.mp looked
  have inReach := (wellFormed.visible_iff_inReach known).mp
    (wellFormed.visible_of_mem_candidates member)
  simp only [Bool.and_eq_true] at passes
  obtain ⟨⟨notOwn, outside⟩, accepts⟩ := passes
  refine ⟨inReach, provides, ?_, ?_, accepts⟩
  · intro bean owned
    simpa [owned] using notOwn
  · intro child owned
    simpa [excludedFor, owned, isOutside] using outside

/-! ## The scope of a socket -/

theorem mem_socketsResolvedIn {scope : ModuleId} (known : scope ∈ model.moduleIds)
    {id : SocketId} {excluded : Option ModuleId} :
    (id, excluded) ∈ model.socketsResolvedIn scope ↔
      id ∈ model.socketIds ∧ model.wiringModule? id = some scope ∧
        excluded = model.excludedFor id := by
  simp only [socketsResolvedIn, List.mem_append, List.mem_flatMap, List.mem_map,
    Prod.mk.injEq]
  constructor
  · rintro (⟨bean, own, socket, listed, rfl, rfl⟩ | ⟨child, own, socket, listed, rfl, rfl⟩)
    · obtain ⟨beanKnown, place⟩ := (wellFormed.beans scope known bean).mp own
      obtain ⟨inside, owned⟩ := (wellFormed.beanSockets bean beanKnown socket).mp listed
      simp [inside, wiringModule?, excludedFor, owned, place]
    · obtain ⟨childKnown, isChild⟩ := (wellFormed.children scope known child).mp own
      obtain ⟨inside, owned⟩ := (wellFormed.moduleSockets child childKnown socket).mp listed
      refine ⟨inside, ?_, ?_⟩
      · rw [wiringModule?, owned]
        exact isChild
      · rw [excludedFor, owned]
  · rintro ⟨inside, wiring, rfl⟩
    cases owned : (model.socket id).owner with
    | bean bean =>
        have beanKnown := (wellFormed.owner_bean id inside bean owned).1
        rw [wiringModule?, owned] at wiring
        refine .inl ⟨bean, (wellFormed.beans scope known bean).mpr
          ⟨beanKnown, Option.some.inj wiring⟩, id, ?_, rfl, ?_⟩
        · exact (wellFormed.beanSockets bean beanKnown id).mpr ⟨inside, owned⟩
        · rw [excludedFor, owned]
    | module child =>
        have childKnown := (wellFormed.owner_module id inside child owned).1
        rw [wiringModule?, owned] at wiring
        refine .inr ⟨child, (wellFormed.children scope known child).mpr ⟨childKnown, wiring⟩,
          id, ?_, rfl, ?_⟩
        · exact (wellFormed.moduleSockets child childKnown id).mpr ⟨inside, owned⟩
        · rw [excludedFor, owned]

omit wellFormed in
theorem mem_resolveModule_wires {scope : ModuleId} {wire : Wire} :
    wire ∈ (model.resolveModule scope).wires ↔
      ∃ entry ∈ model.socketsResolvedIn scope,
        model.resolve (model.index scope) entry.2 entry.1 = .ok wire := by
  simp only [resolveModule, resolveScope, List.mem_filterMap, List.mem_map]
  constructor
  · rintro ⟨_, ⟨entry, listed, rfl⟩, found⟩
    refine ⟨entry, listed, ?_⟩
    cases resolved : model.resolve (model.index scope) entry.2 entry.1 with
    | error failure => simp [resolved, Except.toOption] at found
    | ok other => simpa [resolved, Except.toOption] using found
  · rintro ⟨entry, listed, resolved⟩
    exact ⟨_, ⟨entry, listed, rfl⟩, by simp [resolved, Except.toOption]⟩

theorem resolveModule_wire {scope : ModuleId} (known : scope ∈ model.moduleIds)
    {wire : Wire} : wire ∈ (model.resolveModule scope).wires ↔
      wire.socket ∈ model.socketIds ∧ model.wiringModule? wire.socket = some scope ∧
        model.resolve (model.index scope) (model.excludedFor wire.socket) wire.socket =
          .ok wire := by
  rw [mem_resolveModule_wires]
  constructor
  · rintro ⟨⟨id, excluded⟩, listed, resolved⟩
    obtain ⟨inside, wiring, rfl⟩ := (wellFormed.mem_socketsResolvedIn known).mp listed
    have same := (resolve_ok resolved).1
    rw [same]
    exact ⟨inside, wiring, resolved⟩
  · rintro ⟨inside, wiring, resolved⟩
    exact ⟨⟨_, _⟩, (wellFormed.mem_socketsResolvedIn known).mpr ⟨inside, wiring, rfl⟩, resolved⟩

/-- The wires that the scopes resolve are the results of the sockets. -/
theorem mem_resolvedWires {wire : Wire} :
    wire ∈ model.modules.flatMap (fun module => (model.resolveModule module.id).wires) ↔
      ∃ scope ∈ model.moduleIds, wire.socket ∈ model.socketIds ∧
        model.wiringModule? wire.socket = some scope ∧
        model.resolve (model.index scope) (model.excludedFor wire.socket) wire.socket =
          .ok wire := by
  rw [List.mem_flatMap]
  constructor
  · rintro ⟨module, member, inside⟩
    have known : module.id ∈ model.moduleIds := List.mem_map_of_mem member
    exact ⟨module.id, known, (wellFormed.resolveModule_wire known).mp inside⟩
  · rintro ⟨scope, known, resolved⟩
    obtain ⟨module, member, rfl⟩ := List.mem_map.mp known
    exact ⟨module, member, (wellFormed.resolveModule_wire known).mpr resolved⟩

theorem resolvedWires_agree {left right : Wire}
    (leftMember : left ∈ model.modules.flatMap fun module => (model.resolveModule module.id).wires)
    (rightMember : right ∈ model.modules.flatMap
      fun module => (model.resolveModule module.id).wires)
    (same : left.socket = right.socket) : left = right := by
  obtain ⟨leftScope, _, _, leftWiring, leftResolved⟩ :=
    wellFormed.mem_resolvedWires.mp leftMember
  obtain ⟨rightScope, _, _, rightWiring, rightResolved⟩ :=
    wellFormed.mem_resolvedWires.mp rightMember
  rw [same, rightWiring] at leftWiring
  cases leftWiring
  rw [same, rightResolved] at leftResolved
  exact (Except.ok.inj leftResolved).symm

/-- The wires of a model are collected from its scopes in any order. -/
theorem mem_wires_collected {wires : List Wire}
    (collected : ∀ wire, wire ∈ wires ↔
      wire ∈ model.modules.flatMap fun module => (model.resolveModule module.id).wires)
    {wire : Wire} : wire ∈ (WireSet.empty.insertAll wires).wires ↔
      wire ∈ model.modules.flatMap fun module => (model.resolveModule module.id).wires := by
  have agree : ∀ left ∈ WireSet.empty.wires ++ wires, ∀ right ∈ WireSet.empty.wires ++ wires,
      left.socket = right.socket → left = right := fun left leftMember right rightMember same =>
    wellFormed.resolvedWires_agree ((collected left).mp leftMember)
      ((collected right).mp rightMember) same
  rw [WireSet.mem_insertAll agree, ← collected]
  exact or_iff_right (by simp [WireSet.empty])

/-- The wires of a model are the results of its sockets. -/
theorem mem_wires {wire : Wire} : wire ∈ model.wires.wires ↔
    ∃ scope ∈ model.moduleIds, wire.socket ∈ model.socketIds ∧
      model.wiringModule? wire.socket = some scope ∧
      model.resolve (model.index scope) (model.excludedFor wire.socket) wire.socket =
        .ok wire := by
  rw [wires, WireSet.foldl_insertAll, wellFormed.mem_wires_collected fun _ => .rfl,
    wellFormed.mem_resolvedWires]

/-- It does not matter in which order the wires are collected. -/
theorem insertAll_eq_wires {wires : List Wire}
    (collected : ∀ wire, wire ∈ wires ↔
      wire ∈ model.modules.flatMap fun module => (model.resolveModule module.id).wires) :
    WireSet.empty.insertAll wires = model.wires := by
  refine WireSet.eq_of_mem fun wire => ?_
  rw [wellFormed.mem_wires_collected collected, wellFormed.mem_wires,
    wellFormed.mem_resolvedWires]

theorem wired_of_resolved {scope : ModuleId} (known : scope ∈ model.moduleIds) {wire : Wire}
    (member : wire ∈ (model.resolveModule scope).wires) : model.Wired scope wire := by
  obtain ⟨inside, wiring, resolved⟩ := (wellFormed.resolveModule_wire known).mp member
  obtain ⟨_, isLazy, allowed, targets⟩ := resolve_ok resolved
  exact ⟨inside, wiring, isLazy, allowed, fun target listed =>
    wellFormed.suits_of_mem_candidates known (targets target listed)⟩

theorem wired_of_mem {wire : Wire} (member : wire ∈ model.wires.wires) :
    ∃ scope ∈ model.moduleIds, model.Wired scope wire := by
  obtain ⟨scope, known, resolved⟩ := wellFormed.mem_wires.mp member
  exact ⟨scope, known,
    wellFormed.wired_of_resolved known ((wellFormed.resolveModule_wire known).mpr resolved)⟩

/-- Where nothing is reported about the sockets of a scope, each of them has its
wire. -/
theorem exists_wire {scope : ModuleId} (known : scope ∈ model.moduleIds)
    (silent : (model.resolveModule scope).diagnostics = []) {id : SocketId}
    (inside : id ∈ model.socketIds) (wiring : model.wiringModule? id = some scope) :
    ∃ wire, model.wires.get? id = some wire ∧ model.Wired scope wire := by
  have entry := (wellFormed.mem_socketsResolvedIn known).mpr ⟨inside, wiring, rfl⟩
  cases resolved : model.resolve (model.index scope) (model.excludedFor id) id with
  | error failure =>
      have reported := mem_resolveModule_diagnostics.mpr ⟨_, entry, failure, resolved, rfl⟩
      rw [silent] at reported
      cases reported
  | ok wire =>
      have same := (resolve_ok resolved).1
      have member : wire ∈ model.wires.wires :=
        wellFormed.mem_wires.mpr ⟨scope, known, same.symm ▸ inside, same.symm ▸ wiring,
          same.symm ▸ resolved⟩
      refine ⟨wire, WireSet.get?_eq_some.mpr ⟨member, same⟩, ?_⟩
      obtain ⟨other, _, wired⟩ := wellFormed.wired_of_mem member
      have sameScope := wired.wiring
      rw [same, wiring] at sameScope
      cases sameScope
      exact wired

end WellFormed

end Model

end StaticInjection
