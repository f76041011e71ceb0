import StaticInjection.Proofs.Model.Arrangement
import StaticInjection.Proofs.Wire.Resolution

/-! # One answer for each socket

Every socket that is not an input of a root is resolved in one scope, and has one
answer there: a wire, or a diagnostic that blames the scope. So all wires are kept,
in whatever order they are collected. -/

namespace StaticInjection

namespace Model

/-- A socket belongs to a bean of the scope, or is an input of one of its children. -/
def ResolvedIn (model : Model) (scope : ModuleId) (id : SocketId) : Prop :=
  match (model.socket id).owner with
  | .bean bean => (model.bean bean).module = scope
  | .module module => model.parent module = some scope

/-- A diagnostic that says of a socket that it has no wire in a scope. -/
structure ReportsSocket (model : Model) (scope : ModuleId) (id : SocketId)
    (diagnostic : Diagnostic) : Prop where
  scope : diagnostic.scope = some scope
  location : diagnostic.location = model.socketLocation id
  kind : diagnostic.kind ∈ [.unsatisfiedDependency, .ambiguousDependency, .invalidDeclaration]

/-- Wires and diagnostics that answer some sockets of a scope in turn, one for each
socket and none besides. -/
inductive Answers (model : Model) (scope : ModuleId) :
    List SocketId → List Wire → List Diagnostic → Prop
  | nil : Answers model scope [] [] []
  | wire {wire : Wire} {sockets : List SocketId} {wires : List Wire}
      {diagnostics : List Diagnostic} (wired : model.Wired scope wire)
      (rest : Answers model scope sockets wires diagnostics) :
      Answers model scope (wire.socket :: sockets) (wire :: wires) diagnostics
  | missed {id : SocketId} {diagnostic : Diagnostic} {sockets : List SocketId}
      {wires : List Wire} {diagnostics : List Diagnostic}
      (reports : model.ReportsSocket scope id diagnostic)
      (rest : Answers model scope sockets wires diagnostics) :
      Answers model scope (id :: sockets) wires (diagnostic :: diagnostics)

/-- Whose sockets are resolved in a scope. -/
def ownersResolvedIn (model : Model) (scope : ModuleId) : List SocketOwner :=
  (model.module scope).beans.map .bean ++ (model.module scope).children.map .module

/-- The sockets resolved in a scope, in the order of their answers. -/
def socketsIn (model : Model) (scope : ModuleId) : List SocketId :=
  (model.ownersResolvedIn scope).flatMap model.socketsOf

variable {model : Model}

theorem resolvedIn_iff {scope : ModuleId} {id : SocketId} :
    model.ResolvedIn scope id ↔ model.wiringModule? id = some scope := by
  unfold ResolvedIn wiringModule?
  cases (model.socket id).owner with
  | bean bean => exact Option.some_inj.symm
  | module module => rfl

theorem resolutionDiagnostic_reports (scope : ModuleId) (id : SocketId)
    (failure : ResolutionFailure) :
    model.ReportsSocket scope id (model.resolutionDiagnostic scope id failure) := by
  cases failure <;> exact ⟨rfl, rfl, by simp [resolutionDiagnostic, Diagnostic.invalid]⟩

theorem resolveScope_sockets (scope : ModuleId) :
    (model.resolveScope scope).map (·.1) = model.socketsIn scope := by
  simp only [resolveScope, List.map_map, Function.comp_def, socketsResolvedIn, List.map_append,
    List.map_flatMap, socketsIn, ownersResolvedIn, List.flatMap_append, List.flatMap_map, socketsOf,
    List.map_id']

namespace WellFormed

variable (wellFormed : model.WellFormed)

include wellFormed

/-! ## The sockets of a scope -/

theorem ownersResolvedIn_known {scope : ModuleId} (known : scope ∈ model.moduleIds)
    {owner : SocketOwner} (listed : owner ∈ model.ownersResolvedIn scope) :
    owner ∈ model.owners := by
  rcases List.mem_append.mp listed with ofBean | ofChild
  · obtain ⟨bean, own, rfl⟩ := List.mem_map.mp ofBean
    exact List.mem_append_right _
      (List.mem_map_of_mem ((wellFormed.beans scope known bean).mp own).1)
  · obtain ⟨child, own, rfl⟩ := List.mem_map.mp ofChild
    exact List.mem_append_left _
      (List.mem_map_of_mem ((wellFormed.children scope known child).mp own).1)

theorem ownersResolvedIn_nodup {scope : ModuleId} (known : scope ∈ model.moduleIds) :
    (model.ownersResolvedIn scope).Nodup := by
  refine List.nodup_append.mpr ⟨?_, ?_, ?_⟩
  · exact (wellFormed.beans_placed scope known).nodup.map fun _ _ => SocketOwner.bean.inj
  · exact (wellFormed.children_nodup scope known).map fun _ _ => SocketOwner.module.inj
  · intro left ofBean right ofChild equal
    obtain ⟨_, _, rfl⟩ := List.mem_map.mp ofBean
    obtain ⟨_, _, rfl⟩ := List.mem_map.mp ofChild
    cases equal

/-- No owner lists a socket twice, and no two owners list the same one. -/
theorem socketsIn_nodup {scope : ModuleId} (known : scope ∈ model.moduleIds) :
    (model.socketsIn scope).Nodup := by
  have ownerKnown {owner : SocketOwner} (listed : owner ∈ model.ownersResolvedIn scope) :=
    wellFormed.ownersResolvedIn_known known listed
  refine List.nodup_flatMap.mpr ⟨fun owner listed =>
    (wellFormed.socketsOf_placed (ownerKnown listed)).nodup, ?_⟩
  refine (wellFormed.ownersResolvedIn_nodup known).imp_of_mem ?_
  intro left right leftListed rightListed different id inLeft inRight
  have leftOwner := ((wellFormed.mem_socketsOf (ownerKnown leftListed)).mp inLeft).2
  have rightOwner := ((wellFormed.mem_socketsOf (ownerKnown rightListed)).mp inRight).2
  exact different (leftOwner.symm.trans rightOwner)

theorem mem_socketsIn {scope : ModuleId} (known : scope ∈ model.moduleIds) {id : SocketId} :
    id ∈ model.socketsIn scope ↔ id ∈ model.socketIds ∧ model.ResolvedIn scope id := by
  rw [← resolveScope_sockets, resolveScope, List.map_map, resolvedIn_iff, List.mem_map]
  constructor
  · rintro ⟨⟨_, excluded⟩, listed, rfl⟩
    obtain ⟨inside, wiring, _⟩ := (wellFormed.mem_socketsResolvedIn known).mp listed
    exact ⟨inside, wiring⟩
  · rintro ⟨inside, wiring⟩
    exact ⟨_, (wellFormed.mem_socketsResolvedIn known).mpr ⟨inside, wiring, rfl⟩, rfl⟩

/-! ## The sockets of all scopes -/

theorem all_socketsIn_nodup : (model.moduleIds.flatMap model.socketsIn).Nodup := by
  refine List.nodup_flatMap.mpr ⟨fun scope known => wellFormed.socketsIn_nodup known, ?_⟩
  refine wellFormed.moduleIds_nodup.imp_of_mem ?_
  intro left right leftKnown rightKnown different id inLeft inRight
  have leftScope := resolvedIn_iff.mp ((wellFormed.mem_socketsIn leftKnown).mp inLeft).2
  have rightScope := resolvedIn_iff.mp ((wellFormed.mem_socketsIn rightKnown).mp inRight).2
  rw [leftScope] at rightScope
  exact different (Option.some.inj rightScope)

/-- Only the inputs of roots are resolved nowhere. -/
theorem mem_all_socketsIn {id : SocketId} : id ∈ model.moduleIds.flatMap model.socketsIn ↔
    id ∈ model.socketIds ∧ ∀ module, (model.socket id).owner = .module module →
      module ∉ model.roots := by
  rw [List.mem_flatMap]
  constructor
  · rintro ⟨scope, known, listed⟩
    obtain ⟨inside, resolved⟩ := (wellFormed.mem_socketsIn known).mp listed
    refine ⟨inside, fun module owned isRoot => ?_⟩
    rw [ResolvedIn, owned] at resolved
    simp only [((wellFormed.roots module).mp isRoot).2] at resolved
    cases resolved
  · rintro ⟨inside, notRoot⟩
    cases owned : (model.socket id).owner with
    | bean bean =>
        have beanKnown := (wellFormed.owner_bean id inside bean owned).1
        have known := wellFormed.bean_module bean beanKnown
        refine ⟨_, known, (wellFormed.mem_socketsIn known).mpr ⟨inside, ?_⟩⟩
        rw [ResolvedIn, owned]
    | module module =>
        have moduleKnown := (wellFormed.owner_module id inside module owned).1
        cases above : model.parent module with
        | none =>
            exact absurd ((wellFormed.roots module).mpr ⟨moduleKnown, above⟩)
              (notRoot module owned)
        | some scope =>
            have known := (wellFormed.parent_before module moduleKnown scope above).1
            refine ⟨scope, known, (wellFormed.mem_socketsIn known).mpr ⟨inside, ?_⟩⟩
            rw [ResolvedIn, owned]
            exact above

/-! ## Answers -/

/-- A scope answers its sockets in turn. -/
theorem resolveModule_answers {scope : ModuleId} (known : scope ∈ model.moduleIds) :
    model.Answers scope (model.socketsIn scope) (model.resolveModule scope).wires
      (model.resolveModule scope).diagnostics := by
  have wired : ∀ entry ∈ model.resolveScope scope, ∀ wire, entry.2 = .ok wire →
      entry.1 = wire.socket ∧ model.Wired scope wire := by
    intro entry listed wire found
    obtain ⟨⟨id, excluded⟩, inside, rfl⟩ := List.mem_map.mp listed
    exact ⟨(resolve_ok found).1.symm, wellFormed.wired_of_resolved known
      (mem_resolveModule_wires.mpr ⟨(id, excluded), inside, found⟩)⟩
  rw [← resolveScope_sockets]
  unfold resolveModule
  generalize model.resolveScope scope = results at wired
  induction results with
  | nil => exact .nil
  | cons entry rest induction =>
      obtain ⟨id, result⟩ := entry
      have answers := induction fun other listed => wired other (List.mem_cons_of_mem _ listed)
      cases result with
      | ok wire =>
          obtain ⟨same, isWired⟩ := wired _ List.mem_cons_self wire rfl
          rw [List.map_cons, show id = wire.socket from same]
          exact .wire isWired answers
      | error failure => exact .missed (resolutionDiagnostic_reports scope id failure) answers

end WellFormed

end Model

/-- The scopes of an application answer each socket once, in its own scope, but for the
inputs of roots, which have no answer. The wires make one set, with all of them in it,
in whatever order they or the scopes come. -/
theorem sockets_answered_once (declarations : List ModuleDeclaration) :
    let model := Model.ofDeclarations declarations
    ∃ sockets : ModuleId → List SocketId,
      (∀ scope ∈ model.moduleIds, model.Answers scope (sockets scope)
        (model.resolveModule scope).wires (model.resolveModule scope).diagnostics) ∧
      (∀ scope ∈ model.moduleIds, ∀ id, id ∈ sockets scope ↔
        id ∈ model.socketIds ∧ model.ResolvedIn scope id) ∧
      (model.moduleIds.flatMap sockets).Nodup ∧
      (∀ id, id ∈ model.moduleIds.flatMap sockets ↔
        id ∈ model.socketIds ∧ ∀ module, (model.socket id).owner = .module module →
          module ∉ model.roots) ∧
      (∀ id wire, model.wires.get? id = some wire ↔
        ∃ scope ∈ model.moduleIds, wire ∈ (model.resolveModule scope).wires ∧
          wire.socket = id) ∧
      (∀ wires : List Wire,
        wires.Perm (model.moduleIds.flatMap fun scope => (model.resolveModule scope).wires) →
          WireSet.empty.insertAll wires = model.wires) ∧
      ∀ order : List ModuleId, order.Perm model.moduleIds →
        order.foldl (fun set scope => set.insertAll (model.resolveModule scope).wires) .empty =
          model.wires := by
  intro model
  have wellFormed : model.WellFormed := Model.ofDeclarations_wellFormed declarations
  have collected : ∀ wires : List Wire,
      wires.Perm (model.moduleIds.flatMap fun scope => (model.resolveModule scope).wires) →
        WireSet.empty.insertAll wires = model.wires := by
    intro wires perm
    refine wellFormed.insertAll_eq_wires fun wire => ?_
    rw [perm.mem_iff, Model.moduleIds, List.flatMap_map]
  refine ⟨model.socketsIn, fun _ known => wellFormed.resolveModule_answers known,
    fun _ known _ => wellFormed.mem_socketsIn known, wellFormed.all_socketsIn_nodup,
    fun _ => wellFormed.mem_all_socketsIn, ?_, collected, ?_⟩
  · intro id wire
    rw [WireSet.get?_eq_some, wellFormed.mem_wires]
    constructor
    · rintro ⟨⟨scope, known, resolved⟩, rfl⟩
      exact ⟨scope, known, (wellFormed.resolveModule_wire known).mpr resolved, rfl⟩
    · rintro ⟨scope, known, member, rfl⟩
      exact ⟨⟨scope, known, (wellFormed.resolveModule_wire known).mp member⟩, rfl⟩
  · intro order perm
    rw [WireSet.foldl_insertAll]
    exact collected _ (perm.flatMap_right _)

end StaticInjection
