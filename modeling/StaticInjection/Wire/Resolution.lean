import StaticInjection.Scope.CandidateIndex
import StaticInjection.Wire.Basic

namespace StaticInjection

/-! Choosing the providers that satisfy a socket. -/

inductive ResolutionFailure where
  /-- The declaration names a target that is no candidate. -/
  | unknownTarget (name : String)
  | noCandidate
  /-- Several candidates, and not exactly one default among them. -/
  | severalCandidates (candidates : List Provider)
deriving DecidableEq, Repr

namespace Model

/-- Whether a module socket of a child looks for something outside the child's subtree. -/
def isOutside (model : Model) (excluded : Option ModuleId) (provider : Provider) : Bool :=
  match excluded with
  | none => true
  | some root => !model.isWithin (model.providerModule provider) root

/-- The candidates for a socket in a scope: never its own bean, nothing inside the excluded subtree,
and nothing that may give another number of values than the socket takes. -/
def candidates (model : Model) (index : CandidateIndex) (excluded : Option ModuleId)
    (socket : Socket) : List Provider :=
  (index.lookup model socket.requiredType socket.qualifier).filter fun provider =>
    (match socket.owner with
      | .bean id => provider != .bean id
      | .module _ => true) &&
    model.isOutside excluded provider &&
    socket.multiplicity.accepts (model.providerCardinality provider)

/-- A declaration names a provider by its name or by its qualified name. -/
def isNamed (model : Model) (name : String) (provider : Provider) : Bool :=
  name == model.providerName provider || name == model.qualifiedName provider

/-- Keep the candidates that the declaration names, if it names any. -/
def restrict (model : Model) (names : List String) (candidates : List Provider) :
    Except ResolutionFailure (List Provider) :=
  if names.isEmpty then .ok candidates
  else
    match names.find? fun name => !candidates.any (model.isNamed name) with
    | some unknown => .error (.unknownTarget unknown)
    | none => .ok (candidates.filter fun provider => names.any (model.isNamed · provider))

/-- The only candidate, or the only default one among several. -/
def selectOne (model : Model) (candidates : List Provider) :
    Except ResolutionFailure (Option Provider) :=
  match candidates with
  | [] => .ok none
  | [only] => .ok (some only)
  | several =>
    match several.filter model.providerIsDefault with
    | [chosen] => .ok (some chosen)
    | _ => .error (.severalCandidates several)

def select (model : Model) (multiplicity : Multiplicity) (candidates : List Provider) :
    Except ResolutionFailure (List Provider) :=
  match multiplicity with
  | .collection => .ok candidates
  | .optional => (model.selectOne candidates).map Option.toList
  | .single =>
    match model.selectOne candidates with
    | .ok none => .error .noCandidate
    | .ok (some chosen) => .ok [chosen]
    | .error failure => .error failure

def resolve (model : Model) (index : CandidateIndex) (excluded : Option ModuleId) (id : SocketId) :
    Except ResolutionFailure Wire := do
  let socket := model.socket id
  let allowed ← model.restrict socket.wiredTo (model.candidates index excluded socket)
  let targets ← model.select socket.multiplicity allowed
  return { socket := id, targets, isLazy := socket.isLazy }

/-! ## Reporting -/

def qualifierNote (socket : Socket) : String :=
  match socket.qualifier with
  | none => ""
  | some qualifier => s!" (限定符 `{qualifier}`)"

def resolutionDiagnostic (model : Model) (scope : ModuleId) (id : SocketId)
    (failure : ResolutionFailure) : Diagnostic :=
  let socket := model.socket id
  let type := socket.requiredType.text
  let note := qualifierNote socket
  let location := model.socketLocation id
  match failure with
  | .unknownTarget name =>
    .invalid scope location s!"显式连线目标 `{name}` 不是 `{type}` 的可见候选"
  | .noCandidate =>
    { kind := .unsatisfiedDependency
      location
      message := s!"没有可满足 `{type}`{note} 的候选"
      scope := some scope }
  | .severalCandidates candidates =>
    let count := Nat.repr candidates.length
    { kind := .ambiguousDependency
      location
      message := s!"`{type}`{note} 有 {count} 个候选且没有唯一的默认候选"
      implicated := candidates.map model.qualifiedName
      scope := some scope }

/-! ## Whole modules -/

/-- The sockets that are resolved in a scope, with the subtree in which nothing may be found: those of
the module's beans, and the inputs of its children. -/
def socketsResolvedIn (model : Model) (scope : ModuleId) : List (SocketId × Option ModuleId) :=
  let module := model.module scope
  module.beans.flatMap (fun bean => (model.bean bean).sockets.map fun socket => (socket, none)) ++
  module.children.flatMap fun child =>
    (model.module child).sockets.map fun socket => (socket, some child)

end Model

/-- The outcome for the sockets of a scope, each in the order of the sockets. -/
structure Resolution where
  wires : List Wire
  diagnostics : List Diagnostic
deriving DecidableEq, Inhabited

namespace Model

/-- The results for the sockets of a scope, one for each. -/
def resolveScope (model : Model) (scope : ModuleId) : List (SocketId × Except ResolutionFailure Wire) :=
  let index := model.index scope
  (model.socketsResolvedIn scope).map fun (socket, excluded) =>
    (socket, model.resolve index excluded socket)

def resolveModule (model : Model) (scope : ModuleId) : Resolution :=
  let results := model.resolveScope scope
  { wires := results.filterMap fun (_, result) => result.toOption
    diagnostics := results.filterMap fun (socket, result) =>
      match result with
      | .ok _ => none
      | .error failure => some (model.resolutionDiagnostic scope socket failure) }

/-- The wires of all modules. -/
def wires (model : Model) : WireSet :=
  model.modules.foldl (fun set module => set.insertAll (model.resolveModule module.id).wires) .empty

end Model

end StaticInjection
