import StaticInjection.Order.Bisection
import StaticInjection.Scope.Visibility
import StaticInjection.Text.Quoted

namespace StaticInjection

/-! Candidates for sockets. No two candidates of an index have the same declared type and the same
qualifier. -/

/-- What may be registered only once. -/
abbrev CandidateKey := TypeName × Option Qualifier

namespace Model

def candidateKey (model : Model) (provider : Provider) : CandidateKey :=
  (model.providerType provider, model.providerQualifier provider)

/-- The order of candidates. -/
def precedes (model : Model) (left right : Provider) : Bool :=
  PlacedProvider.isBefore (model.providerModule left, left) (model.providerModule right, right)

end Model

/-- A provider that was refused, with the one that holds its key. -/
structure DuplicateProvider where
  key : CandidateKey
  existing : Provider
  duplicate : Provider
deriving DecidableEq

namespace DuplicateProvider

def providerText : Provider → String
  | .bean id => "Bean(BeanId(" ++ Nat.repr id.index ++ "))"
  | .socket id => "Socket(SocketId(" ++ Nat.repr id.index ++ "))"

def qualifierText : Option Qualifier → String
  | none => "None"
  | some qualifier => "Some(Qualifier(" ++ Text.quote qualifier ++ "))"

def message (refused : DuplicateProvider) : String :=
  let type := refused.key.1.text
  let qualifier := qualifierText refused.key.2
  let existing := providerText refused.existing
  s!"重复的提供者: ({type}, {qualifier}) 已由 {existing} 注册"

end DuplicateProvider

/-- The candidates of one scope. -/
structure CandidateIndex where
  /-- Which provider holds a key, the latest first. -/
  holders : List (CandidateKey × Provider)
  /-- The candidates for each type, in the order of candidates. -/
  byType : List (TypeName × List Provider)
deriving DecidableEq, Inhabited

namespace CandidateIndex

def empty : CandidateIndex := ⟨[], []⟩

def size (index : CandidateIndex) : Nat :=
  index.holders.length

/-- Put a candidate behind those that precede it. -/
def insertCandidate (model : Model) (provider : Provider) (entries : List Provider) :
    List Provider :=
  entries.insertIdx (partitionPoint (model.precedes · provider) entries) provider

/-- Enter a candidate for one type. -/
def enter (model : Model) (provider : Provider) (type : TypeName) :
    List (TypeName × List Provider) → List (TypeName × List Provider)
  | [] => [(type, insertCandidate model provider [])]
  | (other, entries) :: rest =>
    if other == type then (other, insertCandidate model provider entries) :: rest
    else (other, entries) :: enter model provider type rest

/-- Hold a provider under its key, and enter it for each of its types. -/
def add (model : Model) (index : CandidateIndex) (provider : Provider) : CandidateIndex where
  holders := (model.candidateKey provider, provider) :: index.holders
  byType := (model.providedTypes provider).foldl
    (fun byType type => enter model provider type byType) index.byType

def register (model : Model) (index : CandidateIndex) (provider : Provider) :
    Except DuplicateProvider CandidateIndex :=
  let key := model.candidateKey provider
  match index.holders.lookup key with
  | some existing => .error { key, existing, duplicate := provider }
  | none => .ok (index.add model provider)

/-- Register providers one after the other, and collect those that are refused. -/
def registerAll (model : Model) (index : CandidateIndex) :
    List Provider → CandidateIndex × List DuplicateProvider
  | [] => (index, [])
  | provider :: rest =>
    match register model index provider with
    | .ok larger => registerAll model larger rest
    | .error refused =>
      let (final, others) := registerAll model index rest
      (final, refused :: others)

/-- The candidates for a type. -/
def entries (index : CandidateIndex) (type : TypeName) : List Provider :=
  (index.byType.lookup type).getD []

/-- The candidates that can be assigned to a type and pass a filter. -/
def lookup (model : Model) (index : CandidateIndex) (type : TypeName) (filter : Option Qualifier) :
    List Provider :=
  (index.entries type).filter fun provider =>
    Qualifier.admits filter (model.providerQualifier provider)

end CandidateIndex

namespace Model

def scopeEntries (model : Model) (scope : ModuleId) : CandidateIndex × List DuplicateProvider :=
  CandidateIndex.empty.registerAll model (model.visible scope)

def index (model : Model) (scope : ModuleId) : CandidateIndex :=
  (model.scopeEntries scope).1

/-- The duplicate is located only in its own module; elsewhere the scope is to blame. -/
def duplicateDiagnostic (model : Model) (scope : ModuleId) (refused : DuplicateProvider) :
    Diagnostic :=
  let path := model.path scope
  let existing := model.qualifiedName refused.existing
  let duplicate := model.qualifiedName refused.duplicate
  let type := refused.key.1.text
  let qualifier := match refused.key.2 with
    | none => "无"
    | some name => s!"`{name}`"
  { kind := .duplicateBean
    location :=
      if model.providerModule refused.duplicate = scope then
        model.providerLocation refused.duplicate
      else { module := path }
    message :=
      s!"`{duplicate}` 与 `{existing}` 在模块 `{path}` 的可见范围内提供了相同的 (类型, 限定符): (`{type}`, {qualifier})"
    implicated := [existing, duplicate]
    scope := some scope }

def duplicateReports (model : Model) (scope : ModuleId) : List Diagnostic :=
  (model.scopeEntries scope).2.map (model.duplicateDiagnostic scope)

/-- The duplicates of all scopes. -/
def duplicates (model : Model) : List Diagnostic :=
  model.modules.flatMap fun module => model.duplicateReports module.id

end Model

end StaticInjection
