import StaticInjection.Build.Basic
import StaticInjection.Build.BuildId
import StaticInjection.Build.Instant

namespace StaticInjection

/-! What is told about a build. -/

structure BuildReport where
  id : BuildId
  start : Instant
  finish : Instant
  diagnostics : List Diagnostic
  outcomes : List ModuleOutcome
deriving Inhabited

namespace Build

def report (build : Build) (id : BuildId) (start finish : Instant) : BuildReport :=
  { id, start, finish, diagnostics := build.diagnostics, outcomes := build.outcomes }

end Build

namespace BuildReport

def isSuccess (report : BuildReport) : Bool :=
  report.diagnostics.isEmpty

def count (report : BuildReport) (outcome : Outcome) : Nat :=
  report.outcomes.countP (·.outcome == outcome)

/-- The outcome of the first module with a path. -/
def outcome? (report : BuildReport) (path : String) : Option Outcome :=
  (report.outcomes.find? (·.path == path)).map (·.outcome)

def ofKind (report : BuildReport) (kind : DiagnosticKind) : List Diagnostic :=
  report.diagnostics.filter (·.kind == kind)

def milliseconds (report : BuildReport) : Int :=
  report.start.millisecondsUntil report.finish

def summary (report : BuildReport) : String :=
  let id := report.id.text
  let emitted := Nat.repr (report.count .emitted)
  let failed := Nat.repr (report.count .failed)
  let skipped := Nat.repr (report.count .skipped)
  let count := Nat.repr report.diagnostics.length
  s!"构建 {id}: {emitted} 个模块已生成, {failed} 个失败, {skipped} 个因上游失败跳过, {count} 条诊断\n"

/-- A summary, then one line for each diagnostic. -/
def text (report : BuildReport) : String :=
  report.summary ++ Diagnostic.lines report.diagnostics

def toJson (report : BuildReport) : Json :=
  .record [
    ("build_id", .text report.id.text),
    ("started_at", .text report.start.text),
    ("finished_at", .text report.finish.text),
    ("diagnostics", Diagnostic.listJson report.diagnostics),
    ("modules", .array (report.outcomes.map (·.toJson)))]

def jsonText (report : BuildReport) : String :=
  report.toJson.pretty

end BuildReport

end StaticInjection
