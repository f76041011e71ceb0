import StaticInjection.Json.Record

namespace StaticInjection

/-! What a build makes of each module. -/

inductive Outcome where
  | emitted
  /-- The module has an error of its own. -/
  | failed
  /-- The module needs one that failed. -/
  | skipped
deriving DecidableEq, Repr, Inhabited

namespace Outcome

def all : List Outcome :=
  [emitted, failed, skipped]

def word : Outcome → String
  | emitted => "emitted"
  | failed => "failed"
  | skipped => "upstream_failed"

def ofWord? (word : String) : Option Outcome :=
  all.find? (·.word == word)

end Outcome

structure ModuleOutcome where
  path : String
  outcome : Outcome
deriving DecidableEq, Repr, Inhabited

open Json

namespace ModuleOutcome

def fieldNames : List String := ["module", "outcome"]

def toJson (entry : ModuleOutcome) : Json :=
  .record [("module", .text entry.path), ("outcome", .text entry.outcome.word)]

def ofJson? (depth : Nat) (value : Json) : Option ModuleOutcome := do
  let (record, depth) ← enter fieldNames depth value
  let path ← record.require "module" asText
  let outcome ← record.require "outcome" (asWord Outcome.ofWord? depth)
  return { path, outcome }

end ModuleOutcome

end StaticInjection
