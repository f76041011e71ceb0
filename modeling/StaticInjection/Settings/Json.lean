import StaticInjection.Json.Record
import StaticInjection.Settings.Basic

namespace StaticInjection

/-! Settings as JSON. A field that is missing takes its default. -/

open Json

/-- How single values are read. -/
structure ScalarReading where
  bool : Json → Option Bool
  count : Json → Option Nat
  text : Json → Option String

/-- Counts have 64 bits. -/
def countLimit : Nat := UInt64.size

/-- Every value has the kind that is asked for. -/
def ScalarReading.strict : ScalarReading :=
  { bool := asBool, count := asNat countLimit, text := asText }

namespace LoggingSettings

def fieldNames : List String :=
  ["level", "filter", "show_target", "show_thread_ids", "show_file", "show_line_number",
    "json_format"]

def toJson (logging : LoggingSettings) : Json :=
  .record (
    [("level", .text logging.level)] ++
    optionalField "filter" (logging.filter.map .text) ++
    [("show_target", .bool logging.showTarget),
      ("show_thread_ids", .bool logging.showThreadIds),
      ("show_file", .bool logging.showFile),
      ("show_line_number", .bool logging.showLineNumber),
      ("json_format", .bool logging.jsonFormat)])

def ofJson? (scalars : ScalarReading) (value : Json) : Option LoggingSettings := do
  let defaults : LoggingSettings := {}
  let record ← asRecord fieldNames value
  let level ← record.get "level" defaults.level scalars.text
  let filter ← record.getOption "filter" scalars.text
  let showTarget ← record.get "show_target" defaults.showTarget scalars.bool
  let showThreadIds ← record.get "show_thread_ids" defaults.showThreadIds scalars.bool
  let showFile ← record.get "show_file" defaults.showFile scalars.bool
  let showLineNumber ← record.get "show_line_number" defaults.showLineNumber scalars.bool
  let jsonFormat ← record.get "json_format" defaults.jsonFormat scalars.bool
  return { level, filter, showTarget, showThreadIds, showFile, showLineNumber, jsonFormat }

end LoggingSettings

namespace Settings

def fieldNames : List String :=
  ["max_parallel_modules", "emit_descriptors", "header", "fail_on_diagnostics", "logging"]

def toJson (settings : Settings) : Json :=
  .record [
    ("max_parallel_modules", .number settings.maxParallel),
    ("emit_descriptors", .bool settings.emitDescriptors),
    ("header", .text settings.header),
    ("fail_on_diagnostics", .bool settings.failOnDiagnostics),
    ("logging", settings.logging.toJson)]

def ofJson? (scalars : ScalarReading) (value : Json) : Option Settings := do
  let defaults : Settings := {}
  let record ← asRecord fieldNames value
  let maxParallel ← record.get "max_parallel_modules" defaults.maxParallel scalars.count
  let emitDescriptors ← record.get "emit_descriptors" defaults.emitDescriptors scalars.bool
  let header ← record.get "header" defaults.header scalars.text
  let failOnDiagnostics ← record.get "fail_on_diagnostics" defaults.failOnDiagnostics scalars.bool
  let logging ← record.get "logging" defaults.logging (LoggingSettings.ofJson? scalars)
  return { maxParallel, emitDescriptors, header, failOnDiagnostics, logging }

end Settings

end StaticInjection
