import StaticInjection.Settings.Json
import StaticInjection.Text.Digits
import StaticInjection.Toml.Reader

namespace StaticInjection

/-! Settings as TOML. -/

namespace Toml

def escape (character : Char) : List Char :=
  match character with
  | '\"' => ['\\', '\"']
  | '\\' => ['\\', '\\']
  | '\x08' => ['\\', 'b']
  | '\t' => ['\\', 't']
  | '\n' => ['\\', 'n']
  | '\x0c' => ['\\', 'f']
  | '\r' => ['\\', 'r']
  | other =>
    if isPlain other then [other]
    else '\\' :: 'u' :: Text.padDigits 16 4 other.toNat

def textLine (key value : String) : String :=
  key ++ " = \"" ++ String.ofList (value.toList.flatMap escape) ++ "\"\n"

def boolLine (key : String) (value : Bool) : String :=
  key ++ " = " ++ (if value then "true" else "false") ++ "\n"

def countLine (key : String) (value : Nat) : String :=
  key ++ " = " ++ Nat.repr value ++ "\n"

end Toml

open Toml

namespace LoggingSettings

def tomlLines (logging : LoggingSettings) : List String :=
  [textLine "level" logging.level] ++
  logging.filter.toList.map (textLine "filter") ++
  [boolLine "show_target" logging.showTarget,
    boolLine "show_thread_ids" logging.showThreadIds,
    boolLine "show_file" logging.showFile,
    boolLine "show_line_number" logging.showLineNumber,
    boolLine "json_format" logging.jsonFormat]

end LoggingSettings

namespace Settings

def toToml (settings : Settings) : String :=
  String.join (
    [countLine "max_parallel_modules" settings.maxParallel,
      boolLine "emit_descriptors" settings.emitDescriptors,
      textLine "header" settings.header,
      boolLine "fail_on_diagnostics" settings.failOnDiagnostics,
      "\n[logging]\n"] ++
    settings.logging.tomlLines)

def ofToml (text : String) : Except SettingsError Settings :=
  match (Toml.parse text).bind fun entries =>
    Settings.ofJson? .strict (.object (entriesJson entries)) with
  | some settings => settings.check
  | none => .error .malformed

end Settings

end StaticInjection
