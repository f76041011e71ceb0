import StaticInjection.Emission.Artifact
import StaticInjection.Text.Blank

namespace StaticInjection

/-! What a build can be told besides the declarations. -/

structure LoggingSettings where
  level : String := "info"
  /-- Directives that take the place of the level. -/
  filter : Option String := none
  showTarget : Bool := true
  showThreadIds : Bool := false
  showFile : Bool := false
  showLineNumber : Bool := false
  jsonFormat : Bool := false
deriving DecidableEq, Repr, Inhabited

namespace LoggingSettings

/-- Everything that helps while the declarations are being written. -/
def development : LoggingSettings :=
  { level := "debug", showThreadIds := true, showFile := true, showLineNumber := true }

/-- Lines for other programs. -/
def production : LoggingSettings :=
  { showTarget := false, jsonFormat := true }

def directives (logging : LoggingSettings) : String :=
  logging.filter.getD logging.level

end LoggingSettings

structure Settings where
  /-- How many modules are handled at the same time at most. -/
  maxParallel : Nat := 4
  emitDescriptors : Bool := true
  header : String := defaultHeader
  /-- Whether a build with diagnostics counts as failed on the command line. -/
  failOnDiagnostics : Bool := true
  logging : LoggingSettings := {}
deriving DecidableEq, Repr, Inhabited

/-- Why settings are refused. -/
inductive SettingsError where
  /-- The file is missing or is not what it should be, or a value has the wrong kind. -/
  | notLoaded
  | malformed
  | invalid (key reason : String)
deriving DecidableEq, Repr

def SettingsError.message : SettingsError → String
  | notLoaded => "配置加载失败"
  | malformed => "TOML 解析失败"
  | invalid key reason => s!"配置值无效: {key}, 原因: {reason}"

namespace Settings

def check (settings : Settings) : Except SettingsError Settings :=
  if settings.maxParallel = 0 then .error (.invalid "max_parallel_modules" "必须大于 0")
  else if settings.logging.directives.toList.all Text.isBlank then
    .error (.invalid "logging.level" "不能为空")
  else .ok settings

/-- Another level takes the place of any filter. -/
def withLevel (settings : Settings) (level : String) : Settings :=
  { settings with logging := { settings.logging with level, filter := none } }

end Settings

end StaticInjection
