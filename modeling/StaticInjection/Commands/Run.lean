import StaticInjection.Build.Report
import StaticInjection.Commands.Arguments
import StaticInjection.Commands.Help
import StaticInjection.Declaration.Source
import StaticInjection.Output.Directory
import StaticInjection.Settings.File
import StaticInjection.Settings.LogFilter
import StaticInjection.Settings.Toml

namespace StaticInjection.Commands

/-! Running a command. The world that it runs in is a record of operations. -/

structure World (m : Type → Type) extends FileAccess m where
  read : String → m (Except FileFault String)
  environment : m Environment
  newBuildId : m BuildId
  now : m Instant

/-- How a command ends: its exit status, and what it writes to both outputs. -/
structure Conclusion where
  status : UInt8
  output : String := ""
  problem : String := ""
deriving DecidableEq, Repr

namespace Conclusion

def failed (problem : String) : Conclusion :=
  { status := 1, problem }

def ofRefusal : Refusal → Conclusion
  | .usage => { status := 2, problem := overview }
  | .help command => { status := 0, output := helpText command }
  | .version => { status := 0, output := versionText }

/-- Diagnostics make a command fail when the settings say so. -/
def ofReport (settings : Settings) (json : Bool) (report : BuildReport) : Conclusion :=
  { status := if !report.isSuccess && settings.failOnDiagnostics then 1 else 0
    output := if json then report.jsonText ++ "\n" else report.text }

end Conclusion

variable {m : Type → Type} [Monad m]

/-! ## Settings -/

/-- The first of some files that there is. -/
def firstFile (world : World m) : List String → m (Option (String × String))
  | [] => return none
  | path :: rest => do
    match ← world.read path with
    | .ok text => return some (path, text)
    | .error .notText => return none
    | .error _ => firstFile world rest

def loadSettings (world : World m) (config : Option String) :
    m (Except SettingsError Settings) := do
  let environment ← world.environment
  match config with
  | none => return Settings.load (.object []) environment
  | some path =>
    match ← firstFile world (Settings.candidates path) with
    | none => return .error .notLoaded
    | some (path, text) => return Settings.loadFile path text environment

/-- Settings that a build can be started with. -/
def startable (settings : Settings) : Except Failure Settings :=
  match settings.check with
  | .error error => .error (.settings error.message)
  | .ok settings =>
    let directives := settings.logging.directives
    if LogFilter.isValid directives then .ok settings
    else .error (.logging s!"过滤指令 `{directives}` 无效")

/-! ## Builds -/

/-- Build what a file declares, and hand the build with its report on. -/
def buildFile (world : World m) (settings : Settings) (input : String)
    (next : Build → BuildReport → m Conclusion) : m Conclusion := do
  let content ← world.read input
  match (DocumentSource.file input).load fun _ => content with
  | .error failure => return .failed failure.message
  | .ok document =>
    let id ← world.newBuildId
    let start ← world.now
    let build := Build.ofDeclarations document.modules settings.header
    let finish ← world.now
    next build (build.report id start finish)

def runCommand (world : World m) (settings : Settings) : Command → m Conclusion
  | .printConfig => return { status := 0, output := settings.toToml }
  | .check input json => do
    match startable settings with
    | .error failure => return .failed failure.message
    | .ok settings => buildFile world settings input fun _ report => return .ofReport settings json report
  | .compile input out json => do
    match startable settings with
    | .error failure => return .failed failure.message
    | .ok settings =>
      buildFile world settings input fun build report => do
        let actions := build.actions settings.emitDescriptors
        match ← OutputAction.performAll world.toFileAccess out actions with
        | some failure => return .failed failure.message
        | none => return .ofReport settings json report

def run (world : World m) (arguments : List String) : m Conclusion := do
  match parse arguments with
  | .error refusal => return .ofRefusal refusal
  | .ok arguments =>
    match ← loadSettings world arguments.config with
    | .error error => return .failed error.message
    | .ok settings =>
      let settings := match arguments.logLevel with
        | none => settings
        | some level => settings.withLevel level
      runCommand world settings arguments.command

end StaticInjection.Commands
