import StaticInjection.Json.Reader
import StaticInjection.Settings.Environment

namespace StaticInjection

/-! Files with settings. What they hold is known by the ends of their names. -/

inductive SettingsFormat where
  | toml
  | json
deriving DecidableEq, Repr

namespace SettingsFormat

def all : List SettingsFormat :=
  [toml, json]

def ending : SettingsFormat → String
  | toml => "toml"
  | json => "json"

/-- The format of a file by what follows the last point of its name. -/
def ofPath? (path : String) : Option SettingsFormat :=
  let name := ((Text.pieces '/' path.toList).getLast?).getD []
  match Text.pieces '.' name with
  | [_] | [[], _] => none
  | parts => all.find? fun format => some format.ending.toList == parts.getLast?

example : ofPath? "/etc/a.b/wiring.toml" = some .toml ∧ ofPath? "/etc/a.toml/wiring" = none := by
  decide +kernel

def read? (format : SettingsFormat) (text : String) : Option Json :=
  match format with
  | toml => (Toml.parse text).map fun entries => .object (Toml.entriesJson entries)
  | json =>
    match Json.parse text with
    | some (.object fields) => some (.object fields)
    | _ => none

end SettingsFormat

namespace Settings

/-- Where settings are looked for when a path is given. -/
def candidates (path : String) : List String :=
  path :: SettingsFormat.all.map fun format => path ++ "." ++ format.ending

/-- The settings of a file that was found. -/
def loadFile (path text : String) (environment : Environment) : Except SettingsError Settings :=
  match (SettingsFormat.ofPath? path).bind (·.read? text) with
  | some file => load file environment
  | none => .error .notLoaded

end Settings

end StaticInjection
