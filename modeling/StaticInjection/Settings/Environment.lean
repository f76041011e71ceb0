import StaticInjection.Decimal.Binary64
import StaticInjection.Settings.Json
import StaticInjection.Text.Case
import StaticInjection.Toml.Reader

namespace StaticInjection

/-! Settings from a file and, over it, from environment variables. Variables are mere text, so that
values of another kind are taken when they can be read as what is asked for. -/

open Json

namespace ScalarReading

def boolOfWord? (word : String) : Option Bool :=
  match Text.lowercase word with
  | "1" | "true" | "on" | "yes" => some true
  | "0" | "false" | "off" | "no" => some false
  | _ => none

def looseBool : Json → Option Bool
  | .bool value => some value
  | .integer value => some (value != 0)
  | .decimal literal => (Binary64.read? literal).map fun value => !value.isZero
  | .string (some word) => boolOfWord? word
  | _ => none

def countOfWord? (word : String) : Option Nat :=
  match Text.lowercase word with
  | "true" | "on" | "yes" => some 1
  | "false" | "off" | "no" => some 0
  | _ =>
    let digits := match word.toList with
      | '+' :: rest => rest
      | rest => rest
    (Decimal.readDigits? digits).bind fun number =>
      if number < countLimit then some number else none

def looseCount : Json → Option Nat
  | .bool value => some (if value then 1 else 0)
  | .decimal literal => (Binary64.read? literal).map (Binary64.toNatBelow countLimit)
  | .string (some word) => countOfWord? word
  | value => asNat countLimit value

def looseText : Json → Option String
  | .bool value => some (if value then "true" else "false")
  | .integer value => some (String.ofList (Token.integerText value))
  | .decimal literal => (Binary64.read? literal).map fun value => String.ofList value.text
  | .string content => content
  | _ => none

def loose : ScalarReading :=
  { bool := looseBool, count := looseCount, text := looseText }

end ScalarReading

/-! ## Environment variables -/

/-- Names with their values. -/
abbrev Environment := List (String × String)

namespace Environment

/-- What the names of all variables for settings begin with, in small letters. -/
def namePrefix : List Char := "wiring__".toList

/-- Two underscores stand between the keys of a path. -/
def separateKeys : List Char → List Char
  | '_' :: '_' :: rest => '.' :: separateKeys rest
  | character :: rest => character :: separateKeys rest
  | [] => []

/-- The path of the setting that a variable gives, if it gives one. -/
def path? (name : String) : Option (List String) :=
  let name := (Text.lowercase name).toList
  if namePrefix.isPrefixOf name then
    let keys := Text.pieces '.' (separateKeys (name.drop namePrefix.length))
    if keys.any (·.isEmpty) then none else some (keys.map String.ofList)
  else none

example : path? "WIRING__Logging__SHOW_FILE" = some ["logging", "show_file"] := by decide +kernel

/-- Integers have 64 bits, and have no fraction. -/
def integer? (text : String) : Option Int :=
  (Decimal.readInteger? text.toList).bind Toml.inRange?

def value (text : String) : Json :=
  match Text.lowercase text with
  | "true" => .bool true
  | "false" => .bool false
  | _ =>
    match integer? text, Binary64.read? text.toList with
    | some number, _ => .integer number
    | none, some _ => .decimal text.toList
    | none, none => .text text

/-- Put a value at a path. What stands on the way and has no fields is replaced. -/
def assign (value : Json) : List String → Json → Json
  | [], _ => value
  | key :: rest, target =>
    let fields := match target with
      | .object fields => fields
      | _ => []
    match fields.find? fun (name, _) => name == some key with
    | none => .object (fields ++ [(some key, assign value rest (.object []))])
    | some _ =>
      .object (fields.map fun (name, old) =>
        if name == some key then (name, assign value rest old) else (name, old))

/-- The settings of a file with those of the variables over them. -/
def override (environment : Environment) (file : Json) : Json :=
  environment.foldl (fun target (name, text) =>
    match path? name with
    | some path => assign (value text) path target
    | none => target) file

end Environment

namespace Settings

/-- Settings from what a file gives and from the environment. -/
def load (file : Json) (environment : Environment) : Except SettingsError Settings :=
  match Settings.ofJson? .loose (environment.override file) with
  | some settings => settings.check
  | none => .error .notLoaded

/-- As `load`, from the text of a TOML file, if there is a file. -/
def loadToml (text : Option String) (environment : Environment) : Except SettingsError Settings :=
  match text with
  | none => load (.object []) environment
  | some text =>
    match Toml.parse text with
    | some entries => load (.object (Toml.entriesJson entries)) environment
    | none => .error .notLoaded

end Settings

end StaticInjection
