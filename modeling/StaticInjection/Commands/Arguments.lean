namespace StaticInjection.Commands

/-! The arguments of a command line. -/

inductive Command where
  | compile (input out : String) (json : Bool)
  | check (input : String) (json : Bool)
  | printConfig
deriving DecidableEq, Repr

structure Arguments where
  config : Option String
  logLevel : Option String
  command : Command
deriving DecidableEq, Repr

/-- Why no command is run. -/
inductive Refusal where
  | usage
  /-- What a command does is asked for, or what commands there are. -/
  | help (command : Option String)
  | version
deriving DecidableEq, Repr

/-! ## Options -/

inductive OptionValue where
  | flag
  | text
  /-- Paths are not empty. -/
  | path
deriving DecidableEq

structure OptionForm where
  name : String
  letter : Option Char := none
  value : OptionValue

/-- These stand before the name of a command or after it. -/
def globalForms : List OptionForm :=
  [{ name := "config", letter := some 'c', value := .path }, { name := "log-level", value := .text }]

def inputForm : OptionForm :=
  { name := "input", letter := some 'i', value := .path }

def outForm : OptionForm :=
  { name := "out", letter := some 'o', value := .path }

def jsonForm : OptionForm :=
  { name := "json", value := .flag }

/-- What an argument is by its first characters. -/
inductive Shape where
  | word
  /-- Nothing after two dashes is an option. -/
  | dashes
  | long (name : String) (attached : Option String)
  | letter (name : Char) (attached : Option String)

def shape (argument : String) : Shape :=
  match argument.toList with
  | ['-', '-'] => .dashes
  | '-' :: '-' :: text =>
    let name := String.ofList (text.takeWhile (· ≠ '='))
    match text.dropWhile (· ≠ '=') with
    | [] => .long name none
    | _ :: value => .long name (some (String.ofList value))
  | '-' :: name :: '=' :: value => .letter name (some (String.ofList value))
  | ['-', name] => .letter name none
  | '-' :: name :: value => .letter name (some (String.ofList value))
  | _ => .word

def isWord (argument : String) : Bool :=
  match shape argument with
  | .word => true
  | _ => false

/-- The values of options by name. Flags have an empty one. -/
abbrev Found := List (String × String)

namespace OptionForm

/-- No option is given twice. -/
def add (form : OptionForm) (found : Found) (value : String) : Except Refusal Found :=
  if (found.lookup form.name).isSome || (form.value = .path && value = "") then .error .usage
  else .ok (found ++ [(form.name, value)])

end OptionForm

/-- The option that is meant, and the value attached to it. Help is an option everywhere. -/
def find (forms : List OptionForm) (command : Option String) :
    Shape → Except Refusal (OptionForm × Option String)
  | .long "help" none => .error (.help command)
  | .letter 'h' _ => .error (.help command)
  | .long "version" none => .error (if command.isNone then .version else .usage)
  | .letter 'V' _ => .error (if command.isNone then .version else .usage)
  | .long name attached =>
    match forms.find? (·.name == name) with
    | some form => .ok (form, attached)
    | none => .error .usage
  | .letter name attached =>
    match forms.find? (·.letter == some name) with
    | some form => .ok (form, attached)
    | none => .error .usage
  | _ => .error .usage

/-- Options up to the first word, and the arguments from there on. -/
def readOptions (forms : List OptionForm) (command : Option String) :
    Found → List String → Except Refusal (Found × List String)
  | found, [] => .ok (found, [])
  | found, argument :: rest =>
    match shape argument with
    | .word => .ok (found, argument :: rest)
    | .dashes => if rest.isEmpty then .ok (found, []) else .error .usage
    | option => do
      let (form, attached) ← find forms command option
      match form.value, attached, rest with
      | .flag, none, rest => readOptions forms command (← form.add found "") rest
      | .flag, some _, _ => .error .usage
      | _, some value, rest => readOptions forms command (← form.add found value) rest
      | _, none, value :: rest =>
        if isWord value then readOptions forms command (← form.add found value) rest
        else .error .usage
      | _, none, [] => .error .usage

/-! ## Commands -/

def require (found : Found) (name : String) : Except Refusal String :=
  match found.lookup name with
  | some value => .ok value
  | none => .error .usage

/-- The options of a command, and how they make it up. -/
def commandForms? : String → Option (List OptionForm × (Found → Except Refusal Command))
  | "compile" => some ([inputForm, outForm, jsonForm], fun found => do
    let input ← require found "input"
    let out ← require found "out"
    return .compile input out (found.lookup "json").isSome)
  | "check" => some ([inputForm, jsonForm], fun found => do
    let input ← require found "input"
    return .check input (found.lookup "json").isSome)
  | "print-config" => some ([], fun _ => .ok .printConfig)
  | _ => none

def helpTopic : List String → Refusal
  | [] => .help none
  | [name] => if (commandForms? name).isSome then .help (some name) else .usage
  | _ => .usage

/-- An option after the name of the command wins over the same one before it. -/
def parse (arguments : List String) : Except Refusal Arguments := do
  let (before, rest) ← readOptions globalForms none [] arguments
  match rest with
  | [] => .error .usage
  | "help" :: topic => .error (helpTopic topic)
  | name :: rest =>
    match commandForms? name with
    | none => .error .usage
    | some (forms, make) =>
      let (found, rest) ← readOptions (forms ++ globalForms) (some name) [] rest
      if !rest.isEmpty then .error .usage
      else
        let either (option : String) := (found.lookup option).or (before.lookup option)
        return { config := either "config", logLevel := either "log-level", command := ← make found }

end StaticInjection.Commands
