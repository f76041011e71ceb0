import StaticInjection.Grammar.Token
import StaticInjection.Text.Split

namespace StaticInjection.LogFilter

/-! Directives for a log: which targets are shown, and from which level on. -/

def levels : List String :=
  ["trace", "debug", "info", "warn", "error", "off", "0", "1", "2", "3", "4", "5"]

/-- Levels are words in letters of any case, or digits. -/
def isLevel (text : List Char) : Bool :=
  levels.contains (String.ofList (text.map Char.toLower))

def isTargetCharacter (character : Char) : Bool :=
  Grammar.isFollowing character || character = ':' || character = '-'

/-- What follows a name of a target or a span in brackets at the front. -/
def afterTarget? : List Char → Option (List Char)
  | [] => none
  | '[' :: rest =>
    match rest.dropWhile (· ≠ ']') with
    | ']' :: after => some after
    | _ => none
  | character :: rest =>
    if isTargetCharacter character then some (rest.dropWhile isTargetCharacter) else none

/-- A level, or a target and a span in any order, of which one may be missing, and then a level or
nothing behind an equals sign. -/
def isDirective (text : List Char) : Bool :=
  let endsWell (rest : List Char) : Bool :=
    match rest with
    | [] => true
    | '=' :: level => level.isEmpty || isLevel level
    | _ => false
  isLevel text ||
    match afterTarget? text with
    | none => false
    | some rest => endsWell rest || (afterTarget? rest).any endsWell

/-- Commas stand between directives, and what is empty between them is passed over. -/
def isValid (directives : String) : Bool :=
  (Text.pieces ',' directives.toList).all fun directive => directive.isEmpty || isDirective directive

example : isValid "warn,app::db=DEBUG,[request]=trace" = true ∧ isValid "a=verbose" = false := by
  decide +kernel

end StaticInjection.LogFilter
