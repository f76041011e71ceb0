import StaticInjection.Toml.Quoted
import StaticInjection.Toml.Scalar
import StaticInjection.Toml.Table

namespace StaticInjection.Toml

/-! Reading a TOML text: its lines first, then the table that they build. -/

/-! ## Between the values -/

def isSpace (character : Char) : Bool :=
  character = ' ' || character = '\t'

def skipSpaces (text : List Char) : List Char :=
  text.dropWhile isSpace

/-- The end of a line, after a comment or not. At the end of the text nothing is left over. -/
def readLineEnd (text : List Char) : Option (List Char) :=
  let rest := match skipSpaces text with
    | '#' :: comment => comment.dropWhile isPlain
    | rest => rest
  match rest with
  | [] => some []
  | '\n' :: rest => some rest
  | '\r' :: '\n' :: rest => some rest
  | _ => none

/-- Blanks, line ends and comments. The number bounds the lines. -/
def skipLines : Nat → List Char → List Char
  | 0, text => text
  | bound + 1, text =>
    match skipSpaces text with
    | [] => []
    | rest =>
      match readLineEnd rest with
      | some after => skipLines bound after
      | none => rest

def skipAll (text : List Char) : List Char :=
  skipLines (text.length + 1) text

/-! ## Keys -/

def isKeyCharacter (character : Char) : Bool :=
  character.isAlphanum || character = '_' || character = '-'

def readKey (text : List Char) : Option (String × List Char) :=
  let word := text.takeWhile isKeyCharacter
  if word.isEmpty then (readOneLine text).map fun (key, rest) => (String.ofList key, rest)
  else some (String.ofList word, text.dropWhile isKeyCharacter)

/-- Keys with points between them. The number bounds the keys. -/
def readPathWithin : Nat → List Char → Option (List String × List Char)
  | 0, _ => none
  | bound + 1, text => do
    let (key, rest) ← readKey (skipSpaces text)
    match skipSpaces rest with
    | '.' :: rest =>
      let (keys, rest) ← readPathWithin bound rest
      return (key :: keys, rest)
    | rest => return ([key], rest)

def readPath (text : List Char) : Option (List String × List Char) :=
  readPathWithin (text.length + 1) text

/-! ## Values -/

mutual

/-- The value at the front of a text. The number bounds the steps. -/
def readValue : Nat → List Char → Option (Toml × List Char)
  | 0, _ => none
  | bound + 1, text =>
    match text with
    | '[' :: rest => (readItems bound rest).map fun (items, rest) => (.array items, rest)
    | '\x7b' :: rest =>
      match skipSpaces rest with
      | '\x7d' :: rest => some (.table .braces [], rest)
      | rest => do
        let (entries, rest) ← readEntries bound [] rest
        return (.table .braces entries, rest)
    | '\"' :: _ | '\'' :: _ =>
      (readQuoted text).map fun (content, rest) => (.string (String.ofList content), rest)
    | _ => readScalar text

/-- Items up to the closing bracket, on several lines if need be. -/
def readItems : Nat → List Char → Option (List Toml × List Char)
  | 0, _ => none
  | bound + 1, text =>
    match skipAll text with
    | ']' :: rest => some ([], rest)
    | text => do
      let (item, rest) ← readValue bound text
      match skipAll rest with
      | ',' :: rest =>
        let (items, rest) ← readItems bound rest
        return (item :: items, rest)
      | ']' :: rest => return ([item], rest)
      | _ => none

/-- Keys with values up to the closing brace, added to those already read. -/
def readEntries : Nat → Entries → List Char → Option (Entries × List Char)
  | 0, _, _ => none
  | bound + 1, entries, text => do
    let (path, rest) ← readPath text
    match rest with
    | '=' :: rest =>
      let (value, rest) ← readValue bound (skipSpaces rest)
      let entries ← Entries.assign value path entries
      match skipSpaces rest with
      | ',' :: rest => readEntries bound entries rest
      | '\x7d' :: rest => return (entries, rest)
      | _ => none
    | _ => none

end

/-! ## Lines -/

/-- A header in brackets, a double header, or a key with its value. -/
def readLine (text : List Char) : Option (Line × List Char) :=
  match text with
  | '[' :: '[' :: rest => do
    let (path, rest) ← readPath rest
    match rest with
    | ']' :: ']' :: rest => return (.element path, rest)
    | _ => none
  | '[' :: rest => do
    let (path, rest) ← readPath rest
    match rest with
    | ']' :: rest => return (.header path, rest)
    | _ => none
  | _ => do
    let (path, rest) ← readPath text
    match rest with
    | '=' :: rest =>
      let (value, rest) ← readValue (2 * text.length) (skipSpaces rest)
      return (.assign path value, rest)
    | _ => none

/-- The number bounds the lines. -/
def readLinesFrom : Nat → List Char → Option (List Line)
  | 0, _ => none
  | bound + 1, text =>
    match skipAll text with
    | [] => some []
    | text => do
      let (line, rest) ← readLine text
      let rest ← readLineEnd rest
      let lines ← readLinesFrom bound rest
      return line :: lines

/-- A byte order mark in front is passed over. -/
def parse (text : String) : Option Entries := do
  let text := match text.toList with
    | '\ufeff' :: rest => rest
    | text => text
  ofLines (← readLinesFrom (text.length + 1) text)

end StaticInjection.Toml
