import StaticInjection.Grammar.Literal
import StaticInjection.Text.Blank

namespace StaticInjection.Grammar

/-! The tokens of type names and constructor paths in the generated language. -/

inductive Token where
  /-- An identifier or a keyword. -/
  | word (text : String)
  | lifetime
  | literal (kind : LiteralKind)
  /-- One punctuation character, `::`, `->` or `...`. -/
  | mark (text : String)
  | leftBracket (shape : Char)
  | rightBracket (shape : Char)
deriving DecidableEq, Repr

namespace Token

/-- Words that stay keywords behind `r#`. -/
def neverRaw : List String := ["_", "super", "self", "Self", "crate"]

def readWord : List Char → Option (Token × List Char)
  | 'r' :: '#' :: rest => do
    let (name, rest) ← splitWord rest
    let name := String.ofList name
    if neverRaw.contains name then none else some (.word ("r#" ++ name), rest)
  | text => do
    let (name, rest) ← splitWord text
    some (.word (String.ofList name), rest)

/-- A lifetime, of which the quote has been read; no other quote follows it. -/
def readLifetime (text : List Char) : Option (Token × List Char) :=
  match readWord text with
  | some (_, '\'' :: _) => none
  | some (_, rest) => some (.lifetime, rest)
  | none => none

def marks : List Char := "~!@#$%^&*-=+|;:,<.>/?".toList

/-- Punctuation, a lifetime or a word. -/
def readPlain : List Char → Option (Token × List Char)
  | [] => none
  | '(' :: rest => some (.leftBracket '(', rest)
  | '[' :: rest => some (.leftBracket '[', rest)
  | '\x7b' :: rest => some (.leftBracket '\x7b', rest)
  | ')' :: rest => some (.rightBracket '(', rest)
  | ']' :: rest => some (.rightBracket '[', rest)
  | '\x7d' :: rest => some (.rightBracket '\x7b', rest)
  | '\'' :: rest => readLifetime rest
  | ':' :: ':' :: rest => some (.mark "::", rest)
  | '-' :: '>' :: rest => some (.mark "->", rest)
  | '.' :: '.' :: '.' :: rest => some (.mark "...", rest)
  | first :: rest =>
    if marks.contains first then some (.mark (String.ofList [first]), rest)
    else if Literal.openings.any fun opening => opening.toList.isPrefixOf (first :: rest) then none
    else readWord (first :: rest)

/-- The first token of a text that begins neither with white space nor with a comment. -/
def read (text : List Char) : Option (Token × List Char) :=
  match Literal.read text with
  | some (kind, rest) => some (.literal kind, rest)
  | none => readPlain text

/-- The end of a comment that may hold other comments. -/
def afterComment : (depth : Nat) → List Char → Option (List Char)
  | _, [] => none
  | depth, '/' :: '*' :: rest => afterComment (depth + 1) rest
  | depth, '*' :: '/' :: rest =>
    match depth with
    | 0 => some rest
    | outer + 1 => afterComment outer rest
  | depth, _ :: rest => afterComment depth rest

/-- White space is as for words, with the two marks of writing direction, but a carriage return counts
only before a line feed. -/
def isSpace (character : Char) : Bool :=
  character != '\r' &&
    (Text.isBlank character || character == '\u200e' || character == '\u200f')

/-- One step over white space or a comment; comments that document are none. -/
def skip? : List Char → Option (List Char)
  | '\r' :: '\n' :: rest => some rest
  | '/' :: '/' :: rest =>
    match rest with
    | '!' :: _ => none
    | '/' :: more =>
      match more with
      | '/' :: _ => some (more.dropWhile (· != '\n'))
      | _ => none
    | _ => some (rest.dropWhile (· != '\n'))
  | '/' :: '*' :: rest =>
    match rest with
    | '!' :: _ => none
    | '*' :: more =>
      match more with
      | '/' :: after => some after
      | '*' :: _ => afterComment 0 more
      | _ => none
    | _ => afterComment 0 rest
  | character :: rest => if isSpace character then some rest else none
  | [] => none

/-- All tokens of a text. The number bounds the steps. -/
def readMany : Nat → List Char → Option (List Token)
  | _, [] => some []
  | 0, _ => none
  | bound + 1, text =>
    match skip? text with
    | some rest => readMany bound rest
    | none => do
      let (token, rest) ← read text
      let tokens ← readMany bound rest
      return token :: tokens

/-- Whether every bracket is closed by one of its shape. -/
def balanced : (nested : List Char) → List Token → Bool
  | nested, [] => nested.isEmpty
  | nested, .leftBracket shape :: rest => balanced (shape :: nested) rest
  | [], .rightBracket _ :: _ => false
  | shape :: nested, .rightBracket other :: rest => shape == other && balanced nested rest
  | nested, _ :: rest => balanced nested rest

def readAll (text : List Char) : Option (List Token) := do
  let tokens ← readMany text.length text
  if balanced [] tokens then some tokens else none

end Token

end StaticInjection.Grammar
