import StaticInjection.Text.Digits

namespace StaticInjection.Json

/-! The tokens of a JSON text. -/

inductive Token where
  | leftBrace
  | rightBrace
  | leftBracket
  | rightBracket
  | colon
  | comma
  | null
  | bool (value : Bool)
  | integer (value : Int)
  | decimal (literal : List Char)
  | string (content : Option String)
deriving DecidableEq, Repr

namespace Token

/-! ## Writing -/

/-- Decimal digits without leading zeros. -/
def digits (number : Nat) : List Char :=
  Nat.toDigits 10 number

def integerText : Int → List Char
  | .ofNat number => digits number
  | .negSucc number => '-' :: digits (number + 1)

def hexDigit (number : Nat) : Char :=
  (Nat.digitChar number)

def escape (character : Char) : List Char :=
  match character with
  | '\"' => ['\\', '\"']
  | '\\' => ['\\', '\\']
  | '\x08' => ['\\', 'b']
  | '\x0c' => ['\\', 'f']
  | '\n' => ['\\', 'n']
  | '\r' => ['\\', 'r']
  | '\t' => ['\\', 't']
  | other =>
    if other.toNat < 0x20 then
      ['\\', 'u', '0', '0', hexDigit (other.toNat / 16), hexDigit (other.toNat % 16)]
    else [other]

/-- A string without content is written as half of a surrogate pair. -/
def stringText : Option String → List Char
  | some content => '\"' :: content.toList.flatMap escape ++ ['\"']
  | none => "\"\\ud800\"".toList

def write : Token → List Char
  | leftBrace => ['\x7b']
  | rightBrace => ['\x7d']
  | leftBracket => ['[']
  | rightBracket => [']']
  | colon => [':']
  | comma => [',']
  | null => "null".toList
  | bool true => "true".toList
  | bool false => "false".toList
  | integer value => integerText value
  | decimal literal => literal
  | string content => stringText content

/-! ## Reading -/

def hexCode? (first second third fourth : Char) : Option Nat := do
  let first ← Text.hexValue? first
  let second ← Text.hexValue? second
  let third ← Text.hexValue? third
  let fourth ← Text.hexValue? fourth
  return ((first * 16 + second) * 16 + third) * 16 + fourth

def unescape? : Char → Option Char
  | '\"' => some '\"'
  | '\\' => some '\\'
  | '/' => some '/'
  | 'b' => some '\x08'
  | 'f' => some '\x0c'
  | 'n' => some '\n'
  | 'r' => some '\r'
  | 't' => some '\t'
  | _ => none

/-- The code points and surrogate halves up to the closing quote, and what follows it. -/
def readCodes : List Char → Option (List Nat × List Char)
  | [] => none
  | '\"' :: rest => some ([], rest)
  | '\\' :: 'u' :: first :: second :: third :: fourth :: rest => do
    let code ← hexCode? first second third fourth
    let (codes, rest) ← readCodes rest
    return (code :: codes, rest)
  | '\\' :: mark :: rest => do
    let character ← unescape? mark
    let (codes, rest) ← readCodes rest
    return (character.toNat :: codes, rest)
  | character :: rest =>
    if character.toNat < 0x20 ∨ character = '\\' then none
    else do
      let (codes, rest) ← readCodes rest
      return (character.toNat :: codes, rest)

def isHighHalf (code : Nat) : Bool :=
  0xd800 ≤ code && code ≤ 0xdbff

def isLowHalf (code : Nat) : Bool :=
  0xdc00 ≤ code && code ≤ 0xdfff

/-- Join surrogate pairs; a half without its other half denotes nothing. -/
def joinHalves : List Nat → Option (List Char)
  | [] => some []
  | [code] => if isHighHalf code || isLowHalf code then none else some [Char.ofNat code]
  | code :: next :: rest =>
    if isHighHalf code then
      if isLowHalf next then
        (joinHalves rest).map
          (Char.ofNat (0x10000 + (code - 0xd800) * 0x400 + (next - 0xdc00)) :: ·)
      else none
    else if isLowHalf code then none
    else (joinHalves (next :: rest)).map (Char.ofNat code :: ·)

def isDigit (character : Char) : Bool :=
  '0' ≤ character && character ≤ '9'

def number (digits : List Char) : Nat :=
  digits.foldl (fun value digit => value * 10 + (digit.toNat - '0'.toNat)) 0

/-- At least one digit after the mark, or the mark does not belong to the number. -/
def fraction : List Char → Option (List Char × List Char)
  | '.' :: rest =>
    let digits := rest.takeWhile isDigit
    if digits.isEmpty then none else some ('.' :: digits, rest.dropWhile isDigit)
  | rest => some ([], rest)

def signed : List Char → List Char × List Char
  | '+' :: rest => (['+'], rest)
  | '-' :: rest => (['-'], rest)
  | rest => ([], rest)

def exponent : List Char → Option (List Char × List Char)
  | [] => some ([], [])
  | mark :: rest =>
    if mark = 'e' ∨ mark = 'E' then
      let (sign, rest) := signed rest
      let digits := rest.takeWhile isDigit
      if digits.isEmpty then none else some (mark :: sign ++ digits, rest.dropWhile isDigit)
    else some ([], mark :: rest)

/-- Digits without a leading zero, or a zero alone. -/
def whole (text : List Char) : Option (List Char × List Char) :=
  match text with
  | '0' :: rest => some (['0'], rest)
  | _ =>
    let digits := text.takeWhile isDigit
    if digits.isEmpty then none else some (digits, text.dropWhile isDigit)

def readNumber (negative : Bool) (text : List Char) : Option (Token × List Char) := do
  let (digits, rest) ← whole text
  let (fraction, rest) ← fraction rest
  let (exponent, rest) ← exponent rest
  let value := number digits
  if fraction.isEmpty && exponent.isEmpty && !(negative && value == 0) then
    return (.integer (if negative then -value else value), rest)
  else
    return (.decimal ((if negative then ['-'] else []) ++ digits ++ fraction ++ exponent), rest)

/-- The first token of a text that does not begin with white space. -/
def read : List Char → Option (Token × List Char)
  | [] => none
  | '\x7b' :: rest => some (.leftBrace, rest)
  | '\x7d' :: rest => some (.rightBrace, rest)
  | '[' :: rest => some (.leftBracket, rest)
  | ']' :: rest => some (.rightBracket, rest)
  | ':' :: rest => some (.colon, rest)
  | ',' :: rest => some (.comma, rest)
  | 'n' :: 'u' :: 'l' :: 'l' :: rest => some (.null, rest)
  | 't' :: 'r' :: 'u' :: 'e' :: rest => some (.bool true, rest)
  | 'f' :: 'a' :: 'l' :: 's' :: 'e' :: rest => some (.bool false, rest)
  | '\"' :: rest => do
    let (codes, rest) ← readCodes rest
    return (.string ((joinHalves codes).map String.ofList), rest)
  | '-' :: rest => readNumber true rest
  | text => readNumber false text

def isSpace (character : Char) : Bool :=
  character == ' ' || character == '\n' || character == '\t' || character == '\r'

/-- All tokens of a text. The number bounds how many there can be. -/
def readMany : Nat → List Char → Option (List Token)
  | bound, text =>
    match text.dropWhile isSpace with
    | [] => some []
    | start =>
      match bound with
      | 0 => none
      | bound + 1 => do
        let (token, rest) ← read start
        let tokens ← readMany bound rest
        return token :: tokens

def readAll (text : List Char) : Option (List Token) :=
  readMany text.length text

end Token

end StaticInjection.Json
