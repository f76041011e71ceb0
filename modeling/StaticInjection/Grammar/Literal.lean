import StaticInjection.Grammar.Letter
import StaticInjection.Text.Digits

namespace StaticInjection.Grammar

/-! Constants of the generated language: where one ends that a text begins with. Every constant may
have a suffix, which is an identifier. -/

inductive LiteralKind where
  | numeral
  /-- Characters in double quotes. -/
  | string
  /-- A character, a byte, or bytes in double quotes. -/
  | other
deriving DecidableEq, Repr

namespace Literal

/-! ## Quoted constants -/

/-- What stands between quotes: characters, bytes, or bytes of which none is zero. -/
inductive Content where
  | characters
  | bytes
  | nonzeroBytes
deriving DecidableEq, Repr

namespace Content

/-- Characters that stand for themselves. -/
def admits : Content → Char → Bool
  | characters, _ => true
  | bytes, character => character.toNat < 128
  | nonzeroBytes, character => character != '\x00'

def admitsEscape : Content → Char → Bool
  | nonzeroBytes, letter => "nrt\\'\"".contains letter
  | _, letter => "nrt\\'\"0".contains letter

/-- Two hexadecimal digits are a byte; as a character they are below 128. -/
def admitsHex (content : Content) (high low : Char) : Bool :=
  match Text.hexValue? high, Text.hexValue? low with
  | some high, some low =>
    match content with
    | characters => high < 8
    | bytes => true
    | nonzeroBytes => high != 0 || low != 0
  | _, _ => false

def admitsCode : Content → Nat → Bool
  | characters, _ => true
  | bytes, _ => false
  | nonzeroBytes, code => code != 0

end Content

/-- The code of a character in up to six hexadecimal digits, which ends with a brace. Underscores may
stand behind the first digit. -/
def readCode (code count : Nat) : List Char → Option (Nat × List Char)
  | [] => none
  | head :: rest =>
    match Text.hexValue? head with
    | some digit => if count = 6 then none else readCode (code * 16 + digit) (count + 1) rest
    | none =>
      if count = 0 then none
      else if head = '_' then readCode code count rest
      else if head = '\x7d' && decide code.isValidChar then some (code, rest)
      else none

/-- What follows an escape, of which the backslash has been read. -/
def afterEscape (content : Content) : List Char → Option (List Char)
  | 'x' :: high :: low :: rest => if content.admitsHex high low then some rest else none
  | 'u' :: '\x7b' :: rest => do
    let (code, rest) ← readCode 0 0 rest
    if content.admitsCode code then some rest else none
  | letter :: rest => if content.admitsEscape letter then some rest else none
  | [] => none

/-- Behind a backslash at the end of a line, blanks and ends of lines do not count. -/
def afterContinuation : List Char → Option (List Char)
  | [] => none
  | '\r' :: '\n' :: rest => afterContinuation rest
  | '\r' :: _ => none
  | head :: rest =>
    if head = ' ' || head = '\t' || head = '\n' then afterContinuation rest else some (head :: rest)

/-- What follows the closing double quote. The number bounds the steps. -/
def afterQuoted (content : Content) : Nat → List Char → Option (List Char)
  | 0, _ => none
  | bound + 1, text =>
    match text with
    | [] => none
    | '\"' :: rest => some (afterWord rest)
    | '\r' :: '\n' :: rest => afterQuoted content bound rest
    | '\r' :: _ => none
    | '\\' :: rest => do
      let rest ←
        if rest.head? = some '\n' || rest.head? = some '\r' then afterContinuation rest
        else afterEscape content rest
      afterQuoted content bound rest
    | head :: rest => if content.admits head then afterQuoted content bound rest else none

/-- What follows a double quote and a fence. -/
def afterFence (content : Content) (fence : List Char) : List Char → Option (List Char)
  | [] => none
  | '\r' :: '\n' :: rest => afterFence content fence rest
  | '\r' :: _ => none
  | head :: rest =>
    if head = '\"' && fence.isPrefixOf rest then some (afterWord (rest.drop fence.length))
    else if content.admits head then afterFence content fence rest
    else none

/-- A constant without escapes begins with a fence and a double quote. -/
def afterRaw (content : Content) (text : List Char) : Option (List Char) :=
  let fence := text.takeWhile (· = '#')
  match text.drop fence.length with
  | '\"' :: rest => if 255 < fence.length then none else afterFence content fence rest
  | _ => none

/-- One character or escape, and the closing quote. -/
def afterSingle (content : Content) (text : List Char) : Option (List Char) :=
  let inside := match text with
    | [] => none
    | '\\' :: rest => afterEscape content rest
    | head :: rest => if content.admits head then some rest else none
  match inside with
  | some ('\'' :: rest) => some (afterWord rest)
  | _ => none

/-! ## Numbers -/

def isDigitOrGap (character : Char) : Bool :=
  character.isDigit || character == '_'

/-- Digits below the base, with gaps among them. A decimal number has no gap in front. -/
def afterDigits (base : Nat) (started : Bool) : List Char → Option (List Char)
  | [] => if started then some [] else none
  | head :: rest =>
    if head = '_' then if started || base != 10 then afterDigits base started rest else none
    else
      let other := if started && !head.isDigit then some (head :: rest) else none
      match Text.hexValue? head with
      | some digit => if digit < base then afterDigits base true rest else other
      | none => other

/-- A suffix, behind which the identifier does not go on. -/
def afterSuffix (text : List Char) : Option (List Char) :=
  match afterWord text with
  | head :: rest => if isFollowing head then none else some (head :: rest)
  | [] => some []

def afterInteger (text : List Char) : Option (List Char) := do
  let rest ← match text with
    | '0' :: 'x' :: digits => afterDigits 16 false digits
    | '0' :: 'o' :: digits => afterDigits 8 false digits
    | '0' :: 'b' :: digits => afterDigits 2 false digits
    | _ => afterDigits 10 false text
  afterSuffix rest

/-- What follows the point and the digits behind it, if there is a point. Neither a range nor the
name of a member begins like that. -/
def afterPoint : List Char → Option (Bool × List Char)
  | '.' :: rest =>
    match rest with
    | [] => some (true, [])
    | head :: _ =>
      if head = '.' || isInitial head then none else some (true, rest.dropWhile isDigitOrGap)
  | text => some (false, text)

/-- What follows the sign and the digits of an exponent. -/
def afterExponent (text : List Char) : Option (List Char) :=
  let signed := text.dropWhile (· = '_')
  let unsigned := match signed with
    | '+' :: rest => rest
    | '-' :: rest => rest
    | rest => rest
  match unsigned.dropWhile (· = '_') with
  | [] => none
  | head :: rest => if head.isDigit then some (rest.dropWhile isDigitOrGap) else none

/-- A number with a point or an exponent. Behind a point, what is no exponent is a suffix. -/
def afterFraction (text : List Char) : Option (List Char) := do
  let (hasPoint, rest) ← afterPoint (text.dropWhile isDigitOrGap)
  let plain := if hasPoint then some rest else none
  let rest ← match rest with
    | 'e' :: more => (afterExponent more).or plain
    | 'E' :: more => (afterExponent more).or plain
    | _ => plain
  afterSuffix rest

def afterNumeral (text : List Char) : Option (List Char) :=
  (afterFraction text).or (afterInteger text)

/-! ## All constants -/

def afterString (content : Content) (text : List Char) : Option (List Char) :=
  afterQuoted content (text.length + 1) text

/-- The kind of the constant at the front, and what follows it. -/
def read (text : List Char) : Option (LiteralKind × List Char) :=
  match text with
  | '\"' :: rest => (afterString .characters rest).map (.string, ·)
  | 'r' :: rest => (afterRaw .characters rest).map (.string, ·)
  | 'b' :: '\"' :: rest => (afterString .bytes rest).map (.other, ·)
  | 'b' :: 'r' :: rest => (afterRaw .bytes rest).map (.other, ·)
  | 'b' :: '\'' :: rest => (afterSingle .bytes rest).map (.other, ·)
  | 'c' :: '\"' :: rest => (afterString .nonzeroBytes rest).map (.other, ·)
  | 'c' :: 'r' :: rest => (afterRaw .nonzeroBytes rest).map (.other, ·)
  | '\'' :: rest => (afterSingle .characters rest).map (.other, ·)
  | head :: _ => if head.isDigit then (afterNumeral text).map (.numeral, ·) else none
  | [] => none

/-- Beginnings that only a constant has. -/
def openings : List String :=
  ["r\"", "r#\"", "r##", "b\"", "b'", "br\"", "br#", "c\"", "cr\"", "cr#"]

example : read "1.5e-3f32)".toList = some (.numeral, [')']) ∧
    read "0b12".toList = none ∧ read "1..2".toList = some (.numeral, "..2".toList) ∧
    read "\"a\\u\x7b1F600\x7d\" b".toList = some (.string, " b".toList) ∧
    read "br#\"a\"b\"#,".toList = some (.other, [',']) ∧ read "'ab'".toList = none := by
  decide +kernel

end Literal

end StaticInjection.Grammar
