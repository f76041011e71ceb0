import StaticInjection.Decimal.Basic
import StaticInjection.Text.Digits
import StaticInjection.Toml.Basic

namespace StaticInjection.Toml

/-! Numbers and truth values. Underscores may stand between digits. -/

def digitValue? (base : Nat) (character : Char) : Option Nat :=
  (Text.hexValue? character).bind fun value => if value < base then some value else none

/-- The digits of a row, without the single underscores between them. -/
def digitRow? (base : Nat) (text : List Char) : Option (List Char) :=
  let groups := Text.pieces '_' text
  if groups.all fun group => !group.isEmpty && group.all fun digit => (digitValue? base digit).isSome
  then some groups.flatten else none

def numberIn (base : Nat) (digits : List Char) : Nat :=
  digits.foldl (fun number digit => number * base + (digitValue? base digit).getD 0) 0

/-- Decimal digits without a needless zero in front. -/
def wholeRow? (text : List Char) : Option (List Char) :=
  (digitRow? 10 text).bind fun digits =>
    if digits.length ≠ 1 && digits.head? = some '0' then none else some digits

/-- Integers have 64 bits. -/
def inRange? (value : Int) : Option Int :=
  if Int64.minValue.toInt ≤ value && value ≤ Int64.maxValue.toInt then some value else none

def readInteger? (text : List Char) : Option Int :=
  match text with
  | '0' :: 'x' :: digits => (digitRow? 16 digits).bind fun row => inRange? (numberIn 16 row)
  | '0' :: 'o' :: digits => (digitRow? 8 digits).bind fun row => inRange? (numberIn 8 row)
  | '0' :: 'b' :: digits => (digitRow? 2 digits).bind fun row => inRange? (numberIn 2 row)
  | text =>
    let (negative, rest) := Decimal.readSign text
    (wholeRow? rest).bind fun row =>
      let magnitude : Int := numberIn 10 row
      inRange? (if negative then -magnitude else magnitude)

/-- The part from the mark of a power of ten on. -/
def exponentRow? : List Char → Option (List Char)
  | [] => some []
  | _ :: rest =>
    let (negative, digits) := Decimal.readSign rest
    (digitRow? 10 digits).map fun row => 'e' :: (if negative then ['-'] else []) ++ row

/-- The part from the point on. -/
def fractionRow? : List Char → Option (List Char)
  | '.' :: digits => (digitRow? 10 digits).map ('.' :: ·)
  | [] => some []
  | _ => none

/-- A number with a point or a power of ten, or a word for what is no number. -/
def readDecimal? (text : List Char) : Option (List Char) :=
  let (negative, rest) := Decimal.readSign text
  let signed (literal : List Char) := (if negative then ['-'] else []) ++ literal
  if rest = ['i', 'n', 'f'] || rest = ['n', 'a', 'n'] then some (signed rest)
  else do
    let isMark (character : Char) := character = 'e' || character = 'E'
    let number := rest.takeWhile fun character => !isMark character
    let whole ← wholeRow? (number.takeWhile (· ≠ '.'))
    let fraction ← fractionRow? (number.dropWhile (· ≠ '.'))
    let exponent ← exponentRow? (rest.dropWhile fun character => !isMark character)
    if fraction.isEmpty && exponent.isEmpty then none
    else some (signed (whole ++ fraction ++ exponent))

def ofWord? (word : List Char) : Option Toml :=
  match String.ofList word with
  | "true" => some (.bool true)
  | "false" => some (.bool false)
  | _ =>
    match readInteger? word with
    | some value => some (.integer value)
    | none => (readDecimal? word).map .decimal

def isWordCharacter (character : Char) : Bool :=
  character.isAlphanum || character = '_' || character = '-' || character = '+' || character = '.'

def readScalar (text : List Char) : Option (Toml × List Char) :=
  (ofWord? (text.takeWhile isWordCharacter)).map fun value =>
    (value, text.dropWhile isWordCharacter)

end StaticInjection.Toml
