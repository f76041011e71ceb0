import StaticInjection.Text.Split

namespace StaticInjection

/-! Decimal numbers as they are written. -/

/-- The digits, taken as a number, times a power of ten. -/
structure Decimal where
  negative : Bool
  digits : Nat
  exponent : Int
deriving DecidableEq, Repr

namespace Decimal

def isDigit (character : Char) : Bool :=
  '0' ≤ character && character ≤ '9'

/-- The value of a row of decimal digits. -/
def numberOf (digits : List Char) : Nat :=
  digits.foldl (fun number digit => number * 10 + (digit.toNat - '0'.toNat)) 0

/-- A leading sign, and what follows it. -/
def readSign : List Char → Bool × List Char
  | '-' :: rest => (true, rest)
  | '+' :: rest => (false, rest)
  | text => (false, text)

/-- A row of digits with at least one, up to the end of the text. -/
def readDigits? (text : List Char) : Option Nat :=
  if !text.isEmpty && text.all isDigit then some (numberOf text) else none

def readInteger? (text : List Char) : Option Int :=
  let (negative, rest) := readSign text
  (readDigits? rest).map fun number => if negative then -Int.ofNat number else Int.ofNat number

/-- A power of ten, with its mark in front, or nothing. -/
def readExponent? : List Char → Option Int
  | [] => some 0
  | mark :: rest => if mark = 'e' || mark = 'E' then readInteger? rest else none

/-- Digits with a point somewhere, or none, and then a power of ten, or none. -/
def read? (text : List Char) : Option Decimal :=
  let (negative, rest) := readSign text
  let whole := rest.takeWhile isDigit
  let (fraction, tail) :=
    match rest.dropWhile isDigit with
    | '.' :: after => (after.takeWhile isDigit, after.dropWhile isDigit)
    | after => ([], after)
  if whole.isEmpty && fraction.isEmpty then none
  else
    (readExponent? tail).map fun exponent =>
      { negative, digits := numberOf (whole ++ fraction), exponent := exponent - fraction.length }

example : read? "-1.50e3".toList = some ⟨true, 150, 1⟩ ∧ read? ".".toList = none := by decide +kernel

end Decimal

end StaticInjection
