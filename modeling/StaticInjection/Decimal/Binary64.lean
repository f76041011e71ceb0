import StaticInjection.Decimal.Basic

namespace StaticInjection

/-! Binary numbers with 53 digits, which stand for decimal numbers where few digits are kept. -/

inductive Binary64 where
  | notANumber
  | infinite (negative : Bool)
  /-- The mantissa, below `2 ^ 53`, times a power of two that is `-1074` at least. -/
  | finite (negative : Bool) (mantissa : Nat) (exponent : Int)
deriving DecidableEq, Repr

namespace Binary64

/-- A quotient rounded to the nearest number; a half goes to the even one. -/
def roundHalfEven (numerator denominator : Nat) : Nat :=
  let quotient := numerator / denominator
  let double := 2 * (numerator % denominator)
  if double < denominator then quotient
  else if denominator < double then quotient + 1
  else quotient + quotient % 2

/-! ## From decimal numbers -/

/-- Numerator and denominator of a number times a power. -/
def scaled (base number : Nat) (exponent : Int) : Nat × Nat :=
  (number * base.pow exponent.toNat, base.pow (-exponent).toNat)

/-- The largest power of two that is no larger than a quotient above zero. -/
def floorLog (numerator denominator : Nat) : Int :=
  let guess : Int := numerator.log2 - denominator.log2
  let (divisor, factor) := scaled 2 denominator guess
  if divisor ≤ numerator * factor then guess else guess - 1

/-- Mantissa and exponent of the nearest number, when the exponent is in range. -/
def nearestRatio (numerator denominator : Nat) : Option (Nat × Int) :=
  let exponent := max (floorLog numerator denominator - 52) (-1074)
  let (divisor, factor) := scaled 2 denominator exponent
  let mantissa := roundHalfEven (numerator * factor) divisor
  let (mantissa, exponent) :=
    if mantissa = Nat.pow 2 53 then (Nat.pow 2 52, exponent + 1) else (mantissa, exponent)
  if 971 < exponent then none else some (mantissa, exponent)

/-- The nearest number to digits times a power of ten. Powers far out of range are not computed. -/
def nearestMagnitude (digits : Nat) (exponent : Int) : Option (Nat × Int) :=
  let size := (Nat.toDigits 10 digits).length + exponent
  if digits = 0 || size < -330 then some (0, -1074)
  else if 310 < size then none
  else
    let (numerator, denominator) := scaled 10 digits exponent
    nearestRatio numerator denominator

def ofDecimal (number : Decimal) : Binary64 :=
  match nearestMagnitude number.digits number.exponent with
  | none => .infinite number.negative
  | some (mantissa, exponent) => .finite number.negative mantissa exponent

/-- Words in small letters for the values that have no digits. -/
def ofWord? (negative : Bool) (word : List Char) : Option Binary64 :=
  match String.ofList word with
  | "nan" => some .notANumber
  | "inf" | "infinity" => some (.infinite negative)
  | _ => none

def read? (text : List Char) : Option Binary64 :=
  let (negative, rest) := Decimal.readSign text
  match ofWord? negative (rest.map Char.toLower) with
  | some value => some value
  | none => (Decimal.read? text).map ofDecimal

/-! ## To decimal numbers -/

/-- Digits and a power of ten that are read back as the number, on the grid of a power of ten. The
nearer of the two neighbours on the grid is tried first. -/
def onGrid (mantissa : Nat) (exponent grid : Int) : Option (Nat × Int) :=
  let (numerator, denominator) := scaled 2 mantissa exponent
  let (divisor, factor) := scaled 10 1 grid
  let below := numerator * factor / (denominator * divisor)
  let nearer := roundHalfEven (numerator * factor) (denominator * divisor)
  let farther := if nearer = below then below + 1 else below
  ([nearer, farther].find? fun digits =>
    nearestMagnitude digits grid == some (mantissa, exponent)).map fun digits => (digits, grid)

/-- The power of ten above the number: `10 ^ (p - 1) ≤ n < 10 ^ p`. -/
def decimalSize (numerator denominator : Nat) : Int :=
  let guess : Int := (Nat.toDigits 10 numerator).length - (Nat.toDigits 10 denominator).length
  let (divisor, factor) := scaled 10 denominator guess
  if divisor ≤ numerator * factor then guess + 1 else guess

/-- The fewest digits that are read back; 17 are enough for every number. The last is no zero. -/
def shortest (mantissa : Nat) (exponent : Int) : Nat × Int :=
  let (numerator, denominator) := scaled 2 mantissa exponent
  let size := decimalSize numerator denominator
  let found := (List.range 17).findSome? fun (count : Nat) =>
    onGrid mantissa exponent (size - 1 - count)
  let (digits, power) := found.getD (0, 0)
  if digits % 10 = 0 then (digits / 10, power + 1) else (digits, power)

/-- Digits with a point where the power of ten has it, and no point at the end. -/
def positional (digits : Nat) (exponent : Int) : List Char :=
  let written := Nat.toDigits 10 digits
  let places := (-exponent).toNat
  if 0 ≤ exponent then written ++ List.replicate exponent.toNat '0'
  else if places < written.length then
    written.take (written.length - places) ++ '.' :: written.drop (written.length - places)
  else '0' :: '.' :: List.replicate (places - written.length) '0' ++ written

def text : Binary64 → List Char
  | notANumber => "NaN".toList
  | infinite negative => (if negative then ['-'] else []) ++ "inf".toList
  | finite negative mantissa exponent =>
    let magnitude :=
      if mantissa = 0 then ['0']
      else
        let (digits, power) := shortest mantissa exponent
        positional digits power
    (if negative then ['-'] else []) ++ magnitude

example : (read? "0.30000000000000004".toList).map text = some "0.30000000000000004".toList ∧
    (read? "1.50".toList).map text = some "1.5".toList ∧
    (read? "1e-6".toList).map text = some "0.000001".toList ∧
    (read? "1e22".toList).map text = some "10000000000000000000000".toList := by decide +kernel

def isZero : Binary64 → Bool
  | finite _ mantissa _ => mantissa == 0
  | _ => false

/-- The nearest natural number below a limit; a half goes away from zero. Negative numbers and no
number become zero. -/
def toNatBelow (limit : Nat) : Binary64 → Nat
  | finite false mantissa exponent =>
    let (numerator, denominator) := scaled 2 mantissa exponent
    min ((2 * numerator + denominator) / (2 * denominator)) (limit - 1)
  | infinite false => limit - 1
  | _ => 0

end Binary64

end StaticInjection
