namespace StaticInjection.Text

/-! Digits of numbers. -/

/-- Zeros are put in front until there are `width` digits. -/
def padDigits (base width number : Nat) : List Char :=
  let digits := Nat.toDigits base number
  List.replicate (width - digits.length) '0' ++ digits

def paddedDecimal (width number : Nat) : String :=
  String.ofList (padDigits 10 width number)

example : paddedDecimal 4 27 = "0027" := by decide +kernel

/-- The value of a hexadecimal digit. -/
def hexValue? (character : Char) : Option Nat :=
  if '0' ≤ character ∧ character ≤ '9' then some (character.toNat - '0'.toNat)
  else if 'a' ≤ character ∧ character ≤ 'f' then some (character.toNat - 'a'.toNat + 10)
  else if 'A' ≤ character ∧ character ≤ 'F' then some (character.toNat - 'A'.toNat + 10)
  else none

end StaticInjection.Text
