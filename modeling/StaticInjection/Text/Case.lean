import StaticInjection.Text.CaseTable

namespace StaticInjection.Text

/-! Letter case. Characters below 128 are decided without a table. -/

def isUpper (character : Char) : Bool :=
  if character.toNat < 128 then character.isUpper else CodeRange.holds upperRanges character

def isLower (character : Char) : Bool :=
  if character.toNat < 128 then character.isLower else CodeRange.holds lowerRanges character

/-- The lower case form, without regard to neighbours. -/
def lower (character : Char) : List Char :=
  if character.toNat < 128 then [character.toLower]
  else if character = '\u0130' then ['i', '\u0307']
  else [CodeRange.shift lowerShifts character]

/-- The first character of the lower case form. -/
def lowerInitial (character : Char) : Char :=
  (lower character).headD character

/-- The first character of the upper case form. -/
def upperInitial (character : Char) : Char :=
  if character.toNat < 128 then character.toUpper else CodeRange.shift upperShifts character

/-- Lower case character by character. A capital sigma becomes `σ` also at the end of a word. -/
def lowercase (text : String) : String :=
  String.ofList (text.toList.flatMap lower)

example : lowercase "Per-REQUEST" = "per-request" := by decide +kernel
example : lowercase "\u212a\u0130" = "ki\u0307" := by decide +kernel
example : upperInitial 'ß' = 'S' ∧ upperInitial 'ǆ' = 'Ǆ' ∧ lowerInitial 'Σ' = 'σ' := by decide +kernel

end StaticInjection.Text
