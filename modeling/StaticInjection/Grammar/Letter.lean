import StaticInjection.Grammar.LetterTable

namespace StaticInjection.Grammar

/-! Identifiers. -/

def isInitial (character : Char) : Bool :=
  if character.toNat < 128 then character.isAlpha || character == '_'
  else Text.CodeRange.holds initialRanges character

def isFollowing (character : Char) : Bool :=
  if character.toNat < 128 then character.isAlphanum || character == '_'
  else Text.CodeRange.holds followingRanges character

/-- The longest identifier at the front. -/
def splitWord : List Char → Option (List Char × List Char)
  | [] => none
  | first :: rest =>
    if isInitial first then some (first :: rest.takeWhile isFollowing, rest.dropWhile isFollowing)
    else none

/-- What follows the identifier at the front, if there is one. -/
def afterWord (text : List Char) : List Char :=
  match splitWord text with
  | some (_, rest) => rest
  | none => text

end StaticInjection.Grammar
