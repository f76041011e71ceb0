import StaticInjection.Text.HiddenTable

namespace StaticInjection.Text

/-! Quoted text: a literal between double quotes in which every character can be seen. -/

def isHidden (character : Char) : Bool :=
  CodeRange.holds hiddenRanges character

/-- Hexadecimal digits in lower case, without leading zeros. -/
def hexadecimal (number : Nat) : List Char :=
  Nat.toDigits 16 number

def quoteCharacter (character : Char) : List Char :=
  match character with
  | '\x00' => ['\\', '0']
  | '\t' => ['\\', 't']
  | '\r' => ['\\', 'r']
  | '\n' => ['\\', 'n']
  | '\"' => ['\\', '\"']
  | '\\' => ['\\', '\\']
  | other =>
    if isHidden other then "\\u\x7b".toList ++ hexadecimal other.toNat ++ ['\x7d'] else [other]

def quote (text : String) : String :=
  String.ofList ('\"' :: text.toList.flatMap quoteCharacter ++ ['\"'])

example : quote "a\t'\"e\u0301 " = "\"a\\t'\\\"e\\u\x7b301\x7d \"" := by decide +kernel

end StaticInjection.Text
