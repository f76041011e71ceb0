import StaticInjection.Text.Digits

namespace StaticInjection.Toml

/-! The four ways to quote a text. Each function reads from after the opening quotes and gives the
content and what follows the closing quotes. -/

/-- Control characters other than the tab may not stand in a quoted text or a comment. -/
def isPlain (character : Char) : Bool :=
  character = '\t' || (0x20 ≤ character.toNat && character.toNat != 0x7f)

/-- Between apostrophes nothing is escaped. -/
def readLiteral : List Char → Option (List Char × List Char)
  | [] => none
  | '\'' :: rest => some ([], rest)
  | head :: tail =>
    if isPlain head then
      (readLiteral tail).map fun (content, rest) => (head :: content, rest)
    else none

/-- A code point given by hexadecimal digits. -/
def codePoint? (digits : List Char) : Option Char := do
  let values ← digits.mapM Text.hexValue?
  let code := values.foldl (fun code value => code * 16 + value) 0
  if Nat.isValidChar code then some (Char.ofNat code) else none

/-- The character that an escape sequence stands for, with what follows the sequence. -/
def readEscape : List Char → Option (Char × List Char)
  | 'u' :: rest =>
    if rest.length < 4 then none
    else (codePoint? (rest.take 4)).map fun character => (character, rest.drop 4)
  | 'U' :: rest =>
    if rest.length < 8 then none
    else (codePoint? (rest.take 8)).map fun character => (character, rest.drop 8)
  | 'b' :: rest => some ('\x08', rest)
  | 't' :: rest => some ('\t', rest)
  | 'n' :: rest => some ('\n', rest)
  | 'f' :: rest => some ('\x0c', rest)
  | 'r' :: rest => some ('\r', rest)
  | '\"' :: rest => some ('\"', rest)
  | '\\' :: rest => some ('\\', rest)
  | _ => none

/-- The number bounds the characters that are read. -/
def readBasicWithin : Nat → List Char → Option (List Char × List Char)
  | 0, _ => none
  | _ + 1, [] => none
  | _ + 1, '\"' :: rest => some ([], rest)
  | bound + 1, '\\' :: rest => do
    let (character, rest) ← readEscape rest
    let (content, rest) ← readBasicWithin bound rest
    return (character :: content, rest)
  | bound + 1, head :: tail =>
    if isPlain head then
      (readBasicWithin bound tail).map fun (content, rest) => (head :: content, rest)
    else none

def readBasic (text : List Char) : Option (List Char × List Char) :=
  readBasicWithin (text.length + 1) text

/-! ## Several lines -/

/-- A line end at the very start does not belong to the text. -/
def dropLineEnd : List Char → List Char
  | '\n' :: rest => rest
  | '\r' :: '\n' :: rest => rest
  | text => text

/-- Up to two quotes may stand in front of the three that close the text. -/
def closing? (quote : Char) (text : List Char) : Option (List Char × List Char) :=
  let quotes := (text.takeWhile (· = quote)).length
  if quotes < 3 then none
  else
    let inside := min (quotes - 3) 2
    some (List.replicate inside quote, text.drop (inside + 3))

/-- Nothing but blanks up to the end of a line, which is then left out with all blanks and line ends
that follow. -/
def foldedLine? (text : List Char) : Option (List Char) :=
  let isSpace (character : Char) := character = ' ' || character = '\t'
  let rest := text.dropWhile isSpace
  let after := dropLineEnd rest
  if after.length < rest.length then
    some (after.dropWhile fun character => isSpace character || character = '\n' || character = '\r')
  else none

/-- Both kinds of line ends are read as line feeds. The number bounds the characters that are read. -/
def readLinesWithin (quote : Char) (escapes : Bool) :
    Nat → List Char → Option (List Char × List Char)
  | 0, _ => none
  | _ + 1, [] => none
  | bound + 1, head :: tail =>
    let text := head :: tail
    let next (character : Char) (rest : List Char) :=
      (readLinesWithin quote escapes bound rest).map fun (content, rest) =>
        (character :: content, rest)
    match closing? quote text with
    | some closed => some closed
    | none =>
      if escapes && head = '\\' then
        match foldedLine? tail with
        | some rest => readLinesWithin quote escapes bound rest
        | none => (readEscape tail).bind fun (character, rest) => next character rest
      else if (dropLineEnd text).length < text.length then next '\n' (dropLineEnd text)
      else if isPlain head then next head tail
      else none

def readLines (quote : Char) (escapes : Bool) (text : List Char) : Option (List Char × List Char) :=
  readLinesWithin quote escapes (text.length + 1) (dropLineEnd text)

/-! ## Any quotes -/

/-- A text on one line, from its opening quote on. -/
def readOneLine : List Char → Option (List Char × List Char)
  | '\"' :: rest => readBasic rest
  | '\'' :: rest => readLiteral rest
  | _ => none

def readQuoted : List Char → Option (List Char × List Char)
  | '\"' :: '\"' :: '\"' :: rest => readLines '\"' true rest
  | '\'' :: '\'' :: '\'' :: rest => readLines '\'' false rest
  | text => readOneLine text

example : readQuoted "\"\"\"\na\\\n   b\"\"\"\"#".toList = some ("ab\"".toList, ['#']) := by
  decide +kernel

end StaticInjection.Toml
