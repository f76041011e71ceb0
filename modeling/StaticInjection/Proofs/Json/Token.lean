import StaticInjection.Json.Token
import Mathlib.Data.List.Chain

/-! # Tokens and their texts

Every token but a number with a fraction or an exponent is read back from the front of
a text that begins with it; only an integer has to come to an end there, since its
digits could go on. So a list of tokens is read back from its text when what follows
each integer in it is a mark. -/

namespace StaticInjection.Json.Token

/-! ## Strings -/

theorem hexValue?_hexDigit : ∀ number < 16, Text.hexValue? (hexDigit number) = some number := by
  decide

theorem hexCode?_control (code : Nat) (control : code < 0x20) :
    hexCode? '0' '0' (hexDigit (code / 16)) (hexDigit (code % 16)) = some code := by
  have zero : Text.hexValue? '0' = some 0 := by decide
  rw [hexCode?, zero, hexValue?_hexDigit _ (by omega), hexValue?_hexDigit _ (by omega)]
  simp only [Option.bind_eq_bind, Option.bind_some, Option.pure_def, Option.some.injEq]
  omega

theorem readCodes_escape {codes : List Nat} {rest after : List Char} (character : Char)
    (found : readCodes rest = some (codes, after)) :
    readCodes (escape character ++ rest) = some (character.toNat :: codes, after) := by
  fun_cases escape character
  case case8 control => simp [readCodes, hexCode?_control _ control, found]
  case case9 notQuote notSlash _ _ _ _ _ printable =>
    rw [List.singleton_append, readCodes, if_neg (not_or.mpr ⟨printable, notSlash⟩), found]
    · rfl
    · exact notQuote
    · exact fun _ _ _ _ _ slash => absurd slash notSlash
    · exact fun _ _ slash => absurd slash notSlash
  all_goals simp [readCodes, unescape?, found]

theorem readCodes_content (content after : List Char) :
    readCodes (content.flatMap escape ++ '\"' :: after) = some (content.map Char.toNat, after) := by
  induction content with
  | nil => rfl
  | cons character content read =>
    rw [List.flatMap_cons, List.append_assoc, readCodes_escape character read, List.map_cons]

theorem character_not_half (character : Char) :
    isHighHalf character.toNat = false ∧ isLowHalf character.toNat = false := by
  have valid : character.toNat < 0xd800 ∨
      0xdfff < character.toNat ∧ character.toNat < 0x110000 := character.valid
  simp only [isHighHalf, isLowHalf, Bool.and_eq_false_iff, decide_eq_false_iff_not]
  omega

theorem joinHalves_content (content : List Char) :
    joinHalves (content.map Char.toNat) = some content := by
  induction content with
  | nil => rfl
  | cons character content joined =>
    have notHalf := character_not_half character
    cases content with
    | nil => simp [joinHalves, notHalf]
    | cons next rest =>
      rw [List.map_cons, List.map_cons, joinHalves, ← List.map_cons, joined]
      simp [notHalf]

theorem read_quote (text : List Char) :
    read ('\"' :: text) = (do
      let (codes, rest) ← readCodes text
      return (.string ((joinHalves codes).map String.ofList), rest)) :=
  rfl

theorem stringText_some (content : String) :
    stringText (some content) = '\"' :: (content.toList.flatMap escape ++ ['\"']) :=
  rfl

theorem stringText_none : stringText none = ['\"', '\\', 'u', 'd', '8', '0', '0', '\"'] := rfl

theorem read_stringText (content : Option String) (rest : List Char) :
    read (stringText content ++ rest) = some (.string content, rest) := by
  cases content with
  | none =>
    rw [stringText_none, List.cons_append, read_quote]
    rfl
  | some content =>
    rw [stringText_some, List.cons_append, List.append_assoc, List.singleton_append, read_quote,
      readCodes_content]
    simp [joinHalves_content]

/-! ## Integers -/

/-- A number that stands before the text has come to its end. -/
def EndsNumber (text : List Char) : Prop :=
  ∀ mark ∈ text.head?, isDigit mark = false ∧ mark ≠ '.' ∧ mark ≠ 'e' ∧ mark ≠ 'E'

theorem number_digits (value : Nat) : number (digits value) = value := by
  have same : number (digits value) = Nat.ofDigitChars 10 (digits value) 0 := by
    simp [number, Nat.ofDigitChars_eq_foldl, Nat.mul_comm]
  rw [same, digits, Nat.ofDigitChars_ten_toDigits]

theorem isDigit_of_mem_digits {value : Nat} {mark : Char} (member : mark ∈ digits value) :
    isDigit mark = true := by
  have digit : mark.isDigit = true :=
    Nat.isDigit_of_mem_toDigits (by decide) (by decide) member
  simpa [isDigit, Char.isDigit, Char.le_def] using digit

theorem head_digits_ne_zero (value : Nat) (positive : 0 < value) :
    (digits value).head? ≠ some '0' := by
  induction value using Nat.strong_induction_on with
  | _ value earlier =>
    by_cases small : value < 10
    · have nonzero : value ≠ 0 := by omega
      simp [digits, Nat.toDigits_of_lt_base small, nonzero]
    · rw [digits, Nat.toDigits_of_base_le (by decide) (by omega),
        List.head?_append_of_ne_nil _ Nat.toDigits_ne_nil]
      exact earlier (value / 10) (by omega) (by omega)

theorem whole_digits (value : Nat) (rest : List Char) (ends : EndsNumber rest) :
    whole (digits value ++ rest) = some (digits value, rest) := by
  obtain rfl | positive := Nat.eq_zero_or_pos value
  · rfl
  have all : ∀ mark ∈ digits value, isDigit mark = true := fun _ => isDigit_of_mem_digits
  have stop : rest.takeWhile isDigit = [] ∧ rest.dropWhile isDigit = rest := by
    cases rest with
    | nil => exact ⟨rfl, rfl⟩
    | cons mark rest => simp [(ends mark rfl).1]
  have notEmpty : digits value ≠ [] := Nat.toDigits_ne_nil
  rw [whole]
  · simp [List.takeWhile_append_of_pos all, List.dropWhile_append_of_pos all, stop, notEmpty]
  · intro tail starts
    refine head_digits_ne_zero value positive ?_
    rw [← List.head?_append_of_ne_nil _ notEmpty, starts, List.head?_cons]

theorem fraction_of_ends {rest : List Char} (ends : EndsNumber rest) :
    fraction rest = some ([], rest) := by
  rw [fraction]
  exact fun tail starts => (ends '.' (by rw [starts]; rfl)).2.1 rfl

theorem exponent_of_ends {rest : List Char} (ends : EndsNumber rest) :
    exponent rest = some ([], rest) := by
  cases rest with
  | nil => rfl
  | cons mark rest =>
    rw [exponent, if_neg (not_or.mpr (ends mark rfl).2.2)]

theorem readNumber_digits (negative : Bool) (value : Nat) (rest : List Char)
    (ends : EndsNumber rest) (notMinusZero : negative = true → value ≠ 0) :
    readNumber negative (digits value ++ rest) =
      some (.integer (if negative then -value else value), rest) := by
  rw [readNumber, whole_digits value rest ends]
  simpa [fraction_of_ends ends, exponent_of_ends ends, number_digits] using notMinusZero

theorem read_minus (text : List Char) : read ('-' :: text) = readNumber true text := rfl

/-- What the tokens other than numbers begin with, and the minus. -/
def leads : List Char :=
  ['\x7b', '\x7d', '[', ']', ':', ',', 'n', 't', 'f', '\"', '-']

theorem read_of_not_mem_leads {mark : Char} (text : List Char) (other : mark ∉ leads) :
    read (mark :: text) = readNumber false (mark :: text) := by
  rw [read]
  case x_1 => exact nofun
  all_goals
    rintro rest ⟨⟩
    exact other (by decide)

theorem read_of_isDigit {mark : Char} (text : List Char) (digit : isDigit mark = true) :
    read (mark :: text) = readNumber false (mark :: text) := by
  have none : leads.any isDigit = false := by decide
  exact read_of_not_mem_leads text fun lead => List.any_eq_false.mp none mark lead digit

theorem read_integerText (value : Int) (rest : List Char) (ends : EndsNumber rest) :
    read (integerText value ++ rest) = some (.integer value, rest) := by
  cases value with
  | ofNat value =>
    obtain ⟨mark, tail, split⟩ : ∃ mark tail, digits value = mark :: tail :=
      List.exists_cons_of_ne_nil Nat.toDigits_ne_nil
    have digit : isDigit mark = true := isDigit_of_mem_digits (split ▸ List.mem_cons_self)
    have same : read (digits value ++ rest) = readNumber false (digits value ++ rest) := by
      rw [split, List.cons_append, read_of_isDigit _ digit]
    rw [integerText, same, readNumber_digits false value rest ends nofun]
    rfl
  | negSucc value =>
    rw [integerText, List.cons_append, read_minus,
      readNumber_digits true (value + 1) rest ends (by simp)]
    rfl

/-! ## Lists of tokens -/

def isDecimal : Token → Bool
  | decimal _ => true
  | _ => false

def isInteger : Token → Bool
  | integer _ => true
  | _ => false

/-- Braces, brackets, colon and comma. -/
def isMark : Token → Bool
  | leftBrace | rightBrace | leftBracket | rightBracket | colon | comma => true
  | _ => false

theorem read_write (token : Token) (rest : List Char) (exact : token.isDecimal = false)
    (ends : token.isInteger = true → EndsNumber rest) :
    read (token.write ++ rest) = some (token, rest) := by
  cases token with
  | decimal => cases exact
  | integer value => exact read_integerText value rest (ends rfl)
  | string content => exact read_stringText content rest
  | bool value => cases value <;> rfl
  | _ => rfl

theorem read_of_isSpace {mark : Char} (text : List Char) (space : isSpace mark = true) :
    read (mark :: text) = none := by
  have noDigit : isDigit mark = false := by
    simp only [isSpace, Bool.or_eq_true, beq_iff_eq] at space
    obtain ((rfl | rfl) | rfl) | rfl := space <;> decide
  have none : leads.any isSpace = false := by decide
  have other : mark ∉ leads := fun lead => List.any_eq_false.mp none mark lead space
  rw [read_of_not_mem_leads text other, readNumber, whole]
  · simp [noDigit]
  · rintro rest ⟨⟩
    revert space
    decide

theorem readMany_of_read {text rest : List Char} {token : Token} (bound : Nat)
    (found : read text = some (token, rest)) :
    readMany (bound + 1) text = (readMany bound rest).map (token :: ·) := by
  have start : text.dropWhile isSpace = text := by
    cases text with
    | nil => rfl
    | cons mark text =>
      cases space : isSpace mark with
      | false => simp [space]
      | true => simp [read_of_isSpace text space] at found
  rw [readMany, start]
  cases text with
  | nil => cases found
  | cons mark text =>
    dsimp only
    rw [found, Option.bind_eq_bind, Option.bind_some, Option.map_eq_bind]
    rfl

theorem endsNumber_of_isMark {token : Token} (rest : List Char) (mark : token.isMark = true) :
    EndsNumber (token.write ++ rest) := by
  intro first member
  cases token <;> cases mark <;> cases member <;> decide

/-- What may follow a token without a space between their texts. -/
def Apart (before after : Token) : Prop :=
  before.isInteger = true → after.isMark = true

theorem readMany_write (tokens : List Token) (bound : Nat)
    (exact : ∀ token ∈ tokens, token.isDecimal = false) (apart : tokens.IsChain Apart)
    (enough : tokens.length ≤ bound) :
    readMany bound (tokens.flatMap write) = some tokens := by
  induction tokens generalizing bound with
  | nil => cases bound <;> rfl
  | cons token tokens read =>
    obtain ⟨bound, rfl⟩ := Nat.exists_eq_add_of_le' (Nat.le_trans (Nat.le_add_left 1 _) enough)
    have ends : token.isInteger = true → EndsNumber (tokens.flatMap write) := by
      intro integer
      cases tokens with
      | nil => exact nofun
      | cons next tokens =>
        exact endsNumber_of_isMark _ ((List.isChain_cons_cons.mp apart).1 integer)
    have found := read_write token (tokens.flatMap write) (exact token List.mem_cons_self) ends
    rw [List.flatMap_cons, readMany_of_read bound found,
      read bound (fun _ member => exact _ (List.mem_cons_of_mem _ member)) apart.tail
        (Nat.le_of_succ_le_succ enough)]
    rfl

theorem length_le_length_write (tokens : List Token)
    (exact : ∀ token ∈ tokens, token.isDecimal = false) :
    tokens.length ≤ (tokens.flatMap write).length := by
  induction tokens with
  | nil => rfl
  | cons token tokens shorter =>
    have notEmpty : token.write ≠ [] := by
      intro empty
      have found := read_write token [] (exact token List.mem_cons_self) fun _ => nofun
      rw [empty] at found
      cases found
    have first := List.length_pos_iff.mpr notEmpty
    have later := shorter fun _ member => exact _ (List.mem_cons_of_mem _ member)
    simp only [List.length_cons, List.flatMap_cons, List.length_append]
    omega

theorem readAll_write (tokens : List Token) (exact : ∀ token ∈ tokens, token.isDecimal = false)
    (apart : tokens.IsChain Apart) : readAll (tokens.flatMap write) = some tokens :=
  readMany_write tokens _ exact apart (length_le_length_write tokens exact)

end StaticInjection.Json.Token
