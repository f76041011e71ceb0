import StaticInjection.Json.Reader
import StaticInjection.Json.Printer
import StaticInjection.Proofs.Json.Token

/-! # Values and their texts

Every value is read back from its tokens, and from its compact text unless a number
with a fraction or an exponent lies in it. -/

namespace StaticInjection.Json

/-! ## Tokens

No value begins with a closing token, so the reader knows an empty array or object by its second
token. -/

theorem tokens_ne_rightBracket (value : Json) (rest later : List Token) :
    value.tokens ++ rest ≠ .rightBracket :: later := by
  cases value <;> simp [tokens]

theorem length_tokens_pos (value : Json) : 0 < value.tokens.length := by
  cases value <;> simp [tokens]

theorem itemTokens_ne_rightBracket (item : Json) (items : List Json) (rest later : List Token) :
    itemTokens (item :: items) ++ rest ≠ .rightBracket :: later := by
  cases items with
  | nil => exact item.tokens_ne_rightBracket rest later
  | cons next items =>
    rw [itemTokens, List.append_assoc]
    exact item.tokens_ne_rightBracket _ later

theorem fieldTokens_ne_rightBrace (field : Option String × Json)
    (fields : List (Option String × Json)) (rest later : List Token) :
    fieldTokens (field :: fields) ++ rest ≠ .rightBrace :: later := by
  cases fields <;> simp [fieldTokens]

theorem readValue_items {tokens rest : List Token} {items : List Json} (bound : Nat)
    (notClosed : ∀ later, tokens ≠ .rightBracket :: later)
    (read : readItems bound tokens = some (items, rest)) :
    readValue (bound + 1) (.leftBracket :: tokens) = some (.array items, rest) := by
  rw [readValue, read]
  · rfl
  · exact notClosed

theorem readValue_fields {tokens rest : List Token} {fields : List (Option String × Json)}
    (bound : Nat) (notClosed : ∀ later, tokens ≠ .rightBrace :: later)
    (read : readFields bound tokens = some (fields, rest)) :
    readValue (bound + 1) (.leftBrace :: tokens) = some (.object fields, rest) := by
  rw [readValue, read]
  · rfl
  · exact notClosed

-- The induction is on the value. A list of items or fields takes one step more than twice its
-- tokens, which the bracket or brace in front of it pays for.
mutual

theorem readValue_tokens (value : Json) (rest : List Token) (bound : Nat)
    (enough : 2 * value.tokens.length ≤ bound) :
    readValue bound (value.tokens ++ rest) = some (value, rest) := by
  have someToken := value.length_tokens_pos
  obtain ⟨bound, rfl⟩ : ∃ smaller, bound = smaller + 1 := Nat.exists_eq_add_of_le' (by omega)
  match value with
  | .null | .bool _ | .integer _ | .decimal _ | .string _ =>
    rw [tokens, List.singleton_append, readValue]
  | .array [] | .object [] => rfl
  | .array (item :: items) =>
    rw [tokens, List.length_append, List.length_cons] at enough
    rw [tokens, List.append_assoc, List.cons_append]
    exact readValue_items bound (itemTokens_ne_rightBracket item items _)
      (readItems_itemTokens (item :: items) (List.cons_ne_nil _ _) rest bound (by omega))
  | .object (field :: fields) =>
    rw [tokens, List.length_append, List.length_cons] at enough
    rw [tokens, List.append_assoc, List.cons_append]
    exact readValue_fields bound (fieldTokens_ne_rightBrace field fields _)
      (readFields_fieldTokens (field :: fields) (List.cons_ne_nil _ _) rest bound (by omega))

theorem readItems_itemTokens (items : List Json) (someItem : items ≠ []) (rest : List Token)
    (bound : Nat) (enough : 2 * (itemTokens items).length + 1 ≤ bound) :
    readItems bound (itemTokens items ++ .rightBracket :: rest) = some (items, rest) := by
  obtain ⟨bound, rfl⟩ : ∃ smaller, bound = smaller + 1 :=
    Nat.exists_eq_add_of_le' (Nat.le_trans (Nat.le_add_left 1 _) enough)
  match items with
  | [item] =>
    rw [itemTokens] at enough
    rw [readItems, itemTokens, readValue_tokens item _ bound (by omega)]
    rfl
  | item :: next :: items =>
    rw [itemTokens, List.length_append, List.length_cons] at enough
    have later := readItems_itemTokens (next :: items) (List.cons_ne_nil _ _) rest bound
      (by omega)
    rw [readItems, itemTokens, List.append_assoc, readValue_tokens item _ bound (by omega),
      List.cons_append]
    simp [later]

theorem readFields_fieldTokens (fields : List (Option String × Json)) (someField : fields ≠ [])
    (rest : List Token) (bound : Nat) (enough : 2 * (fieldTokens fields).length + 1 ≤ bound) :
    readFields bound (fieldTokens fields ++ .rightBrace :: rest) = some (fields, rest) := by
  obtain ⟨bound, rfl⟩ : ∃ smaller, bound = smaller + 1 :=
    Nat.exists_eq_add_of_le' (Nat.le_trans (Nat.le_add_left 1 _) enough)
  match fields with
  | [(name, value)] =>
    rw [fieldTokens, List.length_cons, List.length_cons] at enough
    rw [fieldTokens, List.cons_append, List.cons_append, readFields,
      readValue_tokens value _ bound (by omega)]
    rfl
  | (name, value) :: next :: fields =>
    rw [fieldTokens, List.length_append, List.length_cons, List.length_cons,
      List.length_cons] at enough
    have later := readFields_fieldTokens (next :: fields) (List.cons_ne_nil _ _) rest bound
      (by omega)
    simp only [fieldTokens, List.cons_append, List.append_assoc]
    rw [readFields, readValue_tokens value _ bound (by omega)]
    simp [later]

end

theorem ofTokens?_tokens (value : Json) : ofTokens? value.tokens = some value := by
  have read := readValue_tokens value [] (2 * value.tokens.length) le_rfl
  rw [List.append_nil] at read
  rw [ofTokens?, read]

/-! ## Compact text -/

namespace Token

theorem apart_cons {token : Token} {rest : List Token} (notInteger : token.isInteger = false)
    (apart : rest.IsChain Apart) : (token :: rest).IsChain Apart :=
  apart.cons fun _ _ integer => absurd integer (by simp [notInteger])

end Token

-- A value always stands before a mark, or at the end.
mutual

theorem tokens_apart (value : Json) (rest : List Token) (apart : rest.IsChain Token.Apart)
    (beforeMark : ∀ next ∈ rest.head?, next.isMark = true) :
    (value.tokens ++ rest).IsChain Token.Apart := by
  match value with
  | .null | .bool _ | .integer _ | .decimal _ | .string _ =>
    exact apart.cons fun next first _ => beforeMark next first
  | .array items =>
    rw [tokens, List.append_assoc, List.cons_append]
    exact Token.apart_cons rfl
      (itemTokens_apart items _ (Token.apart_cons rfl apart) (by simp [Token.isMark]))
  | .object fields =>
    rw [tokens, List.append_assoc, List.cons_append]
    exact Token.apart_cons rfl
      (fieldTokens_apart fields _ (Token.apart_cons rfl apart) (by simp [Token.isMark]))

theorem itemTokens_apart (items : List Json) (rest : List Token)
    (apart : rest.IsChain Token.Apart) (beforeMark : ∀ next ∈ rest.head?, next.isMark = true) :
    (itemTokens items ++ rest).IsChain Token.Apart := by
  match items with
  | [] => exact apart
  | [item] => exact tokens_apart item rest apart beforeMark
  | item :: next :: items =>
    rw [itemTokens, List.append_assoc, List.cons_append]
    exact tokens_apart item _
      (Token.apart_cons rfl (itemTokens_apart (next :: items) rest apart beforeMark))
      (by simp [Token.isMark])

theorem fieldTokens_apart (fields : List (Option String × Json)) (rest : List Token)
    (apart : rest.IsChain Token.Apart) (beforeMark : ∀ next ∈ rest.head?, next.isMark = true) :
    (fieldTokens fields ++ rest).IsChain Token.Apart := by
  match fields with
  | [] => exact apart
  | [(name, value)] =>
    exact Token.apart_cons rfl (Token.apart_cons rfl (tokens_apart value rest apart beforeMark))
  | (name, value) :: next :: fields =>
    simp only [fieldTokens, List.cons_append, List.append_assoc]
    refine Token.apart_cons rfl (Token.apart_cons rfl (tokens_apart value _ ?_ ?_))
    · exact Token.apart_cons rfl (fieldTokens_apart (next :: fields) rest apart beforeMark)
    · simp [Token.isMark]

end

/-- No number with a fraction or an exponent lies in the value. -/
def IsExact (value : Json) : Prop :=
  ∀ token ∈ value.tokens, token.isDecimal = false

theorem itemTokens_exact : ∀ items : List Json,
    (∀ token ∈ itemTokens items, token.isDecimal = false) ↔ ∀ item ∈ items, item.IsExact
  | [] => by simp [itemTokens]
  | [item] => by simp [itemTokens, IsExact]
  | item :: next :: items => by
    rw [itemTokens, List.forall_mem_append, List.forall_mem_cons,
      itemTokens_exact (next :: items), List.forall_mem_cons (a := item)]
    simp [IsExact, Token.isDecimal]

theorem fieldTokens_exact : ∀ fields : List (Option String × Json),
    (∀ token ∈ fieldTokens fields, token.isDecimal = false) ↔
      ∀ field ∈ fields, field.2.IsExact
  | [] => by simp [fieldTokens]
  | [(name, value)] => by simp [fieldTokens, IsExact, Token.isDecimal]
  | (name, value) :: next :: fields => by
    rw [fieldTokens, List.forall_mem_append, List.forall_mem_cons, List.forall_mem_cons,
      List.forall_mem_cons, fieldTokens_exact (next :: fields),
      List.forall_mem_cons (a := (name, value))]
    simp [IsExact, Token.isDecimal]

@[simp] theorem isExact_bool (value : Bool) : (bool value).IsExact := by
  simp [IsExact, tokens, Token.isDecimal]

@[simp] theorem isExact_number (value : Nat) : (number value).IsExact := by
  simp [IsExact, number, tokens, Token.isDecimal]

@[simp] theorem isExact_text (content : String) : (text content).IsExact := by
  simp [IsExact, text, tokens, Token.isDecimal]

@[simp] theorem isExact_array (items : List Json) :
    (array items).IsExact ↔ ∀ item ∈ items, item.IsExact := by
  rw [← itemTokens_exact, IsExact, tokens, List.forall_mem_append, List.forall_mem_cons]
  simp [Token.isDecimal]

@[simp] theorem isExact_texts (contents : List String) : (texts contents).IsExact := by
  simp [texts]

@[simp] theorem isExact_record (fields : List (String × Json)) :
    (record fields).IsExact ↔ ∀ field ∈ fields, field.2.IsExact := by
  rw [record, IsExact, tokens, List.forall_mem_append, List.forall_mem_cons, fieldTokens_exact,
    List.forall_mem_map]
  simp [Token.isDecimal]

theorem parse_compact (value : Json) (exact : value.IsExact) :
    parse value.compact = some value := by
  have apart := value.tokens_apart [] .nil nofun
  rw [List.append_nil] at apart
  rw [parse, compact, String.toList_ofList, Token.readAll_write value.tokens exact apart]
  exact value.ofTokens?_tokens

end StaticInjection.Json
