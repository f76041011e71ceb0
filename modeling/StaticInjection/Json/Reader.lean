import StaticInjection.Json.Basic
import StaticInjection.Json.Token

namespace StaticInjection.Json

/-! Reading a JSON text: its tokens first, then the value they spell. -/

mutual

/-- The value at the front of the tokens, and the tokens after it. The number bounds the steps. -/
def readValue : Nat → List Token → Option (Json × List Token)
  | 0, _ => none
  | _ + 1, [] => none
  | bound + 1, token :: rest =>
    match token with
    | .null => some (.null, rest)
    | .bool value => some (.bool value, rest)
    | .integer value => some (.integer value, rest)
    | .decimal literal => some (.decimal literal, rest)
    | .string content => some (.string content, rest)
    | .leftBracket =>
      match rest with
      | .rightBracket :: rest => some (.array [], rest)
      | _ => do
        let (items, rest) ← readItems bound rest
        return (.array items, rest)
    | .leftBrace =>
      match rest with
      | .rightBrace :: rest => some (.object [], rest)
      | _ => do
        let (fields, rest) ← readFields bound rest
        return (.object fields, rest)
    | _ => none

/-- One item at least, up to the closing bracket. -/
def readItems : Nat → List Token → Option (List Json × List Token)
  | 0, _ => none
  | bound + 1, tokens => do
    let (item, rest) ← readValue bound tokens
    match rest with
    | .rightBracket :: rest => return ([item], rest)
    | .comma :: rest =>
      let (items, rest) ← readItems bound rest
      return (item :: items, rest)
    | _ => none

/-- One field at least, up to the closing brace. -/
def readFields : Nat → List Token → Option (List (Option String × Json) × List Token)
  | 0, _ => none
  | bound + 1, .string name :: .colon :: tokens => do
    let (value, rest) ← readValue bound tokens
    match rest with
    | .rightBrace :: rest => return ([(name, value)], rest)
    | .comma :: rest =>
      let (fields, rest) ← readFields bound rest
      return ((name, value) :: fields, rest)
    | _ => none
  | _ + 1, _ => none

end

/-- Each level of nesting takes at most two steps for its first token. -/
def ofTokens? (tokens : List Token) : Option Json :=
  match readValue (2 * tokens.length) tokens with
  | some (value, []) => some value
  | _ => none

def parse (text : String) : Option Json := do
  ofTokens? (← Token.readAll text.toList)

end StaticInjection.Json
