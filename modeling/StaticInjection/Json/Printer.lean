import StaticInjection.Json.Basic
import StaticInjection.Json.Token

namespace StaticInjection.Json

/-! The two written forms of a value: without any white space, and with a line for every item and
field, indented by two spaces for each level. -/

mutual

def tokens : Json → List Token
  | .null => [.null]
  | .bool value => [.bool value]
  | .integer value => [.integer value]
  | .decimal literal => [.decimal literal]
  | .string content => [.string content]
  | .array items => .leftBracket :: itemTokens items ++ [.rightBracket]
  | .object fields => .leftBrace :: fieldTokens fields ++ [.rightBrace]

def itemTokens : List Json → List Token
  | [] => []
  | [item] => item.tokens
  | item :: next :: rest => item.tokens ++ .comma :: itemTokens (next :: rest)

def fieldTokens : List (Option String × Json) → List Token
  | [] => []
  | [(name, value)] => .string name :: .colon :: value.tokens
  | (name, value) :: next :: rest =>
    .string name :: .colon :: value.tokens ++ .comma :: fieldTokens (next :: rest)

end

def compact (value : Json) : String :=
  String.ofList (value.tokens.flatMap Token.write)

def newLine (depth : Nat) : List Char :=
  '\n' :: List.replicate (2 * depth) ' '

mutual

def prettyText (depth : Nat) : Json → List Char
  | .null => Token.null.write
  | .bool value => (Token.bool value).write
  | .integer value => (Token.integer value).write
  | .decimal literal => literal
  | .string content => Token.stringText content
  | .array [] => ['[', ']']
  | .array (item :: items) =>
    '[' :: prettyItems (depth + 1) (item :: items) ++ newLine depth ++ [']']
  | .object [] => ['\x7b', '\x7d']
  | .object (field :: fields) =>
    '\x7b' :: prettyFields (depth + 1) (field :: fields) ++ newLine depth ++ ['\x7d']

def prettyItems (depth : Nat) : List Json → List Char
  | [] => []
  | [item] => newLine depth ++ prettyText depth item
  | item :: next :: rest =>
    newLine depth ++ prettyText depth item ++ ',' :: prettyItems depth (next :: rest)

def prettyFields (depth : Nat) : List (Option String × Json) → List Char
  | [] => []
  | [(name, value)] => newLine depth ++ Token.stringText name ++ ':' :: ' ' :: prettyText depth value
  | (name, value) :: next :: rest =>
    newLine depth ++ Token.stringText name ++ ':' :: ' ' :: prettyText depth value ++
      ',' :: prettyFields depth (next :: rest)

end

def pretty (value : Json) : String :=
  String.ofList (prettyText 0 value)

end StaticInjection.Json
