import StaticInjection.Grammar.Token
import StaticInjection.Naming.Identifier

namespace StaticInjection.Grammar

/-! Recognising types and constructor paths. Of a type only the outermost form is kept. -/

inductive TypeForm where
  /-- A path; the mark says that it is one segment without `::` in front. -/
  | path (single : Bool)
  /-- A path into a type, such as `<A as B>::C`. -/
  | qualifiedPath
  /-- A trait object without `dyn`; the mark says that it has one bound and no `+`. -/
  | bareObject (alone : Bool)
  | dynObject
  | implTrait
  | never
  | infer
  /-- Tuples, references, arrays, functions, macros, and anything in parentheses. -/
  | other
deriving DecidableEq, Repr

namespace TypeForm

def isObject : TypeForm → Bool
  | bareObject _ => true
  | dynObject => true
  | _ => false

end TypeForm

/-- A word that is no keyword. -/
def isName (word : String) : Bool :=
  word != "_" && !Naming.keywords.contains word

/-- Words that are path segments although they are keywords; they take no arguments. -/
def bareSegments : List String := ["super", "self", "crate", "try"]

def isLiteral : List Token → Option (List Token)
  | .literal _ :: rest => some rest
  | .word "true" :: rest => some rest
  | .word "false" :: rest => some rest
  | .mark "-" :: .literal .numeral :: rest => some rest
  | _ => none

def startsWith (text : String) : List Token → Bool
  | .mark found :: _ => found == text
  | _ => false

/-- Whether another bound follows a `+`. -/
def startsBound : List Token → Bool
  | .word _ :: _ => true
  | .lifetime :: _ => true
  | .mark "::" :: _ => true
  | .mark "?" :: _ => true
  | .leftBracket '(' :: _ => true
  | _ => false

/-- The lifetimes of a `for`, up to the closing `>`. -/
def skipLifetimes : List Token → Option (List Token)
  | .mark ">" :: rest => some rest
  | .lifetime :: .mark ">" :: rest => some rest
  | .lifetime :: .mark "," :: rest => skipLifetimes rest
  | _ => none

def skipQuantifier : List Token → Option (Bool × List Token)
  | .word "for" :: .mark "<" :: rest => (skipLifetimes rest).map fun rest => (true, rest)
  | .word "for" :: _ => none
  | rest => some (false, rest)

/-- The rest after a group whose brackets are counted. -/
def skipGroup : (depth : Nat) → List Token → Option (List Token)
  | _, [] => none
  | depth, .leftBracket _ :: rest => skipGroup (depth + 1) rest
  | depth, .rightBracket _ :: rest =>
    match depth with
    | 0 => none
    | 1 => some rest
    | outer + 1 => skipGroup outer rest
  | 0, _ => none
  | depth + 1, _ :: rest => skipGroup (depth + 1) rest

/-- The end of the parameters of a function type, in front of which dots may stand for more of them. -/
def afterLastParameter : List Token → Option (List Token)
  | .rightBracket '(' :: rest => some rest
  | .mark "..." :: .rightBracket '(' :: rest => some rest
  | .mark "..." :: .mark "," :: .rightBracket '(' :: rest => some rest
  | .word word :: .mark ":" :: .mark "..." :: rest =>
    if isName word || word == "_" then
      match rest with
      | .rightBracket '(' :: rest => some rest
      | .mark "," :: .rightBracket '(' :: rest => some rest
      | _ => none
    else none
  | _ => none

/-- What matters about a path: whether it is one segment without `::` in front, whether any segment
has arguments, and whether the last one has. -/
structure PathShape where
  single : Bool
  anyArguments : Bool
  lastArguments : Bool
deriving DecidableEq, Repr

mutual

/-- A type at the front of the tokens. Bounds joined by `+` are read only where they are allowed. The
number bounds the steps. -/
def readType (plus : Bool) : Nat → List Token → Option (TypeForm × List Token)
  | 0, _ => none
  | _ + 1, [] => none
  | bound + 1, token :: rest =>
    match token with
    | .word "for" => do
      let (_, rest) ← skipQuantifier (token :: rest)
      match rest with
      | .word word :: _ =>
        if ["fn", "unsafe", "extern"].contains word then readFunction bound rest
        else if isName word || ["super", "self", "Self", "crate"].contains word then
          readPathType plus true bound rest
        else none
      | _ => none
    | .leftBracket '(' => readParenthesized plus bound rest
    | .leftBracket '[' => do
      let (_, rest) ← readType true bound rest
      match rest with
      | .rightBracket '[' :: rest => some (.other, rest)
      | .mark ";" :: rest =>
        match ← readLength bound rest with
        | .rightBracket '[' :: rest => some (.other, rest)
        | _ => none
      | _ => none
    | .mark "*" =>
      match rest with
      | .word "const" :: rest => (readType false bound rest).map fun (_, rest) => (.other, rest)
      | .word "mut" :: rest => (readType false bound rest).map fun (_, rest) => (.other, rest)
      | _ => none
    | .mark "&" =>
      let rest := match rest with
        | .lifetime :: rest => rest
        | rest => rest
      let rest := match rest with
        | .word "mut" :: rest => rest
        | rest => rest
      (readType false bound rest).map fun (_, rest) => (.other, rest)
    | .mark "!" => some (.never, rest)
    | .word "_" => some (.infer, rest)
    | .word "impl" => do
      let (hasTrait, rest) ← readBounds plus bound rest
      if hasTrait then some (.implTrait, rest) else none
    | .word "dyn" => do
      let (hasTrait, rest) ← readBounds plus bound rest
      if hasTrait then some (.dynObject, rest) else none
    | .lifetime => do
      let (hasTrait, rest) ← readBounds true bound (token :: rest)
      if hasTrait then some (.bareObject false, rest) else none
    | .mark "<" => (readQualified false bound rest).map fun rest => (.qualifiedPath, rest)
    | .mark "::" => readPathType plus false bound (token :: rest)
    | .word word =>
      if ["fn", "unsafe", "extern"].contains word then readFunction bound (token :: rest)
      else if isName word || ["super", "self", "Self", "crate"].contains word then
        readPathType plus false bound (token :: rest)
      else none
    | _ => none

/-- A path, a macro, or a bare trait object that begins with a path. -/
def readPathType (plus quantified : Bool) : Nat → List Token → Option (TypeForm × List Token)
  | 0, _ => none
  | bound + 1, tokens => do
    let (shape, rest) ← readPath false bound tokens
    if startsWith "!" rest && !shape.anyArguments then
      let rest ← skipGroup 0 (rest.drop 1)
      return (.other, rest)
    else if plus && startsWith "+" rest then
      let rest ← readMoreBounds true bound rest
      return (.bareObject false, rest)
    else if quantified then return (.bareObject true, rest)
    else return (.path shape.single, rest)

/-- What follows an opening parenthesis: nothing, a tuple, a type, or the first bound of a bare trait
object. -/
def readParenthesized (plus : Bool) : Nat → List Token → Option (TypeForm × List Token)
  | 0, _ => none
  | bound + 1, tokens =>
    match tokens with
    | .rightBracket '(' :: rest => some (.other, rest)
    | .lifetime :: _ => do
      let (hasTrait, rest) ← readBounds true bound tokens
      match rest with
      | .rightBracket '(' :: rest => if hasTrait then some (.other, rest) else none
      | _ => none
    | .mark "?" :: _ =>
      match readTraitBound bound tokens with
      | some (.rightBracket '(' :: rest) => do
        let alone := !startsWith "+" rest
        let rest ← readMoreBounds false bound rest
        some (.bareObject alone, rest)
      | _ => none
    | _ => do
      let (form, rest) ← readType true bound tokens
      match rest with
      | .mark "," :: rest => (readTypes bound rest).map fun rest => (.other, rest)
      | .rightBracket '(' :: rest =>
        let joins := match form with
          | .path _ => true
          | .bareObject alone => alone
          | _ => false
        if plus && joins && startsWith "+" rest then
          let rest ← readMoreBounds false bound rest
          some (.bareObject false, rest)
        else some (.other, rest)
      | _ => none

/-- Types separated by commas, up to the closing parenthesis. -/
def readTypes : Nat → List Token → Option (List Token)
  | 0, _ => none
  | bound + 1, tokens =>
    match tokens with
    | .rightBracket '(' :: rest => some rest
    | _ => do
      let (_, rest) ← readType true bound tokens
      match rest with
      | .rightBracket '(' :: rest => some rest
      | .mark "," :: rest => readTypes bound rest
      | _ => none

/-- An optional result type after `->`. -/
def readResult : Nat → List Token → Option (List Token)
  | 0, _ => none
  | bound + 1, tokens =>
    match tokens with
    | .mark "->" :: rest => (readType false bound rest).map (·.2)
    | _ => some tokens

/-- A function type from its first keyword on. -/
def readFunction : Nat → List Token → Option (TypeForm × List Token)
  | 0, _ => none
  | bound + 1, tokens => do
    let rest := match tokens with
      | .word "unsafe" :: rest => rest
      | rest => rest
    let rest := match rest with
      | .word "extern" :: .literal .string :: rest => rest
      | .word "extern" :: rest => rest
      | rest => rest
    match rest with
    | .word "fn" :: .leftBracket '(' :: rest =>
      let rest ← readParameters true bound rest
      let rest ← readResult bound rest
      return (.other, rest)
    | _ => none

/-- Parameters with or without names, up to the closing parenthesis. Only the first may be `self`. -/
def readParameters (first : Bool) : Nat → List Token → Option (List Token)
  | 0, _ => none
  | bound + 1, tokens =>
    match afterLastParameter tokens with
    | some rest => some rest
    | none => do
      let rest ← match tokens with
        | .word "mut" :: .word "self" :: .mark ":" :: rest =>
          if first then (readType true bound rest).map (·.2) else none
        | .word "mut" :: .word "self" :: rest => if first then some rest else none
        | .word word :: .mark ":" :: rest =>
          if isName word || word == "_" || (first && word == "self") then
            (readType true bound rest).map (·.2)
          else none
        | _ => (readType true bound tokens).map (·.2)
      match rest with
      | .rightBracket '(' :: rest => some rest
      | .mark "," :: rest => readParameters false bound rest
      | _ => none

/-- What follows the `<` of a path into a type. -/
def readQualified (inExpression : Bool) : Nat → List Token → Option (List Token)
  | 0, _ => none
  | bound + 1, tokens => do
    let (_, rest) ← readType true bound tokens
    let rest ← match rest with
      | .word "as" :: rest => (readPath false bound rest).map (·.2)
      | rest => some rest
    match rest with
    | .mark ">" :: .mark "::" :: rest => (readSegments inExpression bound rest).map (·.2)
    | _ => none

def readPath (inExpression : Bool) : Nat → List Token → Option (PathShape × List Token)
  | 0, _ => none
  | bound + 1, tokens =>
    match tokens with
    | .mark "::" :: rest => do
      let (shape, rest) ← readSegments inExpression bound rest
      return ({ shape with single := false }, rest)
    | _ => readSegments inExpression bound tokens

/-- Segments separated by `::`. In expressions the arguments of a segment need `::` as well. -/
def readSegments (inExpression : Bool) : Nat → List Token → Option (PathShape × List Token)
  | 0, _ => none
  | bound + 1, tokens =>
    match tokens with
    | .word word :: rest => do
      let (arguments, rest) ←
        if bareSegments.contains word then some (false, rest)
        else if word == "Self" || isName word then
          match rest with
          | .mark "<" :: inner =>
            if inExpression then some (false, rest)
            else (readArguments bound inner).map fun rest => (true, rest)
          | .mark "::" :: .mark "<" :: inner =>
            (readArguments bound inner).map fun rest => (true, rest)
          | _ => some (false, rest)
        else none
      match rest with
      | .mark "::" :: .leftBracket '(' :: _ => return (⟨true, arguments, arguments⟩, rest)
      | .mark "::" :: more =>
        let (shape, rest) ← readSegments inExpression bound more
        return (⟨false, arguments || shape.anyArguments, shape.lastArguments⟩, rest)
      | _ => return (⟨true, arguments, arguments⟩, rest)
    | _ => none

/-- The arguments of a segment, up to the closing `>`. -/
def readArguments : Nat → List Token → Option (List Token)
  | 0, _ => none
  | bound + 1, tokens =>
    match tokens with
    | .mark ">" :: rest => some rest
    | _ => do
      let rest ← readArgument bound tokens
      match rest with
      | .mark ">" :: rest => some rest
      | .mark "," :: rest => readArguments bound rest
      | _ => none

/-- A lifetime, a constant, a type, or what a name in the type is equal to or bounded by. -/
def readArgument : Nat → List Token → Option (List Token)
  | 0, _ => none
  | bound + 1, tokens =>
    match tokens with
    | .lifetime :: .mark "+" :: _ => (readType true bound tokens).map (·.2)
    | .lifetime :: rest => some rest
    | .leftBracket '\x7b' :: _ => readLength bound tokens
    | _ =>
      match isLiteral tokens with
      | some rest => some rest
      | none => do
        let (form, rest) ← readType true bound tokens
        match form, rest with
        | .path true, .mark "=" :: .leftBracket '\x7b' :: inner =>
          readLength bound (.leftBracket '\x7b' :: inner)
        | .path true, .mark "=" :: value =>
          match isLiteral value with
          | some rest => some rest
          | none => (readType true bound value).map (·.2)
        | .path true, .mark ":" :: value =>
          if startsWith "," value || startsWith ">" value then some value
          else (readBounds true bound value).map (·.2)
        | _, _ => some rest

/-- A constant: a literal, a path, or a constant in braces. -/
def readLength : Nat → List Token → Option (List Token)
  | 0, _ => none
  | bound + 1, tokens =>
    match tokens with
    | .leftBracket '\x7b' :: .rightBracket '\x7b' :: rest => some rest
    | .leftBracket '\x7b' :: inner =>
      match readLength bound inner with
      | some (.rightBracket '\x7b' :: rest) => some rest
      | _ => none
    | .mark "<" :: inner => readQualified true bound inner
    | _ =>
      match isLiteral tokens with
      | some rest => some rest
      | none => (readPath true bound tokens).map (·.2)

/-- Bounds joined by `+`, and whether one of them is a trait. A `+` may stand at the end. -/
def readBounds (plus : Bool) : Nat → List Token → Option (Bool × List Token)
  | 0, _ => none
  | bound + 1, tokens => do
    let (isTrait, rest) ← readBound bound tokens
    if plus && startsWith "+" rest && startsBound (rest.drop 1) then
      let (others, rest) ← readBounds plus bound (rest.drop 1)
      return (isTrait || others, rest)
    else if plus && startsWith "+" rest then return (isTrait, rest.drop 1)
    else return (isTrait, rest)

/-- Further bounds, each after a `+`, which may or may not stand at the end. -/
def readMoreBounds (trailing : Bool) : Nat → List Token → Option (List Token)
  | 0, _ => none
  | bound + 1, tokens =>
    if startsWith "+" tokens then
      let rest := tokens.drop 1
      if trailing && !startsBound rest then some rest
      else
        match readBound bound rest with
        | some (_, rest) => readMoreBounds trailing bound rest
        | none => none
    else some tokens

def readBound : Nat → List Token → Option (Bool × List Token)
  | 0, _ => none
  | bound + 1, tokens =>
    match tokens with
    | .lifetime :: rest => some (false, rest)
    | .leftBracket '(' :: inner =>
      match readTraitBound bound inner with
      | some (.rightBracket '(' :: rest) => some (true, rest)
      | _ => none
    | _ => (readTraitBound bound tokens).map fun rest => (true, rest)

/-- A path, which may take its arguments in parentheses. -/
def readTraitBound : Nat → List Token → Option (List Token)
  | 0, _ => none
  | bound + 1, tokens => do
    let (quantified, rest) ← skipQuantifier tokens
    let (_, rest) ← match rest with
      | .mark "?" :: rest => if quantified then some (true, rest) else skipQuantifier rest
      | rest => some (true, rest)
    let (shape, rest) ← readPath false bound rest
    if shape.lastArguments then return rest
    else
      match rest with
      | .leftBracket '(' :: inner => readResult bound (← readTypes bound inner)
      | .mark "::" :: .leftBracket '(' :: inner => readResult bound (← readTypes bound inner)
      | _ => return rest

end

/-- Steps that are enough: no token is looked at by more than a few functions. -/
def stepBound (tokens : List Token) : Nat :=
  12 * (tokens.length + 1)

/-- The form of a text that is a type as a whole. -/
def typeForm? (text : String) : Option TypeForm := do
  let tokens ← Token.readAll text.toList
  match readType true (stepBound tokens) tokens with
  | some (form, []) => some form
  | _ => none

/-- Whether a text as a whole is a path that can be called. -/
def isConstructorPath (text : String) : Bool :=
  match Token.readAll text.toList with
  | none => false
  | some tokens =>
    match tokens with
    | .mark "<" :: inner => readQualified true (stepBound tokens) inner == some []
    | _ => (readPath true (stepBound tokens) tokens).map (·.2) == some []

example : typeForm? "&dyn A + B" = none ∧ typeForm? "A + B" = some (.bareObject false) ∧
    typeForm? "Vec<impl A>" = some (.path true) ∧ isConstructorPath "a::<T>::b" = true ∧
    isConstructorPath "Vec<T>::new" = false := by decide +kernel

end StaticInjection.Grammar
