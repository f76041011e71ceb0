namespace StaticInjection.Naming

/-! Identifiers that may be written into generated code. -/

/-- Keywords of the generated language, those reserved for later included. -/
def keywords : List String := [
  "as", "async", "await", "break", "const", "continue", "crate", "dyn", "else", "enum", "extern",
  "false", "fn", "for", "if", "impl", "in", "let", "loop", "match", "mod", "move", "mut", "pub",
  "ref", "return", "self", "Self", "static", "struct", "super", "trait", "true", "type", "unsafe",
  "use", "where", "while", "abstract", "become", "box", "do", "final", "macro", "override", "priv",
  "try", "typeof", "unsized", "virtual", "yield"]

def isLetter (character : Char) : Bool :=
  character.isAlpha || character == '_'

def isLetterOrDigit (character : Char) : Bool :=
  character.isAlphanum || character == '_'

/-- An ASCII letter or underscore, then ASCII letters, digits and underscores; neither a keyword nor
a single underscore. -/
def isIdentifier (name : String) : Bool :=
  match name.toList with
  | [] => false
  | first :: rest =>
    isLetter first && rest.all isLetterOrDigit && name != "_" && !keywords.contains name

example : isIdentifier "_x9" = true ∧ isIdentifier "Self" = false ∧ isIdentifier "é" = false := by
  decide +kernel

end StaticInjection.Naming
