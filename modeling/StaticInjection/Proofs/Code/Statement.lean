import StaticInjection.Code.Printer

/-! # Constructors as statements

The lines of a constructor, taken as statements whose pieces say which locals are
bound and which are mentioned. Writing the pieces one after the other gives back the
printed lines, so what is shown of the statements holds of the printed code. -/

namespace StaticInjection.Code

/-- A part of a line. -/
inductive Piece where
  | plain (text : String)
  | mentions (name : Local)
  | binds (name : Local)
deriving DecidableEq

def Piece.text : Piece → String
  | plain text => text
  | mentions name => name.text
  | binds name => name.text

def write : List Piece → String
  | [] => ""
  | piece :: rest => piece.text ++ write rest

def mentioned : List Piece → List Local
  | [] => []
  | .mentions name :: rest => name :: mentioned rest
  | _ :: rest => mentioned rest

def bound : List Piece → List Local
  | [] => []
  | .binds name :: rest => name :: bound rest
  | _ :: rest => bound rest

section Pieces

variable {text : String} {name : Local} {rest left right : List Piece}

@[simp] theorem write_nil : write [] = "" := rfl

@[simp] theorem write_cons {piece : Piece} : write (piece :: rest) = piece.text ++ write rest :=
  rfl

@[simp] theorem text_plain : (Piece.plain text).text = text := rfl

@[simp] theorem text_mentions : (Piece.mentions name).text = name.text := rfl

@[simp] theorem text_binds : (Piece.binds name).text = name.text := rfl

@[simp] theorem mentioned_nil : mentioned [] = [] := rfl

@[simp] theorem mentioned_plain : mentioned (.plain text :: rest) = mentioned rest := rfl

@[simp] theorem mentioned_mentions :
    mentioned (.mentions name :: rest) = name :: mentioned rest := rfl

@[simp] theorem mentioned_binds : mentioned (.binds name :: rest) = mentioned rest := rfl

@[simp] theorem bound_nil : bound [] = [] := rfl

@[simp] theorem bound_plain : bound (.plain text :: rest) = bound rest := rfl

@[simp] theorem bound_mentions : bound (.mentions name :: rest) = bound rest := rfl

@[simp] theorem bound_binds : bound (.binds name :: rest) = name :: bound rest := rfl

@[simp] theorem write_append : write (left ++ right) = write left ++ write right := by
  induction left with
  | nil => simp
  | cons piece rest induction => simp [induction, String.append_assoc]

@[simp] theorem mentioned_append : mentioned (left ++ right) = mentioned left ++ mentioned right := by
  induction left with
  | nil => rfl
  | cons piece rest induction => cases piece <;> simp [induction]

@[simp] theorem bound_append : bound (left ++ right) = bound left ++ bound right := by
  induction left with
  | nil => rfl
  | cons piece rest induction => cases piece <;> simp [induction]

theorem mentioned_flatten (items : List (List Piece)) :
    mentioned items.flatten = items.flatMap mentioned := by
  induction items with
  | nil => rfl
  | cons item rest induction => simp [induction]

theorem bound_flatten (items : List (List Piece)) : bound items.flatten = items.flatMap bound := by
  induction items with
  | nil => rfl
  | cons item rest induction => simp [induction]

end Pieces

/-- The lines between the braces of a list hold items; those between the braces of a
scope are statements, and what they bind is not seen outside. What the opening of a
statement binds is seen from the next statement on. -/
inductive Statement where
  | line (pieces : List Piece)
  | list (opening : List Piece) (items : List (List Piece)) (closing : String)
  | scope (opening : List Piece) (body : List Statement) (closing : String)

namespace Statement

mutual

def lines : Statement → List Line
  | line pieces => Code.lines [write pieces]
  | list opening items closing => block (write opening) (Code.lines (items.map write)) closing
  | scope opening body closing => block (write opening) (allLines body) closing

def allLines : List Statement → List Line
  | [] => []
  | statement :: rest => statement.lines ++ allLines rest

end

/-- The locals that a statement leaves bound. -/
def bound : Statement → List Local
  | line pieces => Code.bound pieces
  | list opening items _ => Code.bound (opening ++ items.flatten)
  | scope opening _ _ => Code.bound opening

def allBound (statements : List Statement) : List Local :=
  statements.flatMap (·.bound)

mutual

/-- Each local that is mentioned is known before, or bound by an earlier statement of
an enclosing scope. -/
def Scoped (known : List Local) : Statement → Prop
  | line pieces => ∀ name ∈ mentioned pieces, name ∈ known
  | list opening items _ => ∀ name ∈ mentioned (opening ++ items.flatten), name ∈ known
  | scope opening body _ => (∀ name ∈ mentioned opening, name ∈ known) ∧ AllScoped known body

def AllScoped (known : List Local) : List Statement → Prop
  | [] => True
  | statement :: rest => statement.Scoped known ∧ AllScoped (known ++ statement.bound) rest

end

@[simp] theorem scoped_line {known : List Local} {pieces : List Piece} :
    (line pieces).Scoped known ↔ ∀ name ∈ mentioned pieces, name ∈ known := Iff.rfl

@[simp] theorem allScoped_singleton {known : List Local} {statement : Statement} :
    AllScoped known [statement] ↔ statement.Scoped known :=
  and_iff_left trivial

@[simp] theorem bound_line {pieces : List Piece} : (line pieces).bound = Code.bound pieces := rfl

@[simp] theorem bound_scope {opening : List Piece} {body : List Statement} {closing : String} :
    (scope opening body closing).bound = Code.bound opening := rfl

/-! ## Sequences -/

variable {known : List Local} {first second : List Statement}

@[simp] theorem allLines_append : allLines (first ++ second) = allLines first ++ allLines second := by
  induction first with
  | nil => rw [allLines, List.nil_append, List.nil_append]
  | cons statement rest induction =>
      rw [List.cons_append, allLines, allLines, induction, List.append_assoc]

@[simp] theorem allLines_flatMap {items : List α} {statements : α → List Statement} :
    allLines (items.flatMap statements) = items.flatMap fun item => allLines (statements item) := by
  induction items with
  | nil => rw [List.flatMap_nil, List.flatMap_nil, allLines]
  | cons item rest induction => rw [List.flatMap_cons, allLines_append, induction, List.flatMap_cons]

theorem allLines_map {items : List α} {pieces : α → List Piece} :
    allLines (items.map fun item => line (pieces item)) =
      Code.lines (items.map fun item => write (pieces item)) := by
  induction items with
  | nil => rw [List.map_nil, List.map_nil, allLines, Code.lines, List.map_nil]
  | cons item rest induction =>
      rw [List.map_cons, allLines, induction, lines]
      rfl

@[simp] theorem allBound_nil : allBound [] = [] := rfl

@[simp] theorem allBound_cons {statement : Statement} :
    allBound (statement :: second) = statement.bound ++ allBound second := rfl

@[simp] theorem allBound_append : allBound (first ++ second) = allBound first ++ allBound second :=
  List.flatMap_append

theorem allBound_map {items : List α} {pieces : α → List Piece} :
    allBound (items.map fun item => line (pieces item)) =
      items.flatMap fun item => Code.bound (pieces item) := by
  simp [allBound, List.flatMap_map, bound]

theorem allScoped_append : AllScoped known (first ++ second) ↔
    AllScoped known first ∧ AllScoped (known ++ allBound first) second := by
  induction first generalizing known with
  | nil => simp [AllScoped]
  | cons statement rest induction =>
      rw [List.cons_append, AllScoped, AllScoped, induction, allBound_cons, List.append_assoc,
        and_assoc]

mutual

theorem Scoped.mono {known more : List Local} (grows : ∀ name ∈ known, name ∈ more) :
    (statement : Statement) → statement.Scoped known → statement.Scoped more
  | .line _, inside => fun name member => grows name (inside name member)
  | .list _ _ _, inside => fun name member => grows name (inside name member)
  | .scope _ body _, ⟨opening, inner⟩ =>
    ⟨fun name member => grows name (opening name member), AllScoped.mono grows body inner⟩

theorem AllScoped.mono {known more : List Local} (grows : ∀ name ∈ known, name ∈ more) :
    (statements : List Statement) → AllScoped known statements → AllScoped more statements
  | [], _ => trivial
  | statement :: rest, ⟨first, others⟩ => by
      refine ⟨Scoped.mono grows statement first, AllScoped.mono ?_ rest others⟩
      intro name member
      rcases List.mem_append.mp member with earlier | here
      · exact List.mem_append_left _ (grows name earlier)
      · exact List.mem_append_right _ here

end

end Statement

end StaticInjection.Code
