import Mathlib.Tactic.Tauto
import StaticInjection.Proofs.Code.Constructor

/-! # Captured and moved locals

Which locals statements mention, which of these have to come from outside, and which are
moved. A closure that moves takes along every local of its body that comes from outside. A
factory binds these again right before its closure, so that it moves nothing but its own.
The paths and hooks that declarations give are plain text, and mention no locals. -/

namespace StaticInjection.Code

/-! ## Lines -/

/-- A local with this text behind it is only borrowed: one of its methods is called, or it
is called itself. -/
def borrows (behind : String) : Bool :=
  match behind.toList with
  | '.' :: _ => true
  | ')' :: '(' :: ')' :: _ => true
  | _ => false

/-- The locals that a line moves. -/
def moved : List Piece → List Local
  | [] => []
  | .mentions name :: rest => if borrows (write rest) then moved rest else name :: moved rest
  | _ :: rest => moved rest

section Pieces

variable {text : String} {name : Local} {rest : List Piece}

@[simp] theorem moved_nil : moved [] = [] := rfl

@[simp] theorem moved_plain : moved (.plain text :: rest) = moved rest := rfl

@[simp] theorem moved_binds : moved (.binds name :: rest) = moved rest := rfl

@[simp] theorem moved_mentions : moved (.mentions name :: rest) =
    if borrows (write rest) then moved rest else name :: moved rest := rfl

end Pieces

/-! ## Statements -/

/-- How a closure that moves begins. -/
def closureOpening : List Piece :=
  [.plain s!"{shared}::new(move || \x7b"]

namespace Statement

mutual

/-- The locals mentioned anywhere within. -/
def mentions : Statement → List Local
  | line pieces => mentioned pieces
  | list opening items _ => mentioned (opening ++ items.flatten)
  | scope opening body _ => mentioned opening ++ allMentions body

def allMentions : List Statement → List Local
  | [] => []
  | statement :: rest => statement.mentions ++ allMentions rest

end

mutual

/-- The locals mentioned that come from outside. -/
def free : Statement → List Local
  | line pieces => mentioned pieces
  | list opening items _ => mentioned (opening ++ items.flatten)
  | scope opening body _ => mentioned opening ++ allFree body

def allFree : List Statement → List Local
  | [] => []
  | statement :: rest => statement.free ++ (allFree rest).filter (· ∉ statement.bound)

end

mutual

/-- The locals from outside that are moved. -/
def moved : Statement → List Local
  | line pieces => Code.moved pieces
  | list opening items _ => Code.moved opening ++ items.flatMap Code.moved
  | scope opening body _ =>
    if opening = closureOpening then allFree body else Code.moved opening ++ allMoved body

def allMoved : List Statement → List Local
  | [] => []
  | statement :: rest => statement.moved ++ (allMoved rest).filter (· ∉ statement.bound)

end

@[simp] theorem mentions_line {pieces : List Piece} : (line pieces).mentions = mentioned pieces :=
  rfl

@[simp] theorem moved_line {pieces : List Piece} : (line pieces).moved = Code.moved pieces := rfl

variable {name : Local} {first second statements : List Statement}

/-- Of the parts of statements, what no earlier statement binds. -/
def fromOutside (part : Statement → List Local) : List Statement → List Local
  | [] => []
  | statement :: rest =>
    part statement ++ (fromOutside part rest).filter (· ∉ statement.bound)

theorem allFree_eq : allFree statements = fromOutside free statements := by
  induction statements with
  | nil => rfl
  | cons statement rest induction => rw [allFree, fromOutside, induction]

theorem allMoved_eq : allMoved statements = fromOutside moved statements := by
  induction statements with
  | nil => rfl
  | cons statement rest induction => rw [allMoved, fromOutside, induction]

theorem mem_allMentions :
    name ∈ allMentions statements ↔ ∃ statement ∈ statements, name ∈ statement.mentions := by
  induction statements with
  | nil => simp [allMentions]
  | cons statement rest induction => simp [allMentions, induction]

@[simp] theorem allMentions_append :
    allMentions (first ++ second) = allMentions first ++ allMentions second := by
  induction first with
  | nil => rfl
  | cons statement rest induction =>
      rw [List.cons_append, allMentions, allMentions, induction, List.append_assoc]

section Outside

variable {part : Statement → List Local} {statement : Statement}

theorem mem_fromOutside_cons : name ∈ fromOutside part (statement :: second) ↔
    name ∈ part statement ∨ name ∈ fromOutside part second ∧ name ∉ statement.bound := by
  simp [fromOutside]

theorem mem_fromOutside_singleton :
    name ∈ fromOutside part [statement] ↔ name ∈ part statement := by
  simp [fromOutside]

theorem mem_fromOutside_append : name ∈ fromOutside part (first ++ second) ↔
    name ∈ fromOutside part first ∨ name ∈ fromOutside part second ∧ name ∉ allBound first := by
  induction first with
  | nil => simp [fromOutside]
  | cons statement rest induction =>
      rw [List.cons_append, mem_fromOutside_cons, induction, mem_fromOutside_cons, allBound_cons,
        List.mem_append]
      tauto

/-- What is in a part of a statement and not bound at all comes from outside. -/
theorem mem_fromOutside (listed : statement ∈ statements) (inside : name ∈ part statement)
    (fresh : name ∉ allBound statements) : name ∈ fromOutside part statements := by
  rcases List.append_of_mem listed with ⟨before, after, rfl⟩
  rw [allBound_append, List.mem_append, not_or] at fresh
  rw [mem_fromOutside_append, mem_fromOutside_cons]
  exact .inr ⟨.inl inside, fresh.1⟩

end Outside

/-- Where inner scopes bind nothing, what is mentioned and not bound comes from outside. -/
theorem mem_allFree_of_mention
    (flat : ∀ statement ∈ statements, statement.free = statement.mentions)
    (mention : name ∈ allMentions statements) (fresh : name ∉ allBound statements) :
    name ∈ allFree statements := by
  rcases mem_allMentions.mp mention with ⟨statement, listed, inside⟩
  rw [allFree_eq]
  apply mem_fromOutside listed _ fresh
  rwa [flat statement listed]

mutual

/-- To be well scoped is to know what comes from outside. -/
theorem scoped_iff_free {known : List Local} :
    (statement : Statement) → (statement.Scoped known ↔ ∀ name ∈ statement.free, name ∈ known)
  | .line _ => Iff.rfl
  | .list _ _ _ => Iff.rfl
  | .scope opening body _ => by
      rw [Scoped, free, List.forall_mem_append, allScoped_iff_allFree body]

theorem allScoped_iff_allFree {known : List Local} : (statements : List Statement) →
    (AllScoped known statements ↔ ∀ name ∈ allFree statements, name ∈ known)
  | [] => by simp [AllScoped, allFree]
  | statement :: rest => by
      rw [AllScoped, allFree, List.forall_mem_append, scoped_iff_free statement,
        allScoped_iff_allFree rest]
      simp only [List.mem_filter, List.mem_append, decide_eq_true_eq, and_imp, or_iff_not_imp_right]

end

/-! ## Factories -/

/-- The line that binds a local again, to a clone of it. -/
def rebound (name : Local) : Statement :=
  .line [.plain "let ", .binds name, .plain " = ", .mentions name, .plain ".clone();"]

def closure (body : List Statement) : Statement :=
  .scope closureOpening body "\x7d)"

/-- The statement that binds the factory of a bean. -/
def factory (bean type : String) (captured : List Local) (body : List Statement) : Statement :=
  let factoryType := (ValueType.factory type).text
  .scope [.plain "let ", .binds ⟨.factory, bean⟩, .plain s!": {factoryType} = \x7b"]
    (captured.map rebound ++ [closure body]) "\x7d;"

variable {bean type : String} {captured : List Local} {body : List Statement}

@[simp] theorem bound_rebound : (rebound name).bound = [name] := rfl

@[simp] theorem allBound_rebound : allBound (captured.map rebound) = captured := by
  simp [allBound, List.flatMap_map]

@[simp] theorem moved_rebound : (rebound name).moved = [] := by
  simp [rebound, borrows]

@[simp] theorem free_rebound : (rebound name).free = [name] := rfl

theorem mem_free_rebound : name ∈ fromOutside free (captured.map rebound) ↔ name ∈ captured := by
  induction captured with
  | nil => simp [fromOutside]
  | cons head rest induction =>
      rw [List.map_cons, mem_fromOutside_cons, induction, List.mem_cons, free_rebound,
        bound_rebound, List.mem_singleton]
      tauto

theorem moved_rebinding : fromOutside moved (captured.map rebound) = [] := by
  induction captured with
  | nil => rfl
  | cons head rest induction => rw [List.map_cons, fromOutside, induction, moved_rebound]; rfl

@[simp] theorem mem_mentions_factory : name ∈ (factory bean type captured body).mentions ↔
    name ∈ captured ∨ name ∈ allMentions body := by
  simp [factory, mentions, mem_allMentions, rebound, closure, closureOpening]

@[simp] theorem free_closure : (closure body).free = allFree body := rfl

@[simp] theorem moved_closure : (closure body).moved = allFree body := by
  simp [closure, moved]

/-- A factory whose closure needs nothing but the captured locals needs just these. -/
theorem mem_free_factory (owned : ∀ name ∈ allFree body, name ∈ captured) :
    name ∈ (factory bean type captured body).free ↔ name ∈ captured := by
  simp only [factory, free, mentioned_plain, mentioned_binds, mentioned_nil, List.nil_append]
  rw [allFree_eq, mem_fromOutside_append, mem_free_rebound, mem_fromOutside_singleton,
    free_closure, allBound_rebound, or_iff_left_iff_imp]
  -- The lines before the closure bind all that it takes.
  rintro ⟨inside, outside⟩
  exact absurd (owned name inside) outside

/-- Such a factory moves nothing, since its closure takes the clones. -/
theorem moved_factory (owned : ∀ name ∈ allFree body, name ∈ captured) :
    (factory bean type captured body).moved = [] := by
  rw [List.eq_nil_iff_forall_not_mem]
  intro name
  simp only [factory, moved, closureOpening, List.cons.injEq, reduceCtorEq, and_false, if_false,
    Code.moved_plain, Code.moved_binds, Code.moved_nil, List.nil_append]
  rw [allMoved_eq, mem_fromOutside_append, moved_rebinding, mem_fromOutside_singleton,
    moved_closure, allBound_rebound]
  rintro (impossible | ⟨inside, outside⟩)
  · cases impossible
  · exact outside (owned name inside)

/-- A closure that mentions a local that is not captured would move it. -/
example : (factory "session" "Session" []
    [.line [.mentions ⟨.singleton, "pool"⟩, .plain ".clone()"]]).moved =
      [⟨.singleton, "pool"⟩] := by
  decide

/-- A closure in the midst of statements takes along its own clones of just those locals
of the statements that are mentioned in its body. -/
structure Captures (statements front : List Statement) (captured : List Local)
    (body : List Statement) : Prop where
  once : captured.Nodup
  known : ∀ name ∈ captured, name ∈ allBound front
  mentioned : ∀ name, name ∈ captured ↔ name ∈ allBound statements ∧ name ∈ allMentions body
  taken : ∀ name, name ∈ (closure body).moved ↔ name ∈ captured
  /-- What the body binds for itself is not captured. -/
  inside : ∀ name ∈ allBound body, name ∉ allBound statements

theorem captures_of_split {front rest : List Statement}
    (split : statements = front ++ factory bean type captured body :: rest)
    (known : AllScoped [] statements) (once : captured.Nodup)
    (owned : ∀ name ∈ allFree body, name ∈ captured)
    (used : ∀ name ∈ captured, name ∈ allMentions body)
    (flat : ∀ statement ∈ body, statement.free = statement.mentions)
    (inside : ∀ name ∈ allBound body, name ∉ allBound statements) :
    Captures statements front captured body := by
  have inFront : ∀ name ∈ captured, name ∈ allBound front := by
    rw [split, allScoped_append, AllScoped, scoped_iff_free] at known
    intro name isCaptured
    exact known.2.1 name ((mem_free_factory owned).mpr isCaptured)
  have isBound : ∀ name ∈ captured, name ∈ allBound statements := by
    rw [split, allBound_append]
    exact fun name isCaptured => List.mem_append_left _ (inFront name isCaptured)
  have free : ∀ name, name ∈ allBound statements → name ∈ allMentions body →
      name ∈ allFree body :=
    fun name around mention => mem_allFree_of_mention flat mention fun own => inside name own around
  refine ⟨once, inFront, ?_, ?_, inside⟩
  · intro name
    constructor
    · exact fun isCaptured => ⟨isBound name isCaptured, used name isCaptured⟩
    · exact fun ⟨around, mention⟩ => owned name (free name around mention)
  · intro name
    rw [moved_closure]
    constructor
    · exact owned name
    · exact fun isCaptured => free name (isBound name isCaptured) (used name isCaptured)

end Statement

namespace BuildStep

/-- The line that binds what keeps track of the values of a bean. -/
def trackerStatement (bean type : String) : Statement :=
  let issuedType := (ValueType.issued type).text
  .line [.plain "let ", .binds ⟨.issued, bean⟩,
    .plain s!": {issuedType} = {shared}::new({mutex}::new(Vec::new()));"]

theorem statements_perRequest (bean type : String) (tracked : Bool) (captured : List Local)
    (construction : Construction) (hooks : List String) :
    (perRequest bean type tracked captured construction hooks).statements =
      (if tracked then [trackerStatement bean type] else []) ++
        [.factory bean type captured (factoryStatements bean tracked construction hooks)] := rfl

end BuildStep

end StaticInjection.Code
