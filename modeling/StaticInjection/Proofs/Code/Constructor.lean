import StaticInjection.Proofs.Code.Statement

/-! # The statements of a constructor

How the parts of a constructor are written as statements, that the statements are
what is printed, and when they are well scoped. -/

namespace StaticInjection.Code

/-! ## Values -/

def Value.pieces : Value → List Piece
  | cloneOf source => [.mentions source, .plain ".clone()"]
  | callOf factory => [.plain "(", .mentions factory, .plain ")()"]
  | beanOf child through bean =>
    [.mentions child, .plain (String.join (through.map fun name => s!".{name}_module()")),
      .plain s!".{bean}()"]
  | factoryOf child through bean =>
    [.mentions child, .plain (String.join (through.map fun name => s!".{name}_module()")),
      .plain s!".{bean}_provider()"]
  | coerced value type => value.pieces ++ [.plain " as ", .plain (sharedOf type)]
  | present value => .plain "Some(" :: value.pieces ++ [.plain ")"]
  | absent => [.plain "None"]
  | whole source => [.mentions source]
  | impossible => [.plain "unreachable!()"]

@[simp] theorem Value.write_pieces (value : Value) : write value.pieces = value.text := by
  induction value with
  | coerced value type induction => simp [pieces, text, induction, String.append_assoc]
  | present value induction => simp [pieces, text, induction, String.append_assoc]
  | _ => simp [pieces, text, chainText, String.append_assoc, toString]

@[simp] theorem Value.mentioned_pieces (value : Value) :
    mentioned value.pieces = value.locals := by
  induction value with
  | coerced value type induction => simp [pieces, locals, induction]
  | present value induction => simp [pieces, locals, induction]
  | _ => rfl

@[simp] theorem Value.bound_pieces (value : Value) : bound value.pieces = [] := by
  induction value with
  | coerced value type induction => simp [pieces, induction]
  | present value induction => simp [pieces, induction]
  | _ => rfl

/-- Values with commas between them. -/
def separated : List Value → List Piece
  | [] => []
  | [value] => value.pieces
  | value :: rest => value.pieces ++ .plain ", " :: separated rest

@[simp] theorem write_separated (values : List Value) :
    write (separated values) = ", ".intercalate (values.map (·.text)) := by
  induction values using separated.induct with
  | case1 => simp [separated]
  | case2 value => simp [separated]
  | case3 value rest nonempty induction =>
      cases rest with
      | nil => exact absurd rfl nonempty
      | cons next later => simp_all [separated, String.append_assoc]

@[simp] theorem mentioned_separated (values : List Value) :
    mentioned (separated values) = values.flatMap (·.locals) := by
  induction values using separated.induct with
  | case1 => rfl
  | case2 value => simp [separated]
  | case3 value rest _ induction => simp_all [separated]

@[simp] theorem bound_separated (values : List Value) : bound (separated values) = [] := by
  induction values using separated.induct with
  | case1 => rfl
  | case2 value => simp [separated]
  | case3 value rest _ induction => simp_all [separated]

/-! ## Collections -/

def GatherStep.pieces (target : Local) : GatherStep → List Piece
  | push value => .mentions target :: .plain ".push(" :: value.pieces ++ [.plain ");"]
  | extendOptional source =>
    [.mentions target, .plain ".extend(", .mentions source, .plain ".clone());"]
  | extendAll source =>
    [.mentions target, .plain ".extend(", .mentions source, .plain ".iter().cloned());"]

@[simp] theorem GatherStep.write_pieces (target : Local) (step : GatherStep) :
    write (step.pieces target) = step.line target := by
  cases step <;> simp [pieces, line, toString, String.append_assoc]

theorem GatherStep.mentioned_pieces (target : Local) (step : GatherStep) :
    mentioned (step.pieces target) = target :: step.locals := by
  cases step <;> simp [pieces, locals]

@[simp] theorem GatherStep.bound_pieces (target : Local) (step : GatherStep) :
    bound (step.pieces target) = [] := by
  cases step <;> simp [pieces]

namespace Gathering

/-- The declaration of the collection. -/
def opening (gathering : Gathering) : List Piece :=
  let type := (ValueType.several gathering.type).text
  let size := Nat.repr gathering.steps.length
  if gathering.steps.isEmpty then
    [.plain "let ", .binds gathering.target, .plain s!": {type} = Vec::new();"]
  else
    [.plain "let mut ", .binds gathering.target,
      .plain s!": {type} = Vec::with_capacity({size});"]

def statements (gathering : Gathering) : List Statement :=
  .line gathering.opening ::
    gathering.steps.map fun step => .line (step.pieces gathering.target)

@[simp] theorem mentioned_opening (gathering : Gathering) : mentioned gathering.opening = [] := by
  simp only [opening]
  split <;> rfl

@[simp] theorem bound_opening (gathering : Gathering) :
    bound gathering.opening = [gathering.target] := by
  simp only [opening]
  split <;> rfl

theorem lines_statements (gathering : Gathering) :
    Statement.allLines gathering.statements = gathering.lines := by
  rw [statements, Statement.allLines, Statement.allLines_map, Statement.lines]
  cases empty : gathering.steps with
  | nil => simp [opening, lines, Code.lines, empty, toString, String.append_assoc]
  | cons step rest => simp [opening, lines, Code.lines, empty, toString, String.append_assoc]

@[simp] theorem bound_statements (gathering : Gathering) :
    Statement.allBound gathering.statements = [gathering.target] := by
  simp [statements, Statement.allBound, Statement.bound, List.flatMap_map]

theorem statements_scoped {gathering : Gathering} {known : List Local}
    (inside : ∀ name ∈ gathering.locals, name ∈ known) :
    Statement.AllScoped known gathering.statements := by
  rw [statements, Statement.AllScoped]
  refine ⟨by simp [Statement.Scoped], ?_⟩
  have each : ∀ (steps : List GatherStep) (seen : List Local), gathering.target ∈ seen →
      (∀ step ∈ steps, ∀ name ∈ step.locals, name ∈ seen) →
      Statement.AllScoped seen
        (steps.map fun step => .line (step.pieces gathering.target)) := by
    intro steps
    induction steps with
    | nil => exact fun _ _ _ => trivial
    | cons step rest induction =>
        intro seen target members
        refine ⟨?_, ?_⟩
        · intro name member
          rw [GatherStep.mentioned_pieces] at member
          rcases List.mem_cons.mp member with equal | listed
          · exact equal ▸ target
          · exact members step List.mem_cons_self name listed
        · simp only [Statement.bound, GatherStep.bound_pieces, List.append_nil]
          exact induction seen target fun other later =>
            members other (List.mem_cons_of_mem _ later)
  apply each
  · simp [Statement.bound]
  · intro step listed name member
    exact List.mem_append_left _ (inside name (List.mem_flatMap.mpr ⟨step, listed, member⟩))

end Gathering

def gatheringStatements (gatherings : List Gathering) : List Statement :=
  gatherings.flatMap (·.statements)

theorem lines_gatheringStatements (gatherings : List Gathering) :
    Statement.allLines (gatheringStatements gatherings) = gatheringLines gatherings := by
  simp [gatheringStatements, gatheringLines, Gathering.lines_statements]

@[simp] theorem bound_gatheringStatements (gatherings : List Gathering) :
    Statement.allBound (gatheringStatements gatherings) = gatherings.map (·.target) := by
  induction gatherings with
  | nil => rfl
  | cons gathering rest induction =>
      simpa [gatheringStatements, Statement.allBound_append] using induction

theorem gatheringStatements_scoped {gatherings : List Gathering} {known : List Local}
    (inside : ∀ gathering ∈ gatherings, ∀ name ∈ gathering.locals, name ∈ known) :
    Statement.AllScoped known (gatheringStatements gatherings) := by
  induction gatherings generalizing known with
  | nil => trivial
  | cons gathering rest induction =>
      refine Statement.allScoped_append.mpr
        ⟨Gathering.statements_scoped (inside gathering List.mem_cons_self), induction ?_⟩
      intro other later name member
      exact List.mem_append_left _ (inside other (List.mem_cons_of_mem _ later) name member)

/-! ## Steps -/

def Construction.pieces (construction : Construction) : List Piece :=
  .plain s!"{shared}::new({construction.constructor}(" ::
    separated construction.arguments ++ [.plain "))"]

@[simp] theorem Construction.write_pieces (construction : Construction) :
    write construction.pieces = construction.text := by
  simp [pieces, text, toString, String.append_assoc]

@[simp] theorem Construction.mentioned_pieces (construction : Construction) :
    mentioned construction.pieces = construction.arguments.flatMap (·.locals) := by
  simp [pieces]

@[simp] theorem Construction.bound_pieces (construction : Construction) :
    bound construction.pieces = [] := by
  simp [pieces]

namespace BuildStep

def issuedStatements (bean : String) : List Statement :=
  [.scope [.plain "if let Ok(mut issued) = ", .mentions ⟨.issued, bean⟩, .plain ".lock() \x7b"]
    [.line [.plain "issued.retain(|weak| weak.strong_count() > 0);"],
      .line [.plain s!"issued.push({shared}::downgrade(&bean));"]]
    "\x7d"]

def factoryStatements (bean : String) (tracked : Bool) (construction : Construction)
    (hooks : List String) : List Statement :=
  gatheringStatements construction.gatherings ++
    [.line (.plain "let bean = " :: construction.pieces ++ [.plain ";"])] ++
    hooks.map (fun hook => .line [.plain s!"bean.{hook}();"]) ++
    (if tracked then issuedStatements bean else []) ++
    [.line [.plain "bean"]]

def statements : BuildStep → List Statement
  | singleton bean construction hooks =>
    gatheringStatements construction.gatherings ++
      [.line (.plain "let " :: .binds ⟨.singleton, bean⟩ :: .plain " = " :: construction.pieces ++
        [.plain ";"])] ++
      hooks.map fun hook => .line [.mentions ⟨.singleton, bean⟩, .plain s!".{hook}();"]
  | perRequest bean type tracked captured construction hooks =>
    let issuedType := (ValueType.issued type).text
    let factoryType := (ValueType.factory type).text
    (if tracked then
      [.line [.plain "let ", .binds ⟨.issued, bean⟩,
        .plain s!": {issuedType} = {shared}::new({mutex}::new(Vec::new()));"]]
    else []) ++
    [.scope [.plain "let ", .binds ⟨.factory, bean⟩, .plain s!": {factoryType} = \x7b"]
      (captured.map (fun name => .line [.plain "let ", .binds name, .plain " = ", .mentions name,
          .plain ".clone();"]) ++
        [.scope [.plain s!"{shared}::new(move || \x7b"]
          (factoryStatements bean tracked construction hooks) "\x7d)"])
      "\x7d;"]
  | child name moduleType inputsType gatherings fields =>
    gatheringStatements gatherings ++
      [.list [.plain "let ", .binds ⟨.child, name⟩,
          .plain s!" = {shared}::new({moduleType}::new({inputsType} \x7b"]
        (fields.map fun (field, value) =>
          .plain s!"{field}: " :: value.pieces ++ [.plain ","])
        "\x7d));"]

/-- A lead that stands right after plain text is written together with it. -/
theorem append_lead {left right whole : String} (joined : left ++ right = whole)
    (rest : String) : left ++ (right ++ rest) = whole ++ rest := by
  rw [← String.append_assoc, joined]

theorem singleton_text (bean : String) : (⟨.singleton, bean⟩ : Local).text = "b_" ++ bean := rfl

theorem factory_text (bean : String) : (⟨.factory, bean⟩ : Local).text = "f_" ++ bean := rfl

theorem issued_text (bean : String) : (⟨.issued, bean⟩ : Local).text = "t_" ++ bean := rfl

theorem child_text (name : String) : (⟨.child, name⟩ : Local).text = "m_" ++ name := rfl

theorem lines_issuedStatements (bean : String) :
    Statement.allLines (issuedStatements bean) = issuedLines bean := by
  have joined : "if let Ok(mut issued) = " ++ "t_" = "if let Ok(mut issued) = t_" := by decide
  simp [issuedStatements, issuedLines, Statement.allLines, Statement.lines, Code.lines,
    issued_text, append_lead joined, toString, String.append_assoc]

theorem lines_factoryStatements (bean : String) (tracked : Bool) (construction : Construction)
    (hooks : List String) :
    Statement.allLines (factoryStatements bean tracked construction hooks) =
      factoryBody bean tracked construction hooks := by
  cases tracked <;>
    simp [factoryStatements, factoryBody, lines_gatheringStatements, lines_issuedStatements,
      Statement.allLines, Statement.allLines_map, Statement.lines, Code.lines, toString,
      String.append_assoc]

theorem lines_statements (step : BuildStep) : Statement.allLines step.statements = step.lines := by
  cases step with
  | singleton bean construction hooks =>
      have joined : "let " ++ "b_" = "let b_" := by decide
      simp [statements, lines, lines_gatheringStatements, Statement.allLines,
        Statement.allLines_map, Statement.lines, Code.lines, singleton_text, append_lead joined,
        toString, String.append_assoc]
  | perRequest bean type tracked captured construction hooks =>
      have factoryJoined : "let " ++ "f_" = "let f_" := by decide
      have issuedJoined : "let " ++ "t_" = "let t_" := by decide
      cases tracked <;>
        simp [statements, lines, lines_factoryStatements, Statement.allLines,
          Statement.allLines_map, Statement.lines, Code.lines, factory_text, issued_text,
          append_lead factoryJoined, append_lead issuedJoined, toString, String.append_assoc]
  | child name moduleType inputsType gatherings fields =>
      have joined : "let " ++ "m_" = "let m_" := by decide
      simp [statements, lines, lines_gatheringStatements, Statement.allLines, Statement.lines,
        Code.lines, child_text, append_lead joined, toString, String.append_assoc,
        Function.comp_def]

theorem bound_statements (step : BuildStep) : Statement.allBound step.statements = step.bound := by
  cases step with
  | singleton bean construction hooks =>
      simp [statements, BuildStep.bound, Statement.allBound_map]
  | perRequest bean type tracked captured construction hooks =>
      cases tracked <;> simp [statements, BuildStep.bound]
  | child name moduleType inputsType gatherings fields =>
      simp [statements, BuildStep.bound, Statement.bound, bound_flatten, List.flatMap_map]

end BuildStep

/-- The values need nothing but what is known and what is gathered for them. -/
structure ValuesScoped (known : List Local) (gatherings : List Gathering) (values : List Value) :
    Prop where
  gathered : ∀ gathering ∈ gatherings, ∀ name ∈ gathering.locals, name ∈ known
  values : ∀ value ∈ values, ∀ name ∈ value.locals,
    name ∈ known ∨ name ∈ gatherings.map (·.target)

theorem ValuesScoped.mono {known more : List Local} {gatherings : List Gathering}
    {values : List Value} (inside : ValuesScoped known gatherings values)
    (grows : ∀ name ∈ known, name ∈ more) : ValuesScoped more gatherings values where
  gathered gathering listed name member := grows name (inside.gathered gathering listed name member)
  values value listed name member :=
    (inside.values value listed name member).imp_left (grows name)

namespace BuildStep

/-- What a step asks of the locals before it. A factory uses nothing but what it has
captured. -/
def ScopedIn (known : List Local) : BuildStep → Prop
  | singleton _ construction _ =>
    ValuesScoped known construction.gatherings construction.arguments
  | perRequest bean _ tracked captured construction _ =>
    (∀ name ∈ captured, name ∈ known ∨ (tracked = true ∧ name = ⟨.issued, bean⟩)) ∧
      ValuesScoped captured construction.gatherings construction.arguments
  | child _ _ _ gatherings fields => ValuesScoped known gatherings (fields.map (·.2))

theorem constructionLine_scoped {construction : Construction} {known : List Local}
    (inside : ValuesScoped known construction.gatherings construction.arguments) :
    ∀ name ∈ mentioned construction.pieces,
      name ∈ known ++ construction.gatherings.map (·.target) := by
  intro name member
  rw [Construction.mentioned_pieces] at member
  obtain ⟨value, listed, mention⟩ := List.mem_flatMap.mp member
  exact List.mem_append.mpr (inside.values value listed name mention)

theorem issuedStatements_scoped {known : List Local} {bean : String}
    (inside : ⟨.issued, bean⟩ ∈ known) : Statement.AllScoped known (issuedStatements bean) := by
  simp [issuedStatements, Statement.AllScoped, Statement.Scoped, inside]

theorem plainLines_scoped {known : List Local} {items : List α} {pieces : α → List Piece}
    (mentions : ∀ item ∈ items, ∀ name ∈ mentioned (pieces item), name ∈ known) :
    Statement.AllScoped known (items.map fun item => .line (pieces item)) := by
  induction items generalizing known with
  | nil => trivial
  | cons item rest induction =>
      refine ⟨mentions item List.mem_cons_self, induction ?_⟩
      intro other later name member
      exact List.mem_append_left _ (mentions other (List.mem_cons_of_mem _ later) name member)

theorem factoryStatements_scoped {known : List Local} {bean : String} {tracked : Bool}
    {construction : Construction} {hooks : List String}
    (inside : ValuesScoped known construction.gatherings construction.arguments)
    (issued : tracked = true → ⟨.issued, bean⟩ ∈ known) :
    Statement.AllScoped known (factoryStatements bean tracked construction hooks) := by
  unfold factoryStatements
  simp only [Statement.allScoped_append]
  refine ⟨⟨⟨⟨gatheringStatements_scoped inside.gathered, ?_⟩, ?_⟩, ?_⟩, ?_⟩
  · rw [Statement.allScoped_singleton, Statement.scoped_line, bound_gatheringStatements]
    exact fun name member => constructionLine_scoped inside name (by simpa using member)
  · exact plainLines_scoped (by simp)
  · cases tracked with
    | false => trivial
    | true => exact issuedStatements_scoped (by simp [issued rfl])
  · simp

theorem statements_scoped {step : BuildStep} {known : List Local} (inside : step.ScopedIn known) :
    Statement.AllScoped known step.statements := by
  cases step with
  | singleton bean construction hooks =>
      unfold statements
      simp only [Statement.allScoped_append]
      refine ⟨⟨gatheringStatements_scoped inside.gathered, ?_⟩, ?_⟩
      · rw [Statement.allScoped_singleton, Statement.scoped_line, bound_gatheringStatements]
        exact fun name member => constructionLine_scoped inside name (by simpa using member)
      · exact plainLines_scoped (by simp)
  | perRequest bean type tracked captured construction hooks =>
      obtain ⟨available, used⟩ := inside
      unfold statements
      simp only [Statement.allScoped_append]
      have issued : tracked = true → ⟨.issued, bean⟩ ∈ known ++ Statement.allBound
          (if tracked then [.line [.plain "let ", .binds ⟨.issued, bean⟩,
            .plain s!": {(ValueType.issued type).text} = {shared}::new({mutex}::new(Vec::new()));"]]
          else []) := by
        rintro rfl
        simp [Statement.bound]
      refine ⟨?_, ⟨by simp, ?_⟩, trivial⟩
      · cases tracked <;> simp [Statement.AllScoped, Statement.Scoped]
      · refine Statement.allScoped_append.mpr ⟨plainLines_scoped ?_, ⟨by simp, ?_⟩, trivial⟩
        · intro name listed other member
          have equal : other = name := by simpa using member
          rcases available name listed with earlier | ⟨isTracked, isIssued⟩
          · exact equal ▸ List.mem_append_left _ earlier
          · rw [equal, isIssued]
            exact issued isTracked
        · refine factoryStatements_scoped (used.mono fun name member => ?_)
            fun isTracked => List.mem_append_left _ (issued isTracked)
          rw [Statement.allBound_map]
          exact List.mem_append_right _ (List.mem_flatMap.mpr ⟨name, member, by simp⟩)
  | child name moduleType inputsType gatherings fields =>
      unfold statements
      refine Statement.allScoped_append.mpr ⟨gatheringStatements_scoped inside.gathered, ?_⟩
      rw [Statement.allScoped_singleton, bound_gatheringStatements]
      intro other member
      simp only [mentioned_append, mentioned_flatten, List.flatMap_map, List.mem_append,
        List.mem_flatMap] at member
      rcases member with opening | ⟨⟨field, value⟩, listed, mention⟩
      · simp at opening
      · exact List.mem_append.mpr (inside.values value (List.mem_map_of_mem listed) other
          (by simpa using mention))

end BuildStep

/-! ## Patches -/

namespace Patch

def statements : Patch → List Statement
  | fill cell value =>
    [.line (.plain "let _ = " :: .mentions cell :: .plain ".set(" :: value.pieces ++
      [.plain ");"])]
  | fillOptional cell source =>
    [.scope [.plain "if let Some(value) = ", .mentions source, .plain ".clone() \x7b"]
      [.line [.plain "let _ = ", .mentions cell, .plain ".set(value);"]] "\x7d"]

theorem lines_statements (patch : Patch) : Statement.allLines patch.statements = patch.lines := by
  cases patch <;>
    simp [statements, lines, Statement.allLines, Statement.lines, Code.lines, toString,
      String.append_assoc]

@[simp] theorem bound_statements (patch : Patch) : Statement.allBound patch.statements = [] := by
  cases patch <;> simp [statements]

theorem statements_scoped {patch : Patch} {known : List Local}
    (inside : ∀ name ∈ patch.locals, name ∈ known) :
    Statement.AllScoped known patch.statements := by
  cases patch with
  | fill cell value =>
      simp only [locals] at inside
      simpa [statements] using inside
  | fillOptional cell source =>
      simp only [locals] at inside
      simp [statements, Statement.Scoped, inside]

end Patch

/-! ## Constructors -/

namespace Constructor

def bindingStatement (constructor : Constructor) : Statement :=
  let inputs := constructor.inputsType
  if constructor.bindings.isEmpty then .line [.plain s!"let {inputs} \x7b\x7d = sockets;"]
  else
    .list [.plain s!"let {inputs} \x7b"]
      (constructor.bindings.map fun (field, name) =>
        [.plain s!"{field}: ", .binds name, .plain ","])
      "\x7d = sockets;"

def cellStatements (constructor : Constructor) : List Statement :=
  constructor.cells.map fun (cell, type) =>
    let type := (ValueType.cell type).text
    .line [.plain "let ", .binds cell, .plain s!": {type} = {shared}::new({onceLock}::new());"]

def resultStatement (constructor : Constructor) : Statement :=
  .list [.plain "Self \x7b"]
    (constructor.fields.map fun (field, name) => [.plain s!"{field}: ", .mentions name, .plain ","])
    "\x7d"

/-- The body of the constructor. -/
def statements (constructor : Constructor) : List Statement :=
  [constructor.bindingStatement] ++ constructor.cellStatements ++
    constructor.steps.flatMap (·.statements) ++ constructor.patches.flatMap (·.statements) ++
    [constructor.resultStatement]

/-- The locals bound before the first step. -/
def boundFirst (constructor : Constructor) : List Local :=
  constructor.bindings.map (·.2) ++ constructor.cells.map (·.1)

/-- The locals bound at the top level. -/
def bound (constructor : Constructor) : List Local :=
  constructor.boundFirst ++ constructor.steps.flatMap (·.bound)

theorem lines_bindingStatement (constructor : Constructor) :
    constructor.bindingStatement.lines = constructor.bindingLines := by
  simp only [bindingStatement, bindingLines]
  split
  · simp [Statement.lines]
  · simp [Statement.lines, Code.lines, toString, String.append_assoc, Function.comp_def]

/-- The statements are what is printed. -/
theorem lines_statements (constructor : Constructor) :
    Statement.allLines constructor.statements = constructor.body := by
  simp [statements, body, lines_bindingStatement, BuildStep.lines_statements,
    Patch.lines_statements, Statement.allLines, cellStatements, cellLines, resultStatement,
    resultLines, Statement.allLines_map, Statement.lines, Code.lines, toString,
    String.append_assoc, Function.comp_def]

@[simp] theorem bound_bindingStatement (constructor : Constructor) :
    constructor.bindingStatement.bound = constructor.bindings.map (·.2) := by
  simp only [bindingStatement]
  split
  · rename_i empty
    simp [List.isEmpty_iff.mp empty]
  · simp [Statement.bound, bound_flatten, List.flatMap_map, ← List.map_eq_flatMap]

@[simp] theorem bound_cellStatements (constructor : Constructor) :
    Statement.allBound constructor.cellStatements = constructor.cells.map (·.1) := by
  simp [cellStatements, Statement.allBound_map, ← List.map_eq_flatMap]

@[simp] theorem bound_stepStatements (steps : List BuildStep) :
    Statement.allBound (steps.flatMap (·.statements)) = steps.flatMap (·.bound) := by
  induction steps with
  | nil => rfl
  | cons step rest induction => simp [BuildStep.bound_statements, induction]

@[simp] theorem bound_patchStatements (patches : List Patch) :
    Statement.allBound (patches.flatMap (·.statements)) = [] := by
  induction patches with
  | nil => rfl
  | cons patch rest induction => simp [induction]

@[simp] theorem bound_resultStatement (constructor : Constructor) :
    constructor.resultStatement.bound = [] := by
  simp [resultStatement, Statement.bound, bound_flatten, List.flatMap_map]

theorem bound_statements (constructor : Constructor) :
    Statement.allBound constructor.statements = constructor.bound := by
  simp [statements, Constructor.bound, boundFirst]

theorem stepStatements_scoped {known : List Local} {steps : List BuildStep}
    (each : ∀ before step after, steps = before ++ step :: after →
      step.ScopedIn (known ++ before.flatMap (·.bound))) :
    Statement.AllScoped known (steps.flatMap (·.statements)) := by
  induction steps generalizing known with
  | nil => trivial
  | cons step rest induction =>
      refine Statement.allScoped_append.mpr ⟨?_, induction fun before other after split => ?_⟩
      · have first := each [] step rest rfl
        exact BuildStep.statements_scoped (by simpa using first)
      · rw [BuildStep.bound_statements, List.append_assoc, ← List.flatMap_cons]
        exact each (step :: before) other after (by rw [split]; rfl)

theorem patchStatements_scoped {known : List Local} {patches : List Patch}
    (inside : ∀ patch ∈ patches, ∀ name ∈ patch.locals, name ∈ known) :
    Statement.AllScoped known (patches.flatMap (·.statements)) := by
  induction patches with
  | nil => trivial
  | cons patch rest induction =>
      refine Statement.allScoped_append.mpr
        ⟨Patch.statements_scoped (inside patch List.mem_cons_self), ?_⟩
      rw [Patch.bound_statements, List.append_nil]
      exact induction fun other later => inside other (List.mem_cons_of_mem _ later)

/-- A constructor is well scoped when each step needs nothing but what is bound before
it, and nothing else is needed that is not bound at all. -/
theorem statements_scoped {constructor : Constructor}
    (steps : ∀ before step after, constructor.steps = before ++ step :: after →
      step.ScopedIn (constructor.boundFirst ++ before.flatMap (·.bound)))
    (patches : ∀ patch ∈ constructor.patches, ∀ name ∈ patch.locals, name ∈ constructor.bound)
    (fields : ∀ field ∈ constructor.fields, field.2 ∈ constructor.bound) :
    Statement.AllScoped [] constructor.statements := by
  have isFirst : Statement.allBound ([constructor.bindingStatement] ++ constructor.cellStatements) =
      constructor.boundFirst := by
    simp [boundFirst]
  unfold statements
  simp only [Statement.allScoped_append, Statement.allScoped_singleton]
  refine ⟨⟨⟨⟨?_, ?_⟩, ?_⟩, ?_⟩, ?_⟩
  · simp only [bindingStatement]
    split
    · simp
    · intro name member
      simp [mentioned_flatten, List.flatMap_map] at member
  · exact BuildStep.plainLines_scoped (by simp)
  · rw [List.nil_append, isFirst]
    exact stepStatements_scoped steps
  · rw [List.nil_append, Statement.allBound_append, isFirst, bound_stepStatements]
    exact patchStatements_scoped patches
  · rw [List.nil_append, Statement.allBound_append, Statement.allBound_append, isFirst,
      bound_stepStatements, bound_patchStatements, List.append_nil]
    intro name member
    simp only [mentioned_append, mentioned_flatten, List.flatMap_map, List.mem_append,
      List.mem_flatMap] at member
    rcases member with opening | ⟨field, listed, mention⟩
    · simp at opening
    · have equal : name = field.2 := by simpa using mention
      exact equal ▸ fields field listed

end Constructor

end StaticInjection.Code
