import StaticInjection.Proofs.Code.Capture
import StaticInjection.Proofs.Code.Shape

/-! # What constructors move

Collections are gathered in locals of their own, for one step each, and are moved where
that step passes them on. Nothing else is moved before the result, which comes last, so
that no statement mentions what an earlier one has moved. -/

namespace StaticInjection.Code

/-- The local of a collection, which is there for one step. -/
def Local.Temporary (name : Local) : Prop :=
  name.kind = .gathered ∨ name.kind = .childGathered

@[simp] theorem Local.temporary_mk {kind : LocalKind} {name : String} :
    (⟨kind, name⟩ : Local).Temporary ↔ kind = .gathered ∨ kind = .childGathered := Iff.rfl

/-! ## Lines -/

/-- Behind this text a value ends: it is not borrowed, and neither is it in brackets. -/
structure Ends (behind : String) : Prop where
  plain : borrows behind = false
  inBrackets : borrows (")" ++ behind) = false

def Value.moved : Value → List Local
  | coerced value _ => value.moved
  | present value => value.moved
  | whole source => [source]
  | _ => []

theorem Value.moved_pieces (value : Value) {rest : List Piece} (ends : Ends (write rest)) :
    Code.moved (value.pieces ++ rest) = value.moved ++ Code.moved rest := by
  induction value generalizing rest with
  | coerced value type induction =>
      have inner : Ends (write (.plain " as " :: .plain (sharedOf type) :: rest)) :=
        ⟨by simp [borrows], by simp [borrows]⟩
      rw [pieces, moved, List.append_assoc]
      exact induction inner
  | present value induction =>
      have inner : Ends (write (.plain ")" :: rest)) :=
        ⟨ends.inBrackets, by simp [borrows]⟩
      rw [pieces, moved, List.cons_append, List.cons_append, Code.moved_plain, List.append_assoc]
      exact induction inner
  | whole source => simp [pieces, moved, ends.plain]
  | beanOf child through bean =>
      cases through <;> simp [pieces, moved, borrows, toString]
  | factoryOf child through bean =>
      cases through <;> simp [pieces, moved, borrows, toString]
  | cloneOf source => simp [pieces, moved, borrows]
  | callOf factory => simp [pieces, moved, borrows]
  | absent => simp [pieces, moved]
  | impossible => simp [pieces, moved]

theorem moved_separated (values : List Value) {rest : List Piece} (ends : Ends (write rest)) :
    moved (separated values ++ rest) = values.flatMap (·.moved) ++ moved rest := by
  induction values using separated.induct with
  | case1 => simp [separated]
  | case2 value => simpa [separated] using value.moved_pieces ends
  | case3 value others nonempty induction =>
      have between : Ends (write (.plain ", " :: separated others ++ rest)) :=
        ⟨by simp [borrows], by simp [borrows]⟩
      rw [separated, List.append_assoc, value.moved_pieces between, List.cons_append, moved_plain,
        induction, List.flatMap_cons, List.append_assoc]
      exact nonempty

theorem Construction.moved_pieces (construction : Construction) :
    moved (construction.pieces ++ [.plain ";"]) = construction.arguments.flatMap (·.moved) := by
  have ends : Ends (write [.plain "))", .plain ";"]) := ⟨by simp [borrows], by simp [borrows]⟩
  simp only [pieces, List.cons_append, List.append_assoc, moved_plain]
  simpa using moved_separated construction.arguments ends

def GatherStep.moved : GatherStep → List Local
  | push value => value.moved
  | extendOptional _ => []
  | extendAll _ => []

theorem GatherStep.moved_pieces (target : Local) (step : GatherStep) :
    Code.moved (step.pieces target) = step.moved := by
  cases step with
  | push value =>
      have ends : Ends (write [.plain ");"]) := ⟨by simp [borrows], by simp [borrows]⟩
      simpa [pieces, moved, borrows] using value.moved_pieces ends
  | extendOptional source => simp [pieces, moved, borrows]
  | extendAll source => simp [pieces, moved, borrows]

/-! ## Sequences -/

namespace Statement

/-- No temporaries are moved or mentioned but these, and nothing else is moved. -/
structure KeepsTo (own : List Local) (statement : Statement) : Prop where
  moved : ∀ name ∈ statement.moved, name ∈ own
  mentioned : ∀ name ∈ statement.mentions, name.Temporary → name ∈ own

/-- The later statement finds what it mentions where it was. -/
def Spares (earlier later : Statement) : Prop :=
  earlier.moved.Disjoint later.mentions

variable {earlier later : Statement} {left right : List Local} {first second : List Statement}

theorem spares_of_still (still : earlier.moved = []) : earlier.Spares later := by
  rw [Spares, still]
  exact List.disjoint_nil_left _

theorem KeepsTo.still (keeps : earlier.KeepsTo []) : earlier.moved = [] :=
  List.eq_nil_iff_forall_not_mem.mpr fun name isMoved => nomatch keeps.moved name isMoved

theorem KeepsTo.plain (keeps : earlier.KeepsTo []) : ∀ name ∈ earlier.mentions, ¬ name.Temporary :=
  fun name mention temporary => nomatch keeps.mentioned name mention temporary

theorem KeepsTo.mono (keeps : earlier.KeepsTo left) (grows : left ⊆ right) :
    earlier.KeepsTo right where
  moved name member := grows (keeps.moved name member)
  mentioned name member temporary := grows (keeps.mentioned name member temporary)

theorem KeepsTo.spares (keeps : earlier.KeepsTo left) (temporary : ∀ name ∈ left, name.Temporary)
    (others : ∀ name ∈ later.mentions, name.Temporary → name ∉ left) : earlier.Spares later := by
  intro name isMoved mention
  have own := keeps.moved name isMoved
  exact others name mention (temporary name own) own

theorem pairwise_still_append (still : ∀ statement ∈ first, statement.moved = [])
    (later : second.Pairwise Spares) : (first ++ second).Pairwise Spares := by
  induction first with
  | nil => exact later
  | cons statement rest induction =>
      apply List.pairwise_cons.mpr
      constructor
      · exact fun other _ => spares_of_still (still statement List.mem_cons_self)
      · exact induction fun other listed => still other (List.mem_cons_of_mem _ listed)

theorem pairwise_still (still : ∀ statement ∈ first, statement.moved = []) :
    first.Pairwise Spares := by
  simpa using pairwise_still_append still .nil

end Statement

/-! ## Collections -/

theorem mem_gatheringStatements {gatherings : List Gathering} {statement : Statement} :
    statement ∈ gatheringStatements gatherings ↔ ∃ gathering ∈ gatherings,
      statement = .line gathering.opening ∨
        ∃ gather ∈ gathering.steps, statement = .line (gather.pieces gathering.target) := by
  simp [gatheringStatements, Gathering.statements, eq_comm]

theorem mem_allMentions_gatheringStatements {gatherings : List Gathering} {name : Local} :
    name ∈ Statement.allMentions (gatheringStatements gatherings) ↔
      ∃ gathering ∈ gatherings, ∃ gather ∈ gathering.steps,
        name = gathering.target ∨ name ∈ gather.locals := by
  simp only [Statement.mem_allMentions, mem_gatheringStatements]
  constructor
  · rintro ⟨statement, ⟨gathering, listed, rfl | ⟨gather, added, rfl⟩⟩, mention⟩
    · simp at mention
    · rw [Statement.mentions_line, GatherStep.mentioned_pieces, List.mem_cons] at mention
      exact ⟨gathering, listed, gather, added, mention⟩
  · rintro ⟨gathering, listed, gather, added, mention⟩
    refine ⟨_, ⟨gathering, listed, .inr ⟨gather, added, rfl⟩⟩, ?_⟩
    rw [Statement.mentions_line, GatherStep.mentioned_pieces]
    exact List.mem_cons.mpr mention

theorem gatheringStatements_still {gatherings : List Gathering}
    (still : ∀ gathering ∈ gatherings, ∀ gather ∈ gathering.steps, gather.moved = []) :
    ∀ statement ∈ gatheringStatements gatherings, statement.moved = [] := by
  intro statement listed
  rcases mem_gatheringStatements.mp listed with ⟨gathering, inside, rfl | ⟨gather, added, rfl⟩⟩
  · simp only [Statement.moved_line, Gathering.opening]
    split <;> rfl
  · rw [Statement.moved_line, GatherStep.moved_pieces, still gathering inside gather added]

namespace BuildStep

/-- What the closure of a factory mentions, apart from collections, is mentioned for one
of these reasons. -/
theorem mem_allMentions_factoryStatements {bean : String} {tracked : Bool}
    {construction : Construction} {hooks : List String} {name : Local} :
    name ∈ Statement.allMentions (factoryStatements bean tracked construction hooks) ↔
      name ∈ Statement.allMentions (gatheringStatements construction.gatherings) ∨
        (∃ value ∈ construction.arguments, name ∈ value.locals) ∨
        (tracked = true ∧ name = ⟨.issued, bean⟩) := by
  have hooksPlain : name ∉ Statement.allMentions
      (hooks.map fun hook => .line [.plain s!"bean.{hook}();"]) := by
    simp [Statement.mem_allMentions]
  simp only [factoryStatements, Statement.allMentions_append, List.mem_append, hooksPlain]
  cases tracked <;>
    simp [Statement.allMentions, issuedStatements, Statement.mentions, or_assoc]

/-! ## Steps -/

/-- The locals of the collections that a step gathers. -/
def temporaries (step : BuildStep) : List Local :=
  step.gatherings.map (·.target)

/-- The values passed to the constructor of a bean or of a child. -/
def passed (step : BuildStep) : List Value :=
  step.arguments ++ step.fields.map (·.2)

/-- What the closure of a factory mentions is captured. -/
def Owns : BuildStep → Prop
  | perRequest bean _ tracked captured construction _ =>
    ValuesScoped captured construction.gatherings construction.arguments ∧
      (tracked = true → ⟨.issued, bean⟩ ∈ captured) ∧ ∀ name ∈ captured, ¬ name.Temporary
  | _ => True

/-- A step has no temporaries but its own collections, and moves nothing but these. -/
structure Tidy (step : BuildStep) : Prop where
  temporary : ∀ name ∈ step.temporaries, name.Temporary
  gathered : ∀ gathering ∈ step.gatherings, ∀ gather ∈ gathering.steps,
    gather.moved = [] ∧ ∀ name ∈ gather.locals, ¬ name.Temporary
  moved : ∀ name ∈ step.passed.flatMap (·.moved), name ∈ step.temporaries
  mentioned : ∀ name ∈ step.passed.flatMap (·.locals), name.Temporary → name ∈ step.temporaries
  owns : step.Owns

theorem gatheringStatements_keepTo {gatherings : List Gathering}
    (gathered : ∀ gathering ∈ gatherings, ∀ gather ∈ gathering.steps,
      gather.moved = [] ∧ ∀ name ∈ gather.locals, ¬ name.Temporary) :
    ∀ statement ∈ gatheringStatements gatherings,
      statement.KeepsTo (gatherings.map (·.target)) := by
  intro statement listed
  constructor
  · rw [gatheringStatements_still (fun _ inside _ added => (gathered _ inside _ added).1) _ listed]
    exact List.forall_mem_nil _
  · intro name mention temporary
    have inside := Statement.mem_allMentions.mpr ⟨statement, listed, mention⟩
    rcases mem_allMentions_gatheringStatements.mp inside with
      ⟨gathering, isGathering, gather, added, rfl | isLocal⟩
    · exact List.mem_map_of_mem isGathering
    · exact absurd temporary ((gathered gathering isGathering gather added).2 name isLocal)

/-- All that the closure of a factory takes along is captured. -/
theorem factoryStatements_owned {bean type : String} {tracked : Bool} {captured : List Local}
    {construction : Construction} {hooks : List String}
    (owns : (perRequest bean type tracked captured construction hooks).Owns) :
    ∀ name ∈ Statement.allFree (factoryStatements bean tracked construction hooks),
      name ∈ captured :=
  (Statement.allScoped_iff_allFree _).mp (factoryStatements_scoped owns.1 owns.2.1)

theorem bound_factoryStatements (bean : String) (tracked : Bool) (construction : Construction)
    (hooks : List String) :
    Statement.allBound (factoryStatements bean tracked construction hooks) =
      construction.gatherings.map (·.target) := by
  cases tracked <;>
    simp [factoryStatements, issuedStatements, Statement.allBound_map]

/-- In the closure of a factory no inner scope binds a local. -/
theorem free_factoryStatements {bean : String} {tracked : Bool} {construction : Construction}
    {hooks : List String} :
    ∀ statement ∈ factoryStatements bean tracked construction hooks,
      statement.free = statement.mentions := by
  intro statement listed
  simp only [factoryStatements, List.mem_append, List.mem_singleton, List.mem_map] at listed
  rcases listed with (((gathering | rfl) | ⟨hook, _, rfl⟩) | issued) | rfl
  · rcases mem_gatheringStatements.mp gathering with ⟨_, _, rfl | ⟨_, _, rfl⟩⟩ <;> rfl
  · rfl
  · rfl
  · cases tracked with
    | false => cases issued
    | true =>
        rw [List.mem_singleton.mp issued]
        rfl
  · rfl

theorem statements_perRequest_still {bean type : String} {tracked : Bool} {captured : List Local}
    {construction : Construction} {hooks : List String}
    (owns : (perRequest bean type tracked captured construction hooks).Owns) :
    ∀ statement ∈ (perRequest bean type tracked captured construction hooks).statements,
      statement.moved = [] := by
  rw [statements_perRequest]
  intro statement listed
  rcases List.mem_append.mp listed with tracker | isFactory
  · cases tracked with
    | false => cases tracker
    | true =>
        rw [List.mem_singleton.mp tracker]
        simp [trackerStatement]
  · rw [List.mem_singleton.mp isFactory]
    exact Statement.moved_factory (factoryStatements_owned owns)

theorem hooks_keepTo (bean : String) (hooks : List String) :
    ∀ statement ∈ hooks.map (fun hook =>
        Statement.line [.mentions ⟨.singleton, bean⟩, .plain s!".{hook}();"]),
      statement.KeepsTo [] := by
  intro statement listed
  rcases List.mem_map.mp listed with ⟨hook, _, rfl⟩
  constructor
  · simp [borrows, toString]
  · simp

theorem moved_field (value : Value) :
    Code.moved (value.pieces ++ [.plain ","]) = value.moved := by
  have ends : Ends (write [.plain ","]) := ⟨by simp [borrows], by simp [borrows]⟩
  simpa using value.moved_pieces ends

variable {step : BuildStep}

/-- Whatever a step does, it keeps to its own collections. -/
theorem Tidy.keepsTo (tidy : step.Tidy) :
    ∀ statement ∈ step.statements, statement.KeepsTo step.temporaries := by
  rcases tidy with ⟨_, gathered, moved, mentioned, owns⟩
  cases step with
  | singleton bean construction hooks =>
      simp only [passed, arguments, fields, List.map_nil, List.append_nil] at moved mentioned
      simp only [statements, List.mem_append, List.mem_singleton]
      rintro statement ((gathering | rfl) | hook)
      · exact gatheringStatements_keepTo gathered statement gathering
      · constructor
        · simpa [Construction.moved_pieces] using moved
        · simpa using mentioned
      · exact (hooks_keepTo bean hooks statement hook).mono (List.nil_subset _)
  | perRequest bean type tracked captured construction hooks =>
      simp only [passed, arguments, fields, List.map_nil, List.append_nil] at mentioned
      intro statement listed
      constructor
      · rw [statements_perRequest_still owns statement listed]
        exact List.forall_mem_nil _
      intro name mention temporary
      rw [statements_perRequest] at listed
      rcases List.mem_append.mp listed with tracker | isFactory
      · cases tracked with
        | false => cases tracker
        | true =>
            rw [List.mem_singleton.mp tracker] at mention
            simp [trackerStatement] at mention
      · rw [List.mem_singleton.mp isFactory, Statement.mem_mentions_factory,
          mem_allMentions_factoryStatements] at mention
        rcases mention with isCaptured | gathering | ⟨value, listed, isLocal⟩ | ⟨_, rfl⟩
        · exact absurd temporary (owns.2.2 name isCaptured)
        · rcases Statement.mem_allMentions.mp gathering with ⟨other, inside, mention⟩
          exact (gatheringStatements_keepTo gathered other inside).mentioned name mention temporary
        · exact mentioned name (List.mem_flatMap.mpr ⟨value, listed, isLocal⟩) temporary
        · simp at temporary
  | child name moduleType inputsType gatherings fields =>
      simp only [passed, arguments, BuildStep.fields, List.nil_append] at moved mentioned
      simp only [statements, List.mem_append, List.mem_singleton]
      rintro statement (gathering | rfl)
      · exact gatheringStatements_keepTo gathered statement gathering
      · constructor
        · simpa [Statement.moved, moved_field, List.flatMap_map] using moved
        · simpa [Statement.mentions, mentioned_flatten, List.flatMap_map] using mentioned

/-- Within a step nothing is mentioned that has been moved. -/
theorem Tidy.statements_spare (tidy : step.Tidy) : step.statements.Pairwise Statement.Spares := by
  have keeps := tidy.keepsTo
  have still := gatheringStatements_still fun _ inside _ added => (tidy.gathered _ inside _ added).1
  cases step with
  | singleton bean construction hooks =>
      have hooksKeep := hooks_keepTo bean hooks
      rw [statements, List.append_assoc] at keeps ⊢
      apply Statement.pairwise_still_append still
      apply List.pairwise_cons.mpr
      constructor
      · intro hook listed
        apply (keeps _ (by simp)).spares tidy.temporary
        intro name mention temporary
        exact absurd temporary ((hooksKeep hook listed).plain name mention)
      · exact Statement.pairwise_still fun hook listed => (hooksKeep hook listed).still
  | perRequest bean type tracked captured construction hooks =>
      exact Statement.pairwise_still (statements_perRequest_still tidy.owns)
  | child name moduleType inputsType gatherings fields =>
      exact Statement.pairwise_still_append still (List.pairwise_singleton _ _)

theorem not_temporary_perRequest {bean type : String} {tracked : Bool} {captured : List Local}
    {construction : Construction} {hooks : List String} {name : Local}
    (member : name ∈ (perRequest bean type tracked captured construction hooks).bound) :
    ¬ name.Temporary := by
  simp only [bound, List.mem_append, List.mem_singleton] at member
  rcases member with issued | rfl
  · cases tracked with
    | false => cases issued
    | true =>
        rw [List.mem_singleton.mp issued]
        simp
  · simp

/-- The temporaries that a step leaves bound are its own. -/
theorem mem_temporaries_of_bound {name : Local} (member : name ∈ step.bound)
    (temporary : name.Temporary) : name ∈ step.temporaries := by
  cases step with
  | singleton bean construction hooks =>
      apply (List.mem_append.mp member).resolve_right
      intro isBean
      rw [List.mem_singleton.mp isBean] at temporary
      simp at temporary
  | perRequest bean type tracked captured construction hooks =>
      exact absurd temporary (not_temporary_perRequest member)
  | child childName moduleType inputsType gatherings fields =>
      apply (List.mem_append.mp member).resolve_right
      intro isChild
      rw [List.mem_singleton.mp isChild] at temporary
      simp at temporary

end BuildStep

/-! ## Patches -/

namespace Patch

def moved : Patch → List Local
  | fill _ value => value.moved
  | fillOptional _ _ => []

theorem statements_keepTo {patch : Patch} (still : patch.moved = [])
    (locals : ∀ name ∈ patch.locals, ¬ name.Temporary) :
    ∀ statement ∈ patch.statements, statement.KeepsTo [] := by
  intro statement listed
  cases patch with
  | fill cell value =>
      have ends : Ends (write [.plain ");"]) := ⟨by simp [borrows], by simp [borrows]⟩
      rw [List.mem_singleton.mp listed]
      simp only [Patch.locals, List.forall_mem_cons] at locals
      constructor
      · simp only [moved] at still
        simp [borrows, value.moved_pieces ends, still]
      · simpa using locals
  | fillOptional cell source =>
      rw [List.mem_singleton.mp listed]
      simp only [Patch.locals, List.forall_mem_cons] at locals
      constructor
      · simp [Statement.moved, closureOpening, Statement.allMoved, borrows]
      · simp [Statement.mentions, Statement.allMentions, locals]

end Patch

/-! ## Constructors -/

namespace Constructor

/-- The parts of a constructor are tidy, and no two steps share a temporary. -/
structure Tidy (constructor : Constructor) : Prop where
  first : ∀ name ∈ constructor.boundFirst, ¬ name.Temporary
  steps : ∀ step ∈ constructor.steps, step.Tidy
  apart : constructor.steps.Pairwise fun earlier later =>
    earlier.temporaries.Disjoint later.temporaries
  patches : ∀ patch ∈ constructor.patches,
    patch.moved = [] ∧ ∀ name ∈ patch.locals, ¬ name.Temporary
  fields : ∀ field ∈ constructor.fields, ¬ field.2.Temporary

variable {constructor : Constructor}

theorem leading_still (constructor : Constructor) :
    ∀ statement ∈ [constructor.bindingStatement] ++ constructor.cellStatements,
      statement.moved = [] := by
  intro statement listed
  rcases List.mem_append.mp listed with binding | cell
  · rw [List.mem_singleton.mp binding, bindingStatement]
    split
    · rfl
    · simp [Statement.moved, List.flatMap_map]
  · rcases List.mem_map.mp cell with ⟨entry, _, rfl⟩
    rfl

theorem Tidy.resultStatement_plain (tidy : constructor.Tidy) :
    ∀ name ∈ constructor.resultStatement.mentions, ¬ name.Temporary := by
  intro name mention
  simp only [resultStatement, Statement.mentions, mentioned_append, mentioned_flatten,
    mentioned_plain, mentioned_nil, List.nil_append, List.flatMap_map, List.mem_flatMap] at mention
  rcases mention with ⟨field, listed, isLocal⟩
  rw [mentioned_mentions, mentioned_plain, mentioned_nil, List.mem_singleton] at isLocal
  exact isLocal ▸ tidy.fields field listed

/-- What steps move is not mentioned by other steps. -/
theorem Tidy.stepStatements_spare (tidy : constructor.Tidy) :
    (constructor.steps.flatMap (·.statements)).Pairwise Statement.Spares := by
  apply List.pairwise_flatMap.mpr
  constructor
  · exact fun step listed => (tidy.steps step listed).statements_spare
  apply List.Pairwise.imp_of_mem _ tidy.apart
  intro left right leftListed rightListed apart earlier earlierListed later laterListed
  have leftTidy := tidy.steps left leftListed
  have keeps := (tidy.steps right rightListed).keepsTo later laterListed
  apply (leftTidy.keepsTo earlier earlierListed).spares leftTidy.temporary
  intro name mention temporary own
  exact apart own (keeps.mentioned name mention temporary)

/-- No statement of a constructor mentions what an earlier one has moved. -/
theorem Tidy.statements_spare (tidy : constructor.Tidy) :
    constructor.statements.Pairwise Statement.Spares := by
  have parts : constructor.statements =
      ([constructor.bindingStatement] ++ constructor.cellStatements) ++
        (constructor.steps.flatMap (·.statements) ++
          (constructor.patches.flatMap (·.statements) ++ [constructor.resultStatement])) := by
    simp only [statements, List.append_assoc]
  have patchesKeep : ∀ statement ∈ constructor.patches.flatMap (·.statements),
      statement.KeepsTo [] := by
    intro statement listed
    rcases List.mem_flatMap.mp listed with ⟨patch, isPatch, inside⟩
    have facts := tidy.patches patch isPatch
    exact Patch.statements_keepTo facts.1 facts.2 statement inside
  rw [parts]
  apply Statement.pairwise_still_append constructor.leading_still
  apply List.pairwise_append.mpr
  refine ⟨tidy.stepStatements_spare, ?_, ?_⟩
  · -- The result moves the fields, and nothing comes after it.
    exact Statement.pairwise_still_append (fun patch listed => (patchesKeep patch listed).still)
      (List.pairwise_singleton _ _)
  · intro earlier inSteps later listed
    rcases List.mem_flatMap.mp inSteps with ⟨step, isStep, inside⟩
    have stepTidy := tidy.steps step isStep
    apply (stepTidy.keepsTo earlier inside).spares stepTidy.temporary
    intro name mention temporary
    rcases List.mem_append.mp listed with patch | result
    · exact absurd temporary ((patchesKeep later patch).plain name mention)
    · rw [List.mem_singleton.mp result] at mention
      exact absurd temporary (tidy.resultStatement_plain name mention)

/-! ## Factories -/

section Factories

variable {before after : List BuildStep} {bean type : String} {tracked : Bool}
  {captured : List Local} {construction : Construction} {hooks : List String}

/-- The temporaries of a factory are bound in its closure alone. -/
theorem Tidy.temporaries_unbound (tidy : constructor.Tidy)
    (split : constructor.steps =
      before ++ .perRequest bean type tracked captured construction hooks :: after)
    {gathering : Gathering} (listed : gathering ∈ construction.gatherings) :
    gathering.target ∉ constructor.bound := by
  have own : gathering.target ∈
      (BuildStep.perRequest bean type tracked captured construction hooks).temporaries :=
    List.mem_map_of_mem listed
  have isStep : .perRequest bean type tracked captured construction hooks ∈ constructor.steps := by
    simp [split]
  have temporary := (tidy.steps _ isStep).temporary _ own
  have apart := tidy.apart
  rw [split, List.pairwise_append, List.pairwise_cons] at apart
  rcases apart with ⟨_, ⟨others, _⟩, earlier⟩
  -- Of this kind other steps bind their own, and the factory binds none around its closure.
  intro isBound
  rcases List.mem_append.mp isBound with isFirst | inSteps
  · exact tidy.first _ isFirst temporary
  · rcases List.mem_flatMap.mp inSteps with ⟨step, listed, member⟩
    have ofStep := BuildStep.mem_temporaries_of_bound member temporary
    rw [split, List.mem_append, List.mem_cons] at listed
    rcases listed with inBefore | rfl | inAfter
    · exact earlier step inBefore _ List.mem_cons_self ofStep own
    · exact BuildStep.not_temporary_perRequest member temporary
    · exact others step inAfter own ofStep

theorem exists_factory_split
    (split : constructor.steps =
      before ++ .perRequest bean type tracked captured construction hooks :: after) :
    ∃ front rest, constructor.statements = front ++ Statement.factory bean type captured
      (BuildStep.factoryStatements bean tracked construction hooks) :: rest := by
  refine ⟨[constructor.bindingStatement] ++ constructor.cellStatements ++
    before.flatMap (·.statements) ++
      if tracked then [BuildStep.trackerStatement bean type] else [],
    after.flatMap (·.statements) ++ constructor.patches.flatMap (·.statements) ++
      [constructor.resultStatement], ?_⟩
  simp only [statements, split, List.flatMap_append, List.flatMap_cons,
    BuildStep.statements_perRequest, List.append_assoc, List.cons_append, List.nil_append]

/-- The factory of a bean captures just what its closure mentions of the locals of the
constructor. -/
theorem Tidy.captures (tidy : constructor.Tidy)
    (known : Statement.AllScoped [] constructor.statements)
    (split : constructor.steps =
      before ++ .perRequest bean type tracked captured construction hooks :: after)
    (once : captured.Nodup)
    (used : ∀ name ∈ captured, name ∈
      Statement.allMentions (BuildStep.factoryStatements bean tracked construction hooks)) :
    ∃ front rest, constructor.statements = front ++ Statement.factory bean type captured
        (BuildStep.factoryStatements bean tracked construction hooks) :: rest ∧
      Statement.Captures constructor.statements front captured
        (BuildStep.factoryStatements bean tracked construction hooks) := by
  have isStep : .perRequest bean type tracked captured construction hooks ∈ constructor.steps := by
    simp [split]
  have owned := BuildStep.factoryStatements_owned (tidy.steps _ isStep).owns
  rcases exists_factory_split split with ⟨front, rest, parts⟩
  refine ⟨front, rest, parts, ?_⟩
  apply Statement.captures_of_split parts known once owned used BuildStep.free_factoryStatements
  rw [BuildStep.bound_factoryStatements, List.forall_mem_map, bound_statements]
  exact fun gathering listed => tidy.temporaries_unbound split listed

end Factories

end Constructor

end StaticInjection.Code
