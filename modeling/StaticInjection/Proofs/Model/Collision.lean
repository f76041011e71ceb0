import StaticInjection.Proofs.Model.Named

/-! # Collisions of generated names

Generated names forget letter case and underscores, so modules, beans and cells that
names tell apart can get one. The checks report this exactly where it happens: among
well named declarations there is a collision of a kind when two different declarations
of that kind have a generated name in common, and without any report there is none. -/

namespace StaticInjection

/-! ## Reports of collisions -/

inductive CollisionKind where
  | module
  | bean
  | cell
deriving DecidableEq, Repr

/-- The kind of collision that a fault is about, if it is about one. -/
def DeclarationFault.collision? : DeclarationFault → Option CollisionKind
  | typeClash _ _ | fileClash _ _ => some .module
  | importClash _ _ => some .bean
  | deferredClash _ _ => some .cell
  | _ => none

/-- The kind of collision that a diagnostic tells of, by which its message begins. -/
def Diagnostic.collision? (diagnostic : Diagnostic) : Option CollisionKind :=
  match diagnostic.message.toList with
  | '生' :: '成' :: '的' :: '类' :: _ | '生' :: '成' :: '的' :: '文' :: _ => some .module
  | '生' :: '成' :: '的' :: '导' :: _ => some .bean
  | '生' :: '成' :: '的' :: '延' :: _ => some .cell
  | _ => none

@[simp] theorem collision?_invalid (scope : ModuleId) (location : Location)
    (fault : DeclarationFault) :
    (Diagnostic.invalid scope location fault.message).collision? = fault.collision? := by
  unfold Diagnostic.collision? Diagnostic.invalid DeclarationFault.message
  cases fault <;> simp only [String.toList_append] <;> rfl

/-- All diagnostics of a list tell of one kind of collision, or all tell of none. -/
def Tell (kind : Option CollisionKind) (diagnostics : List Diagnostic) : Prop :=
  ∀ diagnostic ∈ diagnostics, diagnostic.collision? = kind

namespace Tell

variable {kind : Option CollisionKind}

theorem append {left right : List Diagnostic} (leftTell : Tell kind left)
    (rightTell : Tell kind right) : Tell kind (left ++ right) :=
  List.forall_mem_append.mpr ⟨leftTell, rightTell⟩

theorem flatMap {items : List α} {reports : α → List Diagnostic}
    (tell : ∀ item ∈ items, Tell kind (reports item)) : Tell kind (items.flatMap reports) := by
  intro diagnostic reported
  rcases List.mem_flatMap.mp reported with ⟨item, listed, inReports⟩
  exact tell item listed diagnostic inReports

theorem reportAt {scope : ModuleId} {location : Location} {faults : List DeclarationFault}
    (tell : ∀ fault ∈ faults, fault.collision? = kind) :
    Tell kind (Model.reportAt scope location faults) := by
  intro diagnostic reported
  rcases List.mem_map.mp reported with ⟨fault, listed, rfl⟩
  rw [collision?_invalid, tell fault listed]

end Tell

namespace Model

open Naming

variable (model : Model)

theorem declarationReports_tell (module : Module) :
    Tell none (model.declarationReports module) := by
  apply Tell.append
  · apply Tell.append
    · apply Tell.reportAt
      simp [moduleFaults, mem_faultIf, DeclarationFault.collision?]
    · apply Tell.flatMap
      intro socket _
      apply Tell.reportAt
      simp only [moduleSocketFaults, socketFaults, List.mem_append, mem_faultIf]
      rintro fault (((⟨_, rfl⟩ | ⟨_, rfl⟩) | ⟨_, rfl⟩) | ⟨_, rfl⟩) <;> rfl
  · apply Tell.flatMap
    intro bean _
    apply Tell.append
    · apply Tell.append
      · apply Tell.reportAt
        simp only [ownBeanFaults, List.mem_append, List.mem_flatMap, mem_faultIf]
        rintro fault ((⟨_, rfl⟩ | ⟨_, rfl⟩) | ⟨_, _, _, rfl⟩) <;> rfl
      · apply Tell.flatMap
        intro socket _
        apply Tell.reportAt
        simp only [beanSocketFaults, socketFaults, List.mem_append, mem_faultIf]
        rintro fault (((⟨_, rfl⟩ | ⟨_, rfl⟩) | ⟨_, rfl⟩) | ⟨_, rfl⟩) <;> rfl
    · apply Tell.reportAt
      simp [repeatedBeanFaults, mem_faultIf, DeclarationFault.collision?]

theorem wiringReports_tell (module : Module) : Tell none (model.wiringReports module) := by
  apply Tell.reportAt
  intro fault listed
  rcases List.mem_map.mp listed with ⟨name, _, rfl⟩
  rfl

theorem siblingReports_tell (group : List ModuleId) : Tell none (model.siblingReports group) := by
  apply Tell.flatMap
  intro module _
  apply Tell.reportAt
  simp [DeclarationFault.collision?]

theorem moduleClashes_tell (types files : List (String × String)) (modules : List Module) :
    Tell (some .module) (moduleClashes types files modules) := by
  induction modules generalizing types files with
  | nil =>
      intro diagnostic reported
      cases reported
  | cons module rest induction =>
      rw [moduleClashes]
      split
      · apply Tell.append _ (induction _ _)
        apply Tell.reportAt
        simp [DeclarationFault.collision?]
      · apply Tell.append _ (induction _ _)
        apply Tell.reportAt
        simp [DeclarationFault.collision?]
      · exact induction _ _

theorem beanClashes_tell : Tell (some .bean) model.beanClashes := by
  apply Tell.flatMap
  intro clash _
  apply Tell.reportAt
  simp [DeclarationFault.collision?]

theorem socketClashes_tell : Tell (some .cell) model.socketClashes := by
  apply Tell.flatMap
  intro clash _
  apply Tell.reportAt
  simp [DeclarationFault.collision?]

/-- What is reported of one kind of collision. -/
def clashes : CollisionKind → List Diagnostic
  | .module => moduleClashes [] [] model.modules
  | .bean => model.beanClashes
  | .cell => model.socketClashes

theorem clashes_tell (kind : CollisionKind) : Tell (some kind) (model.clashes kind) := by
  cases kind with
  | module => exact moduleClashes_tell [] [] model.modules
  | bean => exact model.beanClashes_tell
  | cell => exact model.socketClashes_tell

theorem exists_other_faults : ∃ others, Tell none others ∧
    model.faults = others ++ model.clashes .module ++ model.clashes .bean ++ model.clashes .cell := by
  refine ⟨_, ?_, rfl⟩
  apply Tell.append _ (Tell.flatMap fun _ _ => model.siblingReports_tell _)
  apply Tell.append _ (model.siblingReports_tell _)
  exact (Tell.flatMap fun _ _ => model.declarationReports_tell _).append
    (Tell.flatMap fun _ _ => model.wiringReports_tell _)

/-- A kind of collision is told of only by the check for it. -/
theorem exists_told_iff (kind : CollisionKind) :
    (∃ diagnostic ∈ model.faults, diagnostic.collision? = some kind) ↔ model.clashes kind ≠ [] := by
  rcases model.exists_other_faults with ⟨others, none, split⟩
  constructor
  · rintro ⟨diagnostic, reported, told⟩
    have inClashes : ∃ other, diagnostic ∈ model.clashes other := by
      rw [split, List.mem_append, List.mem_append, List.mem_append] at reported
      rcases reported with ((elsewhere | inModules) | inBeans) | inCells
      · rw [none diagnostic elsewhere] at told
        cases told
      · exact ⟨.module, inModules⟩
      · exact ⟨.bean, inBeans⟩
      · exact ⟨.cell, inCells⟩
    rcases inClashes with ⟨other, inClashes⟩
    rw [model.clashes_tell other diagnostic inClashes] at told
    exact Option.some.inj told ▸ List.ne_nil_of_mem inClashes
  · intro reports
    rcases List.exists_mem_of_ne_nil _ reports with ⟨diagnostic, inClashes⟩
    refine ⟨diagnostic, ?_, model.clashes_tell kind diagnostic inClashes⟩
    rw [split, List.mem_append, List.mem_append, List.mem_append]
    cases kind with
    | module => exact .inl (.inl (.inr inClashes))
    | bean => exact .inl (.inr inClashes)
    | cell => exact .inr inClashes

/-! ## Declarations with one generated name -/

/-- Two declarations of a kind have a generated name in common. -/
def Collide : CollisionKind → Prop
  | .module => ∃ left ∈ model.moduleIds, ∃ right ∈ model.moduleIds, left ≠ right ∧
      (moduleType (model.path left) = moduleType (model.path right) ∨
        sourceFile (model.path left) = sourceFile (model.path right))
  | .bean => ∃ left ∈ model.beanIds, ∃ right ∈ model.beanIds, left ≠ right ∧
      model.beanKey (model.bean left) = model.beanKey (model.bean right)
  | .cell => ∃ left ∈ model.socketIds, (model.socket left).isLazy = true ∧
      ∃ right ∈ model.socketIds, (model.socket right).isLazy = true ∧ left ≠ right ∧
        model.socketKey (model.socket left) = model.socketKey (model.socket right)

variable {model}

theorem ToldApart.clashes_eq_nil_iff (apart : model.ToldApart) (wellFormed : model.WellFormed)
    (kind : CollisionKind) : model.clashes kind = [] ↔ ¬ model.Collide kind := by
  cases kind with
  | module =>
      rw [clashes, moduleClashes_eq_nil_iff, wellFormed.forall_modules]
      constructor
      · rintro agree ⟨left, leftKnown, right, rightKnown, different, same⟩
        have paths := (wellFormed.forall_modules.mp (agree left leftKnown)) right rightKnown same
        exact different (apart.eq_of_path leftKnown rightKnown paths)
      · intro apart left leftKnown
        rw [wellFormed.forall_modules]
        intro right rightKnown same
        by_contra different
        refine apart ⟨left, leftKnown, right, rightKnown, ?_, same⟩
        exact fun equal => different (congrArg model.path equal)
  | bean =>
      rw [clashes, beanClashes_eq_nil_iff wellFormed]
      constructor
      · rintro agree ⟨left, leftKnown, right, rightKnown, different, same⟩
        rcases Prod.mk.inj (agree left leftKnown right rightKnown same) with ⟨paths, names⟩
        exact different (apart.eq_of_bean wellFormed leftKnown rightKnown paths names)
      · intro apart left leftKnown right rightKnown same
        by_cases equal : left = right
        · rw [equal]
        · exact absurd ⟨left, leftKnown, right, rightKnown, equal, same⟩ apart
  | cell =>
      rw [clashes, socketClashes_eq_nil_iff wellFormed]
      constructor
      · rintro agree ⟨left, leftKnown, leftLazy, right, rightKnown, rightLazy, different, same⟩
        rcases Prod.mk.inj (agree left leftKnown leftLazy right rightKnown rightLazy same) with
          ⟨paths, rest⟩
        rcases Prod.mk.inj rest with ⟨owners, names⟩
        exact different (apart.eq_of_socket wellFormed leftKnown rightKnown paths owners names)
      · intro apart left leftKnown leftLazy right rightKnown rightLazy same
        by_cases equal : left = right
        · rw [equal]
        · exact absurd ⟨left, leftKnown, leftLazy, right, rightKnown, rightLazy, equal, same⟩ apart

theorem ToldApart.exists_told_iff (apart : model.ToldApart) (wellFormed : model.WellFormed)
    (kind : CollisionKind) :
    (∃ diagnostic ∈ model.faults, diagnostic.collision? = some kind) ↔ model.Collide kind := by
  rw [model.exists_told_iff, ne_eq, apart.clashes_eq_nil_iff wellFormed, not_not]

/-! ## Generated names that are unique -/

/-- Names that are generated for different declarations are different. -/
structure GeneratedApart (model : Model) : Prop where
  types : (model.moduleIds.flatMap fun id =>
    [moduleType (model.path id), inputsType (model.path id)]).Nodup
  files : (model.moduleIds.flatMap fun id =>
    [sourceFile (model.path id), descriptorFile (model.path id)]).Nodup
  imports : (model.beanIds.map fun id => model.beanKey (model.bean id)).Nodup
  cells : ((model.socketIds.filter fun id => (model.socket id).isLazy).map fun id =>
    model.socketKey (model.socket id)).Nodup

end Model

/-- Two names for each item are all different when those of one sort are, and the sorts are. -/
theorem nodup_pairs {items : List α} (nodup : items.Nodup) {first second : α → β}
    (firstApart : ∀ left ∈ items, ∀ right ∈ items, first left = first right → left = right)
    (secondApart : ∀ left ∈ items, ∀ right ∈ items, second left = second right → left = right)
    (sorts : ∀ left right, first left ≠ second right) :
    (items.flatMap fun item => [first item, second item]).Nodup := by
  rw [List.nodup_flatMap]
  constructor
  · intro item _
    simpa using sorts item item
  · refine nodup.imp_of_mem fun {left right} leftListed rightListed different => ?_
    have firsts := fun same => different (firstApart left leftListed right rightListed same)
    have seconds := fun same => different (secondApart left leftListed right rightListed same)
    simp [Function.onFun, Ne.symm firsts, Ne.symm seconds, sorts, Ne.symm (sorts _ _)]

namespace Model

open Naming

variable {model : Model}

theorem ToldApart.generatedApart (apart : model.ToldApart) (wellFormed : model.WellFormed)
    (silent : model.faults = []) : model.GeneratedApart := by
  have clear : ∀ kind, ¬ model.Collide kind := by
    intro kind
    rw [← apart.exists_told_iff wellFormed, silent]
    rintro ⟨_, reported, _⟩
    cases reported
  have types : ∀ left ∈ model.moduleIds, ∀ right ∈ model.moduleIds,
      moduleType (model.path left) = moduleType (model.path right) → left = right := by
    intro left leftKnown right rightKnown same
    by_contra different
    exact clear .module ⟨left, leftKnown, right, rightKnown, different, .inl same⟩
  have files : ∀ left ∈ model.moduleIds, ∀ right ∈ model.moduleIds,
      sourceFile (model.path left) = sourceFile (model.path right) → left = right := by
    intro left leftKnown right rightKnown same
    by_contra different
    exact clear .module ⟨left, leftKnown, right, rightKnown, different, .inr same⟩
  constructor
  case types =>
    apply nodup_pairs wellFormed.moduleIds_nodup types
    · intro left leftKnown right rightKnown same
      exact types left leftKnown right rightKnown (inputsType_eq_iff.mp same)
    · exact fun _ _ => moduleType_ne_inputsType _ _
  case files =>
    apply nodup_pairs wellFormed.moduleIds_nodup files
    · intro left leftKnown right rightKnown same
      exact files left leftKnown right rightKnown (descriptorFile_eq_iff.mp same)
    · exact fun _ _ => sourceFile_ne_descriptorFile _ _
  case imports =>
    apply wellFormed.beanIds_nodup.map_on
    intro left leftKnown right rightKnown same
    by_contra different
    exact clear .bean ⟨left, leftKnown, right, rightKnown, different, same⟩
  case cells =>
    apply (wellFormed.socketIds_nodup.filter _).map_on
    intro left leftListed right rightListed same
    rcases List.mem_filter.mp leftListed with ⟨leftKnown, leftLazy⟩
    rcases List.mem_filter.mp rightListed with ⟨rightKnown, rightLazy⟩
    by_contra different
    exact clear .cell ⟨left, leftKnown, leftLazy, right, rightKnown, rightLazy, different, same⟩

end Model

/-- Among well named declarations, a collision of a kind is reported exactly when two
different declarations of that kind get one name. Where nothing is reported of any
declarations, all names that are generated for them differ. -/
theorem collision_reported_iff (declarations : List ModuleDeclaration) :
    let model := Model.ofDeclarations declarations
    (WellNamed declarations → ∀ kind,
      (∃ diagnostic ∈ model.faults, diagnostic.collision? = some kind) ↔ model.Collide kind) ∧
    (model.faults = [] → model.GeneratedApart) := by
  intro model
  have wellFormed : model.WellFormed := Model.ofDeclarations_wellFormed declarations
  constructor
  · intro wellNamed
    have apart : model.ToldApart := (Model.ofDeclarations_arranged declarations).toldApart wellNamed
    exact apart.exists_told_iff wellFormed
  · intro silent
    have faultless := (Model.faults_eq_nil_iff wellFormed).mp silent
    exact (faultless.toldApart wellFormed).generatedApart wellFormed silent

/-- Two modules with a bean each, whose socket is filled later. -/
def sampleStores (first second : String) : List ModuleDeclaration :=
  let pool : BeanDeclaration :=
    { name := "pool", declaredType := .ofText "Pool", visibility := .isPublic
      sockets := [{ name := "clock", requiredType := .ofText "Clock", isLazy := true }] }
  [{ name := first, beans := [pool] }, { name := second, beans := [pool] }]

set_option maxRecDepth 100000 in
/-- Capitals and underscores do not tell modules apart in generated code, nor beans and
cells in them. -/
theorem sampleStores_collide :
    WellNamed (sampleStores "my_db" "myDb") ∧
    (∀ kind, ∃ diagnostic ∈ (Model.ofDeclarations (sampleStores "my_db" "myDb")).faults,
      diagnostic.collision? = some kind) ∧
    (Model.ofDeclarations (sampleStores "my_db" "logDb")).faults = [] ∧
    (Model.ofDeclarations (sampleStores "my_db" "logDb")).GeneratedApart := by
  have wellNamed : WellNamed (sampleStores "my_db" "myDb") := by decide +kernel
  have collide : ∀ kind, (Model.ofDeclarations (sampleStores "my_db" "myDb")).Collide kind := by
    intro kind
    cases kind with
    | module =>
        exact ⟨⟨0⟩, by decide +kernel, ⟨1⟩, by decide +kernel, by decide, .inl (by decide +kernel)⟩
    | bean => exact ⟨⟨0⟩, by decide +kernel, ⟨1⟩, by decide +kernel, by decide, by decide +kernel⟩
    | cell =>
        exact ⟨⟨0⟩, by decide +kernel, by decide +kernel, ⟨1⟩, by decide +kernel,
          by decide +kernel, by decide, by decide +kernel⟩
  have silent : (Model.ofDeclarations (sampleStores "my_db" "logDb")).faults = [] := by
    decide +kernel
  refine ⟨wellNamed, ?_, silent, (collision_reported_iff _).2 silent⟩
  exact fun kind => ((collision_reported_iff _).1 wellNamed kind).mpr (collide kind)

end StaticInjection
