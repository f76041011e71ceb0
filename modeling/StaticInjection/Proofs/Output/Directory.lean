import StaticInjection.Output.Directory
import StaticInjection.Proofs.Build.Path

/-! # Where files are written

The output of a build asks a file system for files that belong to its modules, whatever
the file system answers. They lie in the directory of the output itself, except those
of a module with a slash in its path. The name with the slash is reported, but the
files of the module are removed all the same, and those of modules below it written. -/

namespace StaticInjection

/-! ## What is asked of a file system -/

inductive FileCall where
  | createDirectories (path : String)
  | write (path content : String)
  | rename (source target : String)
  | remove (path : String)
deriving DecidableEq, Repr

namespace FileCall

/-- The files that come into being, change or disappear. -/
def files : FileCall → List String
  | createDirectories _ => []
  | write path _ => [path]
  | rename source target => [source, target]
  | remove path => [path]

end FileCall

/-- Actions that leave a record of what they asked for. -/
abbrev Recorded := StateM (List FileCall)

namespace Recorded

def calls (action : Recorded α) (before : List FileCall) : List FileCall :=
  (action.run before).run.2

/-- Ask a file system that answers by all that was asked of it so far. -/
def ask (answer : List FileCall → Except FileFault Unit) (call : FileCall) :
    Recorded (Except FileFault Unit) := fun before =>
  let asked := before ++ [call]
  (answer asked, asked)

/-- Everything that an action asks for is allowed, whatever was asked before. -/
def Asks (allowed : FileCall → Prop) (action : Recorded α) : Prop :=
  ∀ before, ∃ asked, action.calls before = before ++ asked ∧ ∀ call ∈ asked, allowed call

namespace Asks

variable {allowed : FileCall → Prop}

theorem pure (value : α) : Asks allowed (Pure.pure value) :=
  fun before => ⟨[], (List.append_nil before).symm, by simp⟩

theorem bind {first : Recorded α} {next : α → Recorded β} (firstAsks : Asks allowed first)
    (nextAsks : ∀ value, Asks allowed (next value)) : Asks allowed (first >>= next) := by
  intro before
  rcases firstAsks before with ⟨asked, firstCalls, asksFirst⟩
  rcases nextAsks (first.run before).run.1 (first.calls before) with ⟨more, nextCalls, asksNext⟩
  refine ⟨asked ++ more, ?_, ?_⟩
  · rw [← List.append_assoc, ← firstCalls]
    exact nextCalls
  · intro call member
    rcases List.mem_append.mp member with early | late
    · exact asksFirst call early
    · exact asksNext call late

theorem ask {answer : List FileCall → Except FileFault Unit} {call : FileCall}
    (permitted : allowed call) : Asks allowed (Recorded.ask answer call) :=
  fun _ => ⟨[call], rfl, by simpa using permitted⟩

theorem ask_bind {answer : List FileCall → Except FileFault Unit} {call : FileCall}
    {next : Except FileFault Unit → Recorded α} (permitted : allowed call)
    (nextAsks : ∀ reply, Asks allowed (next reply)) :
    Asks allowed (Recorded.ask answer call >>= next) :=
  (ask permitted).bind nextAsks

theorem mono {more : FileCall → Prop} {action : Recorded α} (asks : Asks allowed action)
    (inside : ∀ call, allowed call → more call) : Asks more action := by
  intro before
  rcases asks before with ⟨asked, calls, asksAll⟩
  exact ⟨asked, calls, fun call member => inside call (asksAll call member)⟩

end Asks

end Recorded

/-- A file system that keeps the record. -/
def FileAccess.recording (answer : List FileCall → Except FileFault Unit) :
    FileAccess Recorded where
  createDirectories path := Recorded.ask answer (.createDirectories path)
  write path content := Recorded.ask answer (.write path content)
  rename source target := Recorded.ask answer (.rename source target)
  remove path := Recorded.ask answer (.remove path)

/-! ## Files of actions -/

theorem joinPath_of_plain {directory name : String} (proper : directory ≠ "")
    (unended : directory.toList.getLast? ≠ some '/') (plain : '/' ∉ name.toList) :
    joinPath directory name = directory ++ "/" ++ name := by
  have relative : name.toList.head? ≠ some '/' := fun first => plain (List.mem_of_head? first)
  simp [joinPath, proper, unended, relative]

namespace OutputAction

/-- The names of the files that an action deals with. -/
def fileNames : OutputAction → List String
  | prepare => []
  | place name _ => [temporaryName name, name]
  | remove name => [name]

/-- Files with some names in a directory are all that is dealt with. -/
def Confined (root : String) (names : List String) (call : FileCall) : Prop :=
  ∀ file ∈ call.files, ∃ name ∈ names, file = joinPath root name

variable {answer : List FileCall → Except FileFault Unit} {root : String}

theorem perform_asks (action : OutputAction) :
    Recorded.Asks (Confined root action.fileNames)
      (action.perform (FileAccess.recording answer) root) := by
  cases action with
  | prepare =>
      apply Recorded.Asks.ask_bind
      · simp [Confined, FileCall.files]
      intro reply
      cases reply <;> exact .pure _
  | place name content =>
      apply Recorded.Asks.ask_bind
      · simp [Confined, FileCall.files, fileNames]
      intro written
      cases written with
      | error fault => exact .pure _
      | ok _ =>
          apply Recorded.Asks.ask_bind
          · simp [Confined, FileCall.files, fileNames]
          intro renamed
          cases renamed with
          | ok _ => exact .pure _
          | error fault =>
              apply Recorded.Asks.ask_bind
              · simp [Confined, FileCall.files, fileNames]
              exact fun _ => .pure _
  | remove name =>
      apply Recorded.Asks.ask_bind
      · simp [Confined, FileCall.files, fileNames]
      intro removed
      cases removed with
      | ok _ => exact .pure _
      | error fault => cases fault <;> exact .pure _

theorem Confined.mono {names more : List String} {call : FileCall}
    (confined : Confined root names call) (inside : names ⊆ more) : Confined root more call := by
  intro file dealtWith
  rcases confined file dealtWith with ⟨name, listed, isFile⟩
  exact ⟨name, inside listed, isFile⟩

theorem performAll_asks (actions : List OutputAction) :
    Recorded.Asks (Confined root (actions.flatMap fileNames))
      (performAll (FileAccess.recording answer) root actions) := by
  induction actions with
  | nil => exact .pure _
  | cons action rest induction =>
      apply Recorded.Asks.bind
      · apply (perform_asks action).mono
        exact fun _ confined => confined.mono (List.subset_append_left _ _)
      intro reply
      cases reply with
      | some failure => exact .pure _
      | none =>
          apply induction.mono
          exact fun _ confined => confined.mono (List.subset_append_right _ _)

end OutputAction

/-! ## Files of modules -/

namespace Model

variable {model : Model}

/-- The names of the files of a module, and those that they have while they are written. -/
def fileNames (model : Model) (id : ModuleId) : List String :=
  [Naming.sourceFile (model.path id), Naming.descriptorFile (model.path id)].flatMap fun name =>
    [OutputAction.temporaryName name, name]

theorem slash_mem_fileName {id : ModuleId} {name : String} (listed : name ∈ model.fileNames id) :
    '/' ∈ name.toList ↔ '/' ∈ (model.path id).toList := by
  have temporary (name : String) :
      '/' ∈ (OutputAction.temporaryName name).toList ↔ '/' ∈ name.toList := by
    simp [OutputAction.temporaryName]
  simp only [fileNames, List.flatMap_cons, List.flatMap_nil, List.append_nil, List.cons_append,
    List.nil_append, List.mem_cons, List.not_mem_nil, or_false] at listed
  rcases listed with rfl | rfl | rfl | rfl
  · rw [temporary, Naming.slash_mem_sourceFile]
  · exact Naming.slash_mem_sourceFile _
  · rw [temporary, Naming.slash_mem_descriptorFile]
  · exact Naming.slash_mem_descriptorFile _

section

variable (wellFormed : model.WellFormed) {header : String}

include wellFormed

/-- What is delivered for a module concerns its files only. -/
theorem delivery_fileNames {delivery : Delivery}
    (delivered : delivery ∈ (Build.ofModel model header).deliveries) (descriptors : Bool) :
    ∃ id ∈ model.moduleIds, ∀ action ∈ delivery.actions descriptors,
      action.fileNames ⊆ model.fileNames id := by
  rcases List.mem_append.mp delivered with discarded | written
  · rcases List.mem_map.mp discarded with ⟨entry, failed, rfl⟩
    have listed := List.mem_of_mem_filter failed
    rw [ofModel_outcomes wellFormed] at listed
    rcases List.mem_map.mp listed with ⟨module, isModule, rfl⟩
    have same := wellFormed.module_of_mem isModule
    refine ⟨module.id, List.mem_map_of_mem isModule, ?_⟩
    simp [Delivery.actions, OutputAction.fileNames, fileNames, path, same]
  · rcases List.mem_map.mp written with ⟨artifact, emitted, rfl⟩
    rcases artifact_names wellFormed emitted with ⟨survives, isPath, _, isSource⟩
    have isDescriptor :
        artifact.descriptorFile = Naming.descriptorFile (model.path artifact.module) :=
      congrArg Naming.descriptorFile isPath
    refine ⟨artifact.module, survives.known, ?_⟩
    cases descriptors <;>
      simp [Delivery.actions, OutputAction.fileNames, fileNames, isSource, isDescriptor]

theorem actions_fileNames {name : String} {descriptors : Bool}
    (listed : name ∈ ((Build.ofModel model header).actions descriptors).flatMap
      OutputAction.fileNames) :
    ∃ id ∈ model.moduleIds, name ∈ model.fileNames id := by
  rcases List.mem_flatMap.mp listed with ⟨action, performed, isName⟩
  rcases List.mem_flatMap.mp performed with ⟨delivery, delivered, isAction⟩
  rcases delivery_fileNames wellFormed delivered descriptors with ⟨id, known, inside⟩
  exact ⟨id, known, inside action isAction isName⟩

/-- A name with a slash is no identifier, and so reported. -/
theorem slash_reported {id : ModuleId} (known : id ∈ model.moduleIds)
    (slash : '/' ∈ (model.module id).name.toList) : model.NameInvalid model.faults id := by
  rcases wellFormed.isIdentifier_or_invalid known with valid | invalid
  · exact absurd (Naming.isLetterOrDigit_of_mem valid slash) (by decide)
  · exact invalid

end

end Model

/-- Every file that is written, renamed or removed is one of a module, and lies in the
directory of the output unless a module above it, or itself, has a slash in its name.
Such a module is reported. -/
theorem output_files_placed (declarations : List ModuleDeclaration) (header : String)
    (descriptors : Bool) (root : String) (answer : List FileCall → Except FileFault Unit) :
    let model := Model.ofDeclarations declarations
    let build := Build.ofDeclarations declarations header
    let output := OutputAction.performAll (FileAccess.recording answer) root
      (build.actions descriptors)
    ∀ call ∈ output.calls [], ∀ file ∈ call.files,
      ∃ id ∈ model.moduleIds, ∃ name ∈ model.fileNames id, file = joinPath root name ∧
        ('/' ∈ name.toList ↔
          ∃ above, model.isWithin id above = true ∧ '/' ∈ (model.module above).name.toList) ∧
        ∀ above, model.isWithin id above = true → '/' ∈ (model.module above).name.toList →
          model.NameInvalid build.diagnostics above := by
  have wellFormed := Model.ofDeclarations_wellFormed declarations
  unfold Build.ofDeclarations
  generalize Model.ofDeclarations declarations = model at wellFormed
  intro model build output call called file dealtWith
  rcases OutputAction.performAll_asks (build.actions descriptors) [] with ⟨asked, calls, confined⟩
  rw [calls, List.nil_append] at called
  rcases confined call called file dealtWith with ⟨name, listed, isFile⟩
  rcases Model.actions_fileNames wellFormed listed with ⟨id, known, isName⟩
  refine ⟨id, known, name, isName, isFile, ?_, ?_⟩
  · rw [Model.slash_mem_fileName isName, wellFormed.slash_mem_path known]
  · intro above within slash
    have aboveKnown := wellFormed.isWithin_known known within
    exact Model.fault_diagnosed (Model.slash_reported wellFormed aboveKnown slash) header

set_option maxRecDepth 100000 in
/-- The source of the root takes its place in the directory. -/
theorem sampleApplication_files_placed :
    let output := OutputAction.performAll (FileAccess.recording fun _ => .ok ()) "out"
      ((Build.ofDeclarations sampleApplication "").actions true)
    FileCall.rename "out/.app.rs.tmp" "out/app.rs" ∈ output.calls [] ∧
      ∃ name, "out/app.rs" = joinPath "out" name ∧ '/' ∉ name.toList := by
  intro output
  have called : FileCall.rename "out/.app.rs.tmp" "out/app.rs" ∈ output.calls [] := by
    decide +kernel
  apply And.intro called
  rcases output_files_placed sampleApplication "" true "out" (fun _ => .ok ()) _ called
    "out/app.rs" (by decide) with ⟨id, known, name, _, isFile, slash, _⟩
  refine ⟨name, isFile, ?_⟩
  have plain : ∀ id ∈ (Model.ofDeclarations sampleApplication).moduleIds,
      ¬ ∃ above, (Model.ofDeclarations sampleApplication).isWithin id above = true ∧
        '/' ∈ ((Model.ofDeclarations sampleApplication).module above).name.toList := by
    simp only [← Model.WellFormed.mem_lineage]
    decide +kernel
  rw [slash]
  exact plain id known

/-- A root with a slash in its name. -/
def sampleSlashedRoot : List ModuleDeclaration :=
  [{ name := "sub/p" }]

set_option maxRecDepth 100000 in
/-- A file in another directory is removed for it. -/
theorem sampleSlashedRoot_removed_elsewhere :
    let output := OutputAction.performAll (FileAccess.recording fun _ => .ok ()) "out"
      ((Build.ofDeclarations sampleSlashedRoot "// x").actions true)
    ¬ ∀ call ∈ output.calls [], ∀ file ∈ call.files,
      ∃ name, file = joinPath "out" name ∧ '/' ∉ name.toList := by
  intro output placed
  have removed : FileCall.remove "out/sub/p.rs" ∈ output.calls [] := by decide +kernel
  rcases placed _ removed "out/sub/p.rs" (by decide) with ⟨name, isFile, plain⟩
  rw [joinPath_of_plain (by decide) (by decide) plain] at isFile
  have spelled : "out/sub/p.rs" = "out" ++ "/" ++ "sub/p.rs" := rfl
  rw [spelled, String.append_right_inj] at isFile
  exact plain (isFile ▸ by decide)

end StaticInjection
