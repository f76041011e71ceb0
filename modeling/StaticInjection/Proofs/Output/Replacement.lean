import Mathlib.Data.List.Nodup
import Mathlib.Data.List.Pairwise
import StaticInjection.Proofs.Build.Survival
import StaticInjection.Proofs.Files.Tree
import StaticInjection.Proofs.Output.Directory

/-! # What replaces earlier output

Where every operation succeeds, a build leaves in its directory the files of the
modules that it emits, nothing of those that it does not, and everything else as it
was. All removals come before all files that are written, so that a file stays when
one module gives up its name and another one takes it. -/

namespace StaticInjection

namespace OutputAction

section Effect

variable {location : Type} [DecidableEq location] (locate : String → location)

/-- What is in the files after an action that succeeds. -/
def applied (files : location → Option String) : OutputAction → location → Option String
  | prepare => files
  | place name content =>
    Function.update (Function.update files (locate (temporaryName name)) none) (locate name)
      (some content)
  | remove name => Function.update files (locate name) none

end Effect

/-! ## Steps and runs -/

theorem run_bind_of {state : Type} {first : StateM state α} {next : α → StateM state β}
    {before middle : state} {value : α} (reply : first.run before = (value, middle)) :
    (first >>= next).run before = (next value).run middle := by
  rw [StateT.run_bind, reply]
  rfl

section Run

variable {state location : Type} [DecidableEq location] {access : FileAccess (StateM state)}
  {valid : state → Prop} {paths : String → Prop} {place : String → location}
  {content : state → location → Option String}
  (lawful : access.Lawful valid paths place content) {root : String} {before after : state}

include lawful

theorem perform_content (isValid : valid before) {action : OutputAction}
    (known : ∀ name ∈ action.fileNames, paths (joinPath root name))
    (performed : (action.perform access root).run before = (none, after)) :
    valid after ∧ content after =
      action.applied (fun name => place (joinPath root name)) (content before) := by
  cases action with
  | prepare =>
      cases reply : (access.createDirectories root).run before with
      | mk answer middle =>
          simp only [perform, run_bind_of reply] at performed
          cases answer with
          | error fault => cases performed
          | ok _ =>
              cases performed
              exact lawful.created isValid reply
  | place name text =>
      have temporary : paths (joinPath root (temporaryName name)) :=
        known _ List.mem_cons_self
      have target : paths (joinPath root name) :=
        known _ (List.mem_cons_of_mem _ List.mem_cons_self)
      cases reply : (access.write (joinPath root (temporaryName name)) text).run before with
      | mk answer middle =>
          simp only [perform, run_bind_of reply] at performed
          cases answer with
          | error fault => cases performed
          | ok _ =>
              obtain ⟨middleValid, written⟩ := lawful.written isValid temporary reply
              cases moved : (access.rename (joinPath root (temporaryName name))
                  (joinPath root name)).run middle with
              | mk answer last =>
                  simp only [run_bind_of moved] at performed
                  cases answer with
                  | error fault => cases performed
                  | ok _ =>
                      cases performed
                      have renamed := lawful.renamed middleValid temporary target moved
                      rw [written, Function.update_idem, Function.update_self] at renamed
                      exact renamed
  | remove name =>
      have target : paths (joinPath root name) := known name List.mem_cons_self
      cases reply : (access.remove (joinPath root name)).run before with
      | mk answer middle =>
          simp only [perform, run_bind_of reply] at performed
          cases answer with
          | ok _ =>
              cases performed
              exact lawful.removed isValid target reply
          | error fault =>
              cases fault with
              | notFound =>
                  cases performed
                  obtain ⟨afterValid, same, nothing⟩ := lawful.missing isValid target reply
                  refine ⟨afterValid, ?_⟩
                  rw [same, applied, ← nothing, Function.update_eq_self]
              | _ => cases performed

theorem performAll_content (isValid : valid before) {actions : List OutputAction}
    (known : ∀ action ∈ actions, ∀ name ∈ action.fileNames, paths (joinPath root name))
    (performed : (performAll access root actions).run before = (none, after)) :
    content after = actions.foldl (fun files action =>
      action.applied (fun name => place (joinPath root name)) files) (content before) := by
  induction actions generalizing before with
  | nil =>
      cases performed
      rfl
  | cons action rest induction =>
      obtain ⟨first, others⟩ := List.forall_mem_cons.mp known
      cases reply : (action.perform access root).run before with
      | mk failure middle =>
          simp only [performAll, run_bind_of reply] at performed
          cases failure with
          | some failure => cases performed
          | none =>
              obtain ⟨middleValid, step⟩ := perform_content lawful isValid first reply
              rw [List.foldl_cons, ← step]
              exact induction middleValid others performed

end Run

/-! ## Removals and files -/

section Files

variable {location : Type} [DecidableEq location] {locate : String → location}
  {files : location → Option String}

/-- Removals empty the places that the names lead to, and no other ones. -/
theorem removals_content (names : List String) (spot : location) :
    (names.map remove).foldl (fun files action => action.applied locate files) files spot =
      if ∃ name ∈ names, locate name = spot then none else files spot := by
  induction names generalizing files with
  | nil => simp
  | cons name rest induction =>
      rw [List.map_cons, List.foldl_cons, induction]
      by_cases later : ∃ other ∈ rest, locate other = spot
      · have listed : ∃ other ∈ name :: rest, locate other = spot := by
          obtain ⟨other, member, same⟩ := later
          exact ⟨other, List.mem_cons_of_mem _ member, same⟩
        rw [if_pos later, if_pos listed]
      · by_cases here : locate name = spot
        · simp [applied, later, here]
        · simp [applied, later, here, Function.update_of_ne (Ne.symm here)]

/-- Where no file is written, nothing changes, unless a file was there under a name that
another one has while it is written. -/
theorem placements_elsewhere {written : List (String × String)} {spot : location}
    (elsewhere : ∀ file ∈ written, locate file.1 ≠ spot)
    (clear : ∀ file ∈ written, locate (temporaryName file.1) = spot → files spot = none) :
    (written.map fun file => place file.1 file.2).foldl
      (fun files action => action.applied locate files) files spot = files spot := by
  induction written generalizing files with
  | nil => rfl
  | cons file rest induction =>
      obtain ⟨first, others⟩ := List.forall_mem_cons.mp elsewhere
      obtain ⟨firstClear, othersClear⟩ := List.forall_mem_cons.mp clear
      have step : (place file.1 file.2).applied locate files spot = files spot := by
        rw [applied, Function.update_of_ne (Ne.symm first)]
        by_cases temporary : locate (temporaryName file.1) = spot
        · rw [← temporary, Function.update_self, temporary, firstClear temporary]
        · rw [Function.update_of_ne (Ne.symm temporary)]
      rw [List.map_cons, List.foldl_cons, induction others, step]
      rw [step]
      exact othersClear

/-- Files with places of their own are there in the end. -/
theorem placements_content {written : List (String × String)}
    (apart : (written.map fun file => locate file.1).Nodup)
    (temporaries : ∀ left ∈ written, ∀ right ∈ written,
      locate (temporaryName left.1) ≠ locate right.1)
    {file : String × String} (listed : file ∈ written) :
    (written.map fun file => place file.1 file.2).foldl
      (fun files action => action.applied locate files) files (locate file.1) =
        some file.2 := by
  induction written generalizing files with
  | nil => cases listed
  | cons head rest induction =>
      obtain ⟨fresh, restApart⟩ := List.nodup_cons.mp apart
      rw [List.map_cons, List.foldl_cons]
      rcases List.mem_cons.mp listed with rfl | later
      · rw [placements_elsewhere, applied, Function.update_self]
        · exact fun other member same => fresh (List.mem_map.mpr ⟨other, member, same⟩)
        · exact fun other member same =>
            absurd same (temporaries other (List.mem_cons_of_mem _ member) file listed)
      · exact induction restApart (fun left leftListed right rightListed =>
          temporaries left (List.mem_cons_of_mem _ leftListed) right
            (List.mem_cons_of_mem _ rightListed)) later

end Files

end OutputAction

/-! ## Files of a build -/

namespace Build

/-- The names of the files of the modules that are not emitted. -/
def stale (build : Build) : List String :=
  (build.outcomes.filter (·.outcome != .emitted)).flatMap fun entry =>
    [Naming.sourceFile entry.path, Naming.descriptorFile entry.path]

/-- The files of the modules that are emitted, with their contents. -/
def written (build : Build) (descriptors : Bool) : List (String × String) :=
  build.artifacts.flatMap fun artifact =>
    (artifact.sourceFile, artifact.source) ::
      if descriptors then [(artifact.descriptorFile, artifact.descriptor.text)] else []

variable {build : Build} {descriptors : Bool}

/-- All removals, then all files, as far as there is an effect. -/
theorem actions_content {location : Type} [DecidableEq location] (locate : String → location)
    (files : location → Option String) :
    (build.actions descriptors).foldl (fun files action => action.applied locate files) files =
      ((build.written descriptors).map fun file => OutputAction.place file.1 file.2).foldl
        (fun files action => action.applied locate files)
        ((build.stale.map OutputAction.remove).foldl
          (fun files action => action.applied locate files) files) := by
  have removals : (build.outcomes.filter (·.outcome != .emitted)).flatMap
        (fun entry => Delivery.actions descriptors (.discard entry.path)) =
      build.stale.map .remove := by
    rw [stale, List.map_flatMap]
    rfl
  have placements (files : location → Option String) (artifacts : List Artifact) :
      (artifacts.flatMap fun artifact => Delivery.actions descriptors (.write artifact)).foldl
          (fun files action => action.applied locate files) files =
        ((artifacts.flatMap fun artifact => (artifact.sourceFile, artifact.source) ::
            if descriptors then [(artifact.descriptorFile, artifact.descriptor.text)] else []).map
              fun file => OutputAction.place file.1 file.2).foldl
          (fun files action => action.applied locate files) files := by
    induction artifacts generalizing files with
    | nil => rfl
    | cons artifact rest induction =>
        rw [List.flatMap_cons, List.flatMap_cons, List.foldl_append, List.map_append,
          List.foldl_append, induction]
        cases descriptors <;> rfl
  rw [actions, deliveries, List.flatMap_append, List.flatMap_map, List.flatMap_map, removals,
    List.foldl_append]
  exact placements _ _

theorem written_nodup (distinct : (build.artifacts.map (·.sourceFile)).Nodup) :
    ((build.written descriptors).map (·.1)).Nodup := by
  have names (artifact : Artifact) : (((artifact.sourceFile, artifact.source) ::
        if descriptors then [(artifact.descriptorFile, artifact.descriptor.text)] else []).map
          (·.1)) =
      artifact.sourceFile :: if descriptors then [artifact.descriptorFile] else [] := by
    cases descriptors <;> rfl
  rw [written, List.map_flatMap, List.nodup_flatMap]
  simp only [names]
  constructor
  · intro artifact _
    cases descriptors <;> simp [Artifact.sourceFile, Artifact.descriptorFile,
      Naming.sourceFile_ne_descriptorFile]
  · refine (List.pairwise_map.mp distinct).imp fun {left right} different => ?_
    have descriptorsDiffer : left.descriptorFile ≠ right.descriptorFile :=
      fun same => different (Naming.descriptorFile_eq_iff.mp same)
    have crossed (left right : Artifact) : left.sourceFile ≠ right.descriptorFile :=
      Naming.sourceFile_ne_descriptorFile _ _
    cases descriptors <;>
      simp [Function.onFun, Ne.symm different, Ne.symm descriptorsDiffer, crossed,
        Ne.symm (crossed _ _)]

end Build

/-- Where every operation succeeds, a file holds in the end what the emitted module that
owns its name has for it. Otherwise it is gone when it belongs to a module that is not
emitted, and as it was when it does not. No file is left under the name that it had
while it was written.

The emitted modules have different file names. The file system takes different names for
different files, and the names of temporary files for others than those of modules; no
temporary file is there before. -/
theorem output_replaced {state location : Type} [DecidableEq location]
    {access : FileAccess (StateM state)} {valid : state → Prop} {paths : String → Prop}
    {place : String → location} {content : state → location → Option String}
    (lawful : access.Lawful valid paths place content)
    (declarations : List ModuleDeclaration) (header : String) (descriptors : Bool)
    (root : String) {before after : state} :
    let build := Build.ofDeclarations declarations header
    let locate := fun name => place (joinPath root name)
    valid before →
    (∀ action ∈ build.actions descriptors, ∀ name ∈ action.fileNames,
      paths (joinPath root name)) →
    (∀ left ∈ build.written descriptors, ∀ right ∈ build.written descriptors,
      locate left.1 = locate right.1 → left.1 = right.1) →
    (∀ name, ∀ file ∈ build.written descriptors,
      locate (OutputAction.temporaryName name) ≠ locate file.1) →
    (build.artifacts.map (·.sourceFile)).Nodup →
    (∀ name, content before (locate (OutputAction.temporaryName name)) = none) →
    (OutputAction.performAll access root (build.actions descriptors)).run before =
      (none, after) →
    (∀ file ∈ build.written descriptors, content after (locate file.1) = some file.2) ∧
      (∀ spot, (∀ file ∈ build.written descriptors, locate file.1 ≠ spot) →
        content after spot =
          if ∃ name ∈ build.stale, locate name = spot then none else content before spot) ∧
      ∀ name, content after (locate (OutputAction.temporaryName name)) = none := by
  intro build locate isValid known told temporaries distinct clear performed
  have run : content after = _ := OutputAction.performAll_content lawful isValid known performed
  rw [Build.actions_content] at run
  have apart : ((build.written descriptors).map fun file => locate file.1).Nodup := by
    have names : ((build.written descriptors).map (·.1)).Nodup := Build.written_nodup distinct
    have places := names.map_on (f := locate) (by simpa using told)
    rwa [List.map_map] at places
  have elsewhere (spot : location)
      (unwritten : ∀ file ∈ build.written descriptors, locate file.1 ≠ spot) :
      content after spot =
        if ∃ name ∈ build.stale, locate name = spot then none else content before spot := by
    rw [run, OutputAction.placements_elsewhere unwritten, OutputAction.removals_content]
    intro file _ temporary
    rw [OutputAction.removals_content, ← temporary, clear file.1, ite_self]
  refine ⟨?_, elsewhere, ?_⟩
  · intro file listed
    rw [run]
    exact OutputAction.placements_content apart
      (fun left _ right rightListed => temporaries left.1 right rightListed) listed
  · intro name
    rw [elsewhere _ (fun file listed => (temporaries name file listed).symm), clear name,
      ite_self]

/-- Two roots whose files have one name. The second one is refused. -/
def sampleRivals : List ModuleDeclaration :=
  [{ name := "myDb" }, { name := "my_db" }]

def sampleOutput : FileTree where
  entries := [(["out"], .directory), (["out", "my_db.rs"], .file "old"),
    (["out", "my_db.module.json"], .file "old"), (["out", "notes.txt"], .file "kept")]

/-- A temporary file lies under a name with the ending of temporary files. -/
theorem temporary_place (name : String) : ∃ above stem,
    FileTree.placeOf (joinPath "out" (OutputAction.temporaryName name)) =
      above ++ [stem ++ ".tmp"] := by
  have path : joinPath "out" (OutputAction.temporaryName name) = ("out/." ++ name) ++ ".tmp" := by
    have joined : joinPath "out" (OutputAction.temporaryName name) =
        "out" ++ "/" ++ ("." ++ name ++ ".tmp") := by
      simp [joinPath, OutputAction.temporaryName]
    rw [joined, ← String.append_assoc, ← String.append_assoc,
      show "out" ++ "/" ++ "." = "out/." by decide]
  rw [path]
  exact FileTree.placeOf_ending _ _ (by decide) (by decide)

theorem temporary_place_ne (name : String) {place : List String}
    (other : ∀ last ∈ place.getLast?, last.toList.getLast? ≠ some 'p') :
    FileTree.placeOf (joinPath "out" (OutputAction.temporaryName name)) ≠ place := by
  rintro rfl
  obtain ⟨above, stem, located⟩ := temporary_place name
  refine other (stem ++ ".tmp") (by simp [located]) ?_
  simp

set_option maxRecDepth 100000 in
/-- The file of the first root is replaced, though it is removed for the second one, and
the descriptor is gone. -/
theorem sampleRivals_replaced :
    let build := Build.ofDeclarations sampleRivals ""
    let run := (OutputAction.performAll FileTree.access "out" (build.actions false)).run
      sampleOutput
    run.1 = none ∧
      (∃ file ∈ build.written false, file.1 = "my_db.rs" ∧
        run.2.content ["out", "my_db.rs"] = some file.2) ∧
      run.2.content ["out", "my_db.module.json"] = none ∧
      run.2.content ["out", "notes.txt"] = some "kept" := by
  intro build run
  have performed : run = (none, run.2) := by
    refine Prod.ext ?_ rfl
    decide +kernel
  have lastNames : ∀ file ∈ build.written false, ∀ name ∈
      (FileTree.placeOf (joinPath "out" file.1)).getLast?, name.toList.getLast? ≠ some 'p' := by
    decide +kernel
  have entries : ∀ entry ∈ sampleOutput.entries, ∀ name ∈ entry.1.getLast?,
      name.toList.getLast? ≠ some 'p' := by
    decide +kernel
  have clear (name : String) : sampleOutput.content
      (FileTree.placeOf (joinPath "out" (OutputAction.temporaryName name))) = none := by
    have other := @temporary_place_ne name
    generalize FileTree.placeOf (joinPath "out" (OutputAction.temporaryName name)) = spot
      at other ⊢
    cases found : sampleOutput.get? spot with
    | none => simp [FileTree.content, found]
    | some entry =>
        have proper : spot ≠ [] := other (by simp)
        exact absurd rfl (other (entries _ (FileTree.mem_of_get? proper found)))
  obtain ⟨files, others, _⟩ := output_replaced FileTree.access_lawful sampleRivals "" false "out"
    (FileTree.rooted_of_entries (by decide +kernel)) (by decide +kernel) (by decide +kernel)
    (fun name file listed => temporary_place_ne name (lastNames file listed)) (by decide +kernel) clear
    performed
  clear_value run
  obtain ⟨text, listed⟩ : ∃ text, ("my_db.rs", text) ∈ build.written false := by
    have named : "my_db.rs" ∈ (build.written false).map (·.1) := by decide +kernel
    simpa using named
  have places : ∀ file ∈ build.written false,
      FileTree.placeOf (joinPath "out" file.1) = ["out", "my_db.rs"] := by
    decide +kernel
  have unwritten (place : List String) (other : place ≠ ["out", "my_db.rs"]) :
      ∀ file ∈ build.written false, FileTree.placeOf (joinPath "out" file.1) ≠ place :=
    fun file member same => other (same.symm.trans (places file member))
  refine ⟨congrArg Prod.fst performed, ⟨_, listed, rfl, ?_⟩, ?_, ?_⟩
  · have replaced := files _ listed
    have spot := places _ listed
    dsimp only at replaced spot
    rwa [spot] at replaced
  · rw [others _ (unwritten _ (by decide))]
    exact if_pos (by decide +kernel)
  · rw [others _ (unwritten _ (by decide))]
    exact if_neg (by decide +kernel)

end StaticInjection
