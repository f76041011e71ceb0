import StaticInjection.Proofs.Emission.Shape

/-! # Names of inputs

A module takes the inputs that it declares, the beans that it imports, and the cells
that come from above. The fields for what is handed in have different names. Nothing
keeps a declared input from having the name of one of them, and two fields share a
name in no other way. -/

namespace StaticInjection

namespace Model

open Code

variable {model : Model}

/-- The names of the fields through which imports and cells are handed to a module. -/
def handedNames (model : Model) (plan : ModulePlan) : List String :=
  plan.imports.map (fun bean => "import__" ++ model.beanKey (model.bean bean)) ++
    plan.deferredIn.map fun socket => "deferred__" ++ model.socketKey (model.socket socket)

theorem not_mem_handedNames {plan : ModulePlan} {name : String} :
    name ∉ model.handedNames plan ↔
      (∀ bean ∈ plan.imports, name ≠ "import__" ++ model.beanKey (model.bean bean)) ∧
        ∀ cell ∈ plan.deferredIn, name ≠ "deferred__" ++ model.socketKey (model.socket cell) := by
  simp [handedNames, eq_comm]

theorem inputNames_codeFor (plan : ModulePlan) (header : String) :
    (model.codeFor plan header).inputs.map (·.name) =
      ((model.module plan.module).sockets.map fun socket => (model.socket socket).name) ++
        model.handedNames plan := by
  rw [inputs_codeFor, List.append_assoc, List.map_append, List.map_append]
  simp [handedNames, Function.comp_def, declaredField, importField, cellField, importLocal,
    cellLocal]

theorem import_name_ne_cell_name (bean cell : String) :
    "import__" ++ bean ≠ "deferred__" ++ cell := by
  intro same
  have initials := congrArg (·.toList.head?) same
  simp at initials

section

variable (wellFormed : model.WellFormed) {id : ModuleId} (survives : model.Survives id)
  {plan : ModulePlan} (planned : model.Planned id plan)

include wellFormed survives planned

theorem importNames_nodup :
    (plan.imports.map fun bean => "import__" ++ model.beanKey (model.bean bean)).Nodup := by
  refine List.Nodup.map_on ?_ (imports_nodup wellFormed planned)
  intro left leftListed right rightListed same
  have keys := (String.append_right_inj "import__").mp same
  exact List.inj_on_of_nodup_map (importLocals_nodup wellFormed survives planned) leftListed
    rightListed (congrArg (Local.mk .imported) keys)

theorem cellNames_nodup :
    (plan.deferredIn.map fun socket =>
      "deferred__" ++ model.socketKey (model.socket socket)).Nodup := by
  have cells : (plan.deferredIn.map model.cellLocal).Nodup := by
    have all := cellLocals_nodup wellFormed survives planned
    rw [List.map_append] at all
    exact (List.nodup_append.mp all).1
  refine List.Nodup.map_on ?_ (.of_map _ cells)
  intro left leftListed right rightListed same
  have keys := (String.append_right_inj "deferred__").mp same
  exact List.inj_on_of_nodup_map cells leftListed rightListed (congrArg (Local.mk .cell) keys)

theorem handedNames_nodup : (model.handedNames plan).Nodup := by
  refine List.nodup_append.mpr ⟨importNames_nodup wellFormed survives planned,
    cellNames_nodup wellFormed survives planned, ?_⟩
  intro left imported right handedIn
  obtain ⟨bean, _, rfl⟩ := List.mem_map.mp imported
  obtain ⟨socket, _, rfl⟩ := List.mem_map.mp handedIn
  exact import_name_ne_cell_name _ _

/-- Fields of a survivor's inputs share a name only where a declared input has the name
of an import or of a cell. -/
theorem inputNames_nodup_iff (header : String) :
    ((model.codeFor plan header).inputs.map (·.name)).Nodup ↔
      ∀ socket ∈ (model.module id).sockets,
        (model.socket socket).name ∉ model.handedNames plan := by
  have declared := (survives.sound wellFormed).inputNames
  have handed := handedNames_nodup wellFormed survives planned
  rw [inputNames_codeFor, planned.module, List.nodup_append]
  constructor
  · rintro ⟨_, _, apart⟩ socket listed inHanded
    exact apart _ (List.mem_map_of_mem listed) _ inHanded rfl
  · intro apart
    refine ⟨declared, handed, ?_⟩
    rintro _ named name inHanded rfl
    obtain ⟨socket, listed, rfl⟩ := List.mem_map.mp named
    exact apart socket listed inHanded

end

end Model

/-- The inputs of an emitted module have different names, unless it declares one with
the name of an import or of a cell that is handed to it. -/
theorem emitted_input_names (declarations : List ModuleDeclaration) (header : String)
    (artifact : Artifact)
    (emitted : artifact ∈ (Build.ofDeclarations declarations header).artifacts) :
    let model := Model.ofDeclarations declarations
    ∃ plan, model.finalPlan.module? artifact.module = some plan ∧
      let code := model.codeFor plan header
      artifact.source = code.text ∧
        ((code.inputs.map (·.name)).Nodup ↔
          ∀ socket ∈ (model.module artifact.module).sockets,
            (∀ bean ∈ plan.imports,
              (model.socket socket).name ≠ "import__" ++ model.beanKey (model.bean bean)) ∧
            ∀ cell ∈ plan.deferredIn,
              (model.socket socket).name ≠
                "deferred__" ++ model.socketKey (model.socket cell)) := by
  intro model
  have wellFormed := Model.ofDeclarations_wellFormed declarations
  rcases Model.artifact_planned wellFormed emitted with ⟨plan, survives, planned, source⟩
  refine ⟨plan, planned.found, source, ?_⟩
  rw [Model.inputNames_nodup_iff wellFormed survives planned]
  exact forall₂_congr fun socket _ => Model.not_mem_handedNames

set_option maxRecDepth 100000 in
/-- The module with an input, an import and a cell. -/
theorem sampleApplication_input_names :
    let model := Model.ofDeclarations sampleApplication
    ∃ plan, model.finalPlan.module? ⟨1⟩ = some plan ∧
      ((model.codeFor plan "").inputs.map (·.name)).Nodup := by
  intro model
  have known : (⟨1⟩ : ModuleId) ∈ model.moduleIds := by decide +kernel
  obtain ⟨artifact, emitted, isModule⟩ := sampleApplication_emitted known
  obtain ⟨plan, found, _, distinct⟩ :=
    emitted_input_names sampleApplication "" artifact emitted
  rw [isModule] at found distinct
  have apart : ∀ plan ∈ model.finalPlan.module? ⟨1⟩, ∀ socket ∈ (model.module ⟨1⟩).sockets,
      (∀ bean ∈ plan.imports,
        (model.socket socket).name ≠ "import__" ++ model.beanKey (model.bean bean)) ∧
      ∀ cell ∈ plan.deferredIn,
        (model.socket socket).name ≠ "deferred__" ++ model.socketKey (model.socket cell) := by
    decide +kernel
  exact ⟨plan, found, distinct.mpr (apart plan found)⟩

/-- A module with an input of the name that the import of its parent's bean gets. -/
def sampleShadowedImport : List ModuleDeclaration :=
  [{ name := "app"
     beans := [{ name := "clock", declaredType := .ofText "Clock", visibility := .isPublic }]
     modules := [
      { name := "db"
        sockets := [{ name := "import__app__clock", requiredType := .ofText "Limit"
                      multiplicity := .optional }]
        beans := [
          { name := "pool", declaredType := .ofText "Pool"
            sockets := [{ name := "clock", requiredType := .ofText "Clock" }] }] }] }]

set_option maxRecDepth 100000 in
/-- Both fields are generated, under one name. -/
theorem sampleShadowedImport_input_names_clash :
    let model := Model.ofDeclarations sampleShadowedImport
    ¬ ∀ artifact ∈ (Build.ofDeclarations sampleShadowedImport "// x").artifacts,
      ∃ plan, model.finalPlan.module? artifact.module = some plan ∧
        let code := model.codeFor plan "// x"
        artifact.source = code.text ∧ (code.inputs.map (·.name)).Nodup := by
  intro model distinct
  have clash : ∀ plan ∈ model.finalPlan.module? ⟨1⟩,
      ¬ ((model.codeFor plan "// x").inputs.map (·.name)).Nodup := by decide +kernel
  have listed : (⟨1⟩ : ModuleId) ∈
      (Build.ofDeclarations sampleShadowedImport "// x").artifacts.map (·.module) := by
    decide +kernel
  obtain ⟨artifact, emitted, isModule⟩ := List.mem_map.mp listed
  obtain ⟨plan, found, _, nodup⟩ := distinct artifact emitted
  exact clash plan (isModule ▸ found) nodup

end StaticInjection
