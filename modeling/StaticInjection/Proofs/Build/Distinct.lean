import StaticInjection.Proofs.Build.Names
import StaticInjection.Proofs.Build.Outcome

/-! # Which artifacts can be told apart

The path of a module gives the names of its type and of its file. Two artifacts
with different paths share neither. They share their path only when the name of a
module above one of them is refused: a module does not fail because the one around
it does. -/

namespace StaticInjection

namespace Model

/-- The name of a module is reported: it is no identifier, or an earlier sibling has it. -/
def NameRefused (model : Model) (diagnostics : List Diagnostic) (id : ModuleId) : Prop :=
  ∃ fault, (fault = DeclarationFault.moduleName (model.module id).name ∨
      fault = DeclarationFault.repeatedModule (model.module id).name) ∧
    Diagnostic.invalid id (model.module id).location fault.message ∈ diagnostics

theorem NameRefused.mono {model : Model} {diagnostics more : List Diagnostic} {id : ModuleId}
    (refused : model.NameRefused diagnostics id)
    (inside : ∀ diagnostic ∈ diagnostics, diagnostic ∈ more) : model.NameRefused more id := by
  obtain ⟨fault, isName, reported⟩ := refused
  exact ⟨fault, isName, inside _ reported⟩

/-- What is wrong with declarations is among what a build reports. -/
theorem fault_diagnosed {model : Model} {diagnostic : Diagnostic}
    (fault : diagnostic ∈ model.faults) (header : String) :
    diagnostic ∈ (Build.ofModel model header).diagnostics := by
  rw [ofModel_diagnostics, Diagnostic.mem_sort]
  exact List.mem_append_left _ (fault_reported fault)

namespace WellFormed

variable {model : Model} (wellFormed : model.WellFormed)

include wellFormed

/-! ## Paths -/

theorem isIdentifier_of_not_refused {id : ModuleId} (known : id ∈ model.moduleIds)
    (accepted : ¬ model.NameRefused model.faults id) :
    Naming.isIdentifier (model.module id).name = true := by
  rcases wellFormed.isIdentifier_or_invalid known with valid | invalid
  · exact valid
  · exact absurd ⟨_, .inl rfl, invalid⟩ accepted

theorem siblings_apart {left right : ModuleId} (leftKnown : left ∈ model.moduleIds)
    (rightKnown : right ∈ model.moduleIds) (different : left ≠ right)
    (siblings : model.parent left = model.parent right)
    (leftAccepted : ¬ model.NameRefused model.faults left)
    (rightAccepted : ¬ model.NameRefused model.faults right) :
    (model.module left).name ≠ (model.module right).name := by
  intro same
  rcases wellFormed.repeatedSibling_reported leftKnown rightKnown different siblings same with
    reported | reported
  · exact leftAccepted ⟨_, .inr rfl, reported⟩
  · exact rightAccepted ⟨_, .inr rfl, reported⟩

/-- Paths lead to one module as long as no name along them is refused. -/
theorem eq_of_accepted_path {left right : ModuleId} (leftKnown : left ∈ model.moduleIds)
    (rightKnown : right ∈ model.moduleIds)
    (leftAccepted : ∀ id, model.isWithin left id = true → ¬ model.NameRefused model.faults id)
    (rightAccepted : ∀ id, model.isWithin right id = true → ¬ model.NameRefused model.faults id)
    (same : model.path left = model.path right) : left = right := by
  apply wellFormed.eq_of_named_path (fun id => ¬ model.NameRefused model.faults id) _ _
    leftKnown rightKnown leftAccepted rightAccepted same
  · exact fun id known => wellFormed.isIdentifier_of_not_refused known
  · intro first second firstKnown secondKnown siblings firstAccepted secondAccepted names
    by_contra different
    exact wellFormed.siblings_apart firstKnown secondKnown different siblings firstAccepted
      secondAccepted names

end WellFormed

/-! ## Survivors -/

namespace Survives

variable {model : Model} (wellFormed : model.WellFormed)

include wellFormed

theorem name_accepted {id : ModuleId} (survives : model.Survives id) :
    ¬ model.NameRefused model.faults id := by
  rintro ⟨fault, _, reported⟩
  exact survives.no_fault wellFormed reported (Diagnostic.invalid_blames _ _ _)

/-- Different survivors share a path only below a module whose name is refused. -/
theorem exists_refused_above {left right : ModuleId} (leftSurvives : model.Survives left)
    (rightSurvives : model.Survives right) (different : left ≠ right)
    (same : model.path left = model.path right) :
    ∃ id, model.NameRefused model.faults id ∧
      ((id ≠ left ∧ model.isWithin left id = true) ∨
        (id ≠ right ∧ model.isWithin right id = true)) := by
  by_contra none
  have accepted : ∀ survivor, model.Survives survivor →
      (∀ id, id ≠ survivor → model.isWithin survivor id = true →
        ¬ model.NameRefused model.faults id) →
      ∀ id, model.isWithin survivor id = true → ¬ model.NameRefused model.faults id := by
    intro survivor survives above id within refused
    by_cases own : id = survivor
    · exact survives.name_accepted wellFormed (own ▸ refused)
    · exact above id own within refused
  refine different (wellFormed.eq_of_accepted_path leftSurvives.known rightSurvives.known
    (accepted left leftSurvives fun id apart within refused => ?_)
    (accepted right rightSurvives fun id apart within refused => ?_) same)
  · exact none ⟨id, refused, .inl ⟨apart, within⟩⟩
  · exact none ⟨id, refused, .inr ⟨apart, within⟩⟩

/-- Survivors share a generated name only with their path. -/
theorem path_eq_of_name {left right : ModuleId} (leftSurvives : model.Survives left)
    (rightSurvives : model.Survives right)
    (same : Naming.moduleType (model.path left) = Naming.moduleType (model.path right) ∨
      Naming.sourceFile (model.path left) = Naming.sourceFile (model.path right)) :
    model.path left = model.path right := by
  have clear : ∀ id, model.Survives id → ∀ clash ∈ moduleClashes [] [] model.modules,
      clash.scope ≠ some (model.module id).id := by
    intro id survives clash report scope
    rw [(wellFormed.module_mem survives.known).2] at scope
    obtain ⟨_, _, blames⟩ := moduleClashes_blame report
    exact survives.no_fault wellFormed (moduleClash_fault report) ⟨blames.1, scope⟩
  exact path_eq_of_generated (wellFormed.module_mem leftSurvives.known).1
    (wellFormed.module_mem rightSurvives.known).1 same (clear left leftSurvives)
    (clear right rightSurvives)

end Survives

end Model

/-! ## Artifacts -/

/-- An artifact is named by the path of its module, which survives. -/
theorem Model.artifact_names {model : Model} (wellFormed : model.WellFormed) {header : String}
    {artifact : Artifact} (emitted : artifact ∈ (Build.ofModel model header).artifacts) :
    model.Survives artifact.module ∧ artifact.path = model.path artifact.module ∧
      artifact.descriptor.moduleType = Naming.moduleType (model.path artifact.module) ∧
      artifact.sourceFile = Naming.sourceFile (model.path artifact.module) := by
  obtain ⟨id, plan, survives, planned, rfl⟩ := (mem_artifacts wellFormed).mp emitted
  have same : (model.artifact model.wires model.finalPlan plan header).module = id := planned.module
  rw [same]
  exact ⟨survives, congrArg model.path same, congrArg (Naming.moduleType <| model.path ·) same,
    congrArg (Naming.sourceFile <| model.path ·) same⟩

/-- Nothing that is generated for one module can be taken for what is generated for
another one, except for modules with one path, of which there is more than one only
where the name of a module above them is refused. -/
theorem artifacts_told_apart (declarations : List ModuleDeclaration) (header : String) :
    let model := Model.ofDeclarations declarations
    let build := Build.ofDeclarations declarations header
    build.artifacts.Pairwise fun left right =>
      (left.path ≠ right.path ∧ left.descriptor.moduleType ≠ right.descriptor.moduleType ∧
        left.sourceFile ≠ right.sourceFile) ∨
      (left.path = right.path ∧ ∃ id, model.NameRefused build.diagnostics id ∧
        ((id ≠ left.module ∧ model.isWithin left.module id = true) ∨
          (id ≠ right.module ∧ model.isWithin right.module id = true))) := by
  have wellFormed := Model.ofDeclarations_wellFormed declarations
  unfold Build.ofDeclarations
  generalize Model.ofDeclarations declarations = model at wellFormed
  intro model build
  have modules : (build.artifacts.map (·.module)).Nodup := by
    rw [Model.ofModel_artifact_modules wellFormed]
    exact wellFormed.moduleIds_nodup.filter _
  have reported : ∀ diagnostic ∈ model.faults, diagnostic ∈ build.diagnostics := by
    intro diagnostic fault
    rw [Model.ofModel_diagnostics, Diagnostic.mem_sort]
    exact List.mem_append_left _ (Model.fault_reported fault)
  refine (List.pairwise_map.mp modules).imp_of_mem ?_
  intro left right leftEmitted rightEmitted different
  obtain ⟨leftSurvives, leftPath, leftType, leftFile⟩ :=
    Model.artifact_names wellFormed leftEmitted
  obtain ⟨rightSurvives, rightPath, rightType, rightFile⟩ :=
    Model.artifact_names wellFormed rightEmitted
  rw [leftPath, leftType, leftFile, rightPath, rightType, rightFile]
  by_cases same : model.path left.module = model.path right.module
  · obtain ⟨id, refused, above⟩ :=
      leftSurvives.exists_refused_above wellFormed rightSurvives different same
    exact .inr ⟨same, id, refused.mono reported, above⟩
  · exact .inl ⟨same,
      fun type => same (leftSurvives.path_eq_of_name wellFormed rightSurvives (.inl type)),
      fun file => same (leftSurvives.path_eq_of_name wellFormed rightSurvives (.inr file))⟩

/-- Two roots with one name, and a child of one name in each. -/
def sampleTwins : List ModuleDeclaration :=
  [{ name := "a", modules := [{ name := "b" }] }, { name := "a", modules := [{ name := "b" }] }]

set_option maxRecDepth 100000 in
/-- The children of twins are both generated, under one name. -/
theorem sampleTwins_not_told_apart :
    ¬ (Build.ofDeclarations sampleTwins "// x").artifacts.Pairwise fun left right =>
      left.path ≠ right.path ∧ left.descriptor.moduleType ≠ right.descriptor.moduleType ∧
        left.sourceFile ≠ right.sourceFile := by
  decide +kernel

end StaticInjection
