import StaticInjection.Proofs.Build.Distinct
import StaticInjection.Proofs.Model.Path

/-! # Paths of artifacts

The path of an artifact is made of the names of its module and of those above it. Its
own name is an identifier, since it would have failed otherwise. A module does not
fail because the one around it does, so the names above it need not be identifiers;
they are only reported. -/

namespace StaticInjection

namespace Model.Survives

variable {model : Model} (wellFormed : model.WellFormed)

include wellFormed

/-- A module with a name that is no identifier is reported and does not survive. -/
theorem isIdentifier_above {id above : ModuleId} (survives : model.Survives id)
    (within : model.isWithin id above = true) :
    Naming.isIdentifier (model.module above).name = true ∨
      ¬ model.Survives above ∧ model.NameInvalid model.faults above := by
  have known := wellFormed.isWithin_known survives.known within
  rcases wellFormed.isIdentifier_or_invalid known with valid | invalid
  · exact .inl valid
  · apply Or.inr
    apply And.intro _ invalid
    intro aboveSurvives
    exact aboveSurvives.no_fault wellFormed invalid (Diagnostic.invalid_blames _ _ _)

end Model.Survives

/-- The path of an artifact consists of the names down to its module, and leads back to
them unless one of them has a dot. A name among them that is no identifier belongs to
another module, which is reported for it and not emitted. -/
theorem emitted_path_names (declarations : List ModuleDeclaration) (header : String)
    (artifact : Artifact)
    (emitted : artifact ∈ (Build.ofDeclarations declarations header).artifacts) :
    let model := Model.ofDeclarations declarations
    let build := Build.ofDeclarations declarations header
    let names := model.namesTo artifact.module
    artifact.path = ".".intercalate names ∧
      (Naming.segments artifact.path = names.map String.toList ↔
        ∀ name ∈ names, '.' ∉ name.toList) ∧
      ∀ above, model.isWithin artifact.module above = true →
        Naming.isIdentifier (model.module above).name = true ∨
          above ≠ artifact.module ∧ (∀ other ∈ build.artifacts, other.module ≠ above) ∧
            model.NameInvalid build.diagnostics above := by
  have wellFormed := Model.ofDeclarations_wellFormed declarations
  unfold Build.ofDeclarations at *
  generalize Model.ofDeclarations declarations = model at *
  intro model build names
  rcases Model.artifact_names wellFormed emitted with ⟨survives, isPath, _, _⟩
  have known := survives.known
  rw [isPath]
  apply And.intro (wellFormed.path_eq_intercalate known)
  constructor
  · rw [wellFormed.segments_path_iff known, Model.forall_namesTo]
  intro above within
  rcases survives.isIdentifier_above wellFormed within with valid | ⟨fallen, invalid⟩
  · exact .inl valid
  · apply Or.inr
    have different : above ≠ artifact.module := by
      rintro rfl
      exact fallen survives
    have missing : ∀ other ∈ build.artifacts, other.module ≠ above := by
      rintro other listed rfl
      exact fallen (Model.artifact_names wellFormed listed).1
    exact ⟨different, missing, Model.fault_diagnosed invalid header⟩

set_option maxRecDepth 100000 in
/-- The module on the third level. -/
theorem sampleApplication_path_names :
    let model := Model.ofDeclarations sampleApplication
    ∃ artifact ∈ (Build.ofDeclarations sampleApplication "").artifacts,
      artifact.module = ⟨2⟩ ∧ artifact.path = "app.data.disk" ∧
        Naming.segments artifact.path = ["app", "data", "disk"].map String.toList ∧
        ∀ above, model.isWithin ⟨2⟩ above = true →
          Naming.isIdentifier (model.module above).name = true := by
  intro model
  have known : (⟨2⟩ : ModuleId) ∈ model.moduleIds := by decide +kernel
  have names : model.namesTo ⟨2⟩ = ["app", "data", "disk"] := by decide +kernel
  rcases sampleApplication_emitted known with ⟨artifact, emitted, isModule⟩
  rcases emitted_path_names sampleApplication "" artifact emitted with ⟨path, segments, valid⟩
  rw [isModule, names] at path segments
  rw [isModule] at valid
  refine ⟨artifact, emitted, isModule, path, segments.mpr (by decide), ?_⟩
  intro above within
  rcases valid above within with valid | ⟨_, missing, _⟩
  · exact valid
  · have wellFormed := Model.ofDeclarations_wellFormed sampleApplication
    rcases sampleApplication_emitted (wellFormed.isWithin_known known within) with
      ⟨other, listed, isAbove⟩
    exact absurd isAbove (missing other listed)

/-- A root with a blank in its name, and a child. -/
def sampleSpacedRoot : List ModuleDeclaration :=
  [{ name := "bad name", modules := [{ name := "b" }] }]

set_option maxRecDepth 100000 in
/-- The child is generated, and the name of the root stands in its path. -/
theorem sampleSpacedRoot_path_invalid :
    let model := Model.ofDeclarations sampleSpacedRoot
    ¬ ∀ artifact ∈ (Build.ofDeclarations sampleSpacedRoot "// x").artifacts,
      Naming.segments artifact.path = (model.namesTo artifact.module).map String.toList ∧
        ∀ name ∈ model.namesTo artifact.module, Naming.isIdentifier name = true := by
  decide +kernel

end StaticInjection
