import StaticInjection.Proofs.Code.Item
import StaticInjection.Proofs.Build.Names

/-! # Names of members

A module keeps its beans and its children in fields and declares functions to reach
them. All of these names are among those that were checked to differ from each other
and from `new` and `shutdown`. The constant with the types that are exposed has a name
that was not checked. -/

namespace StaticInjection

namespace Model

open Code Naming

variable {model : Model}

/-! ## Fields and functions -/

theorem fieldNames_sublist (module : Module) :
    ((model.memberFields module).map (·.name)).Sublist (model.memberNames module) := by
  simp only [memberFields, memberNames, List.map_append, List.map_flatMap, List.map_map]
  refine .append (.flatMap_right _ fun bean _ => ?_) (.refl _)
  simp only [Bean.memberNames, List.map_cons, List.singleton_append]
  refine .cons_cons _ (.trans ?_ (List.sublist_append_right _ _))
  cases (model.bean bean).isTracked <;> exact .refl _

theorem accessorNames_eq (module : Module) :
    (model.accessors module).map (·.name) =
      module.beans.flatMap (fun bean => (beanAccessors (model.bean bean)).map (·.name)) ++
        module.children.map fun child => (model.module child).name ++ "_module" := by
  rw [accessors, List.map_append, List.map_flatMap, List.map_map]
  rfl

theorem accessorNames_sublist (module : Module) :
    ((model.accessors module).map (·.name)).Sublist (model.memberNames module) := by
  rw [accessorNames_eq, memberNames]
  refine .append (.flatMap_right _ fun bean _ => ?_) (.refl _)
  simp only [Bean.memberNames, beanAccessors]
  refine .trans ?_ (List.sublist_append_left _ _)
  cases (model.bean bean).isPublic with
  | false => exact List.nil_sublist _
  | true => cases (model.bean bean).lifetime <;> simp [Accessor.name]

theorem mem_beanAccessorNames {bean : Bean} {name : String} :
    name ∈ (beanAccessors bean).map (·.name) ↔ bean.isPublic = true ∧
      (name = bean.name ∨ bean.lifetime = .perRequest ∧ name = bean.name ++ "_provider") := by
  simp only [beanAccessors]
  cases bean.isPublic <;> cases bean.lifetime <;> simp [Accessor.name]

/-- An accessor is named for a public bean or for a child. -/
theorem mem_accessorNames {module : Module} {name : String} :
    name ∈ (model.accessors module).map (·.name) ↔
      (∃ bean ∈ module.beans, (model.bean bean).isPublic = true ∧
        (name = (model.bean bean).name ∨
          (model.bean bean).lifetime = .perRequest ∧
            name = (model.bean bean).name ++ "_provider")) ∨
      ∃ child ∈ module.children, (model.module child).name ++ "_module" = name := by
  rw [accessorNames_eq, List.mem_append, List.mem_flatMap, List.mem_map]
  exact or_congr_left (exists_congr fun _ => and_congr_right fun _ => mem_beanAccessorNames)

/-- A name that goes on after an underscore in small letters is not the one of the
constant. -/
theorem exposed_ne_suffixed (name : String) :
    "EXPOSED" ≠ name ++ "_provider" ∧ "EXPOSED" ≠ name ++ "_module" := by
  constructor <;>
    exact fun same => absurd (congrArg (·.toList.getLast?) same) (by simp)

theorem exposed_mem_accessorNames {module : Module} :
    "EXPOSED" ∈ (model.accessors module).map (·.name) ↔
      ∃ bean ∈ module.beans,
        (model.bean bean).isPublic = true ∧ (model.bean bean).name = "EXPOSED" := by
  rw [mem_accessorNames]
  constructor
  · rintro (⟨bean, owned, isPublic, same | ⟨_, same⟩⟩ | ⟨child, _, same⟩)
    · exact ⟨bean, owned, isPublic, same.symm⟩
    · exact absurd same (exposed_ne_suffixed _).1
    · exact absurd same.symm (exposed_ne_suffixed _).2
  · rintro ⟨bean, owned, isPublic, same⟩
    exact .inl ⟨bean, owned, isPublic, .inl same.symm⟩

/-! ## Members of survivors -/

section

variable (wellFormed : model.WellFormed) {id : ModuleId} (survives : model.Survives id)

include wellFormed survives

theorem fieldNames_nodup : ((model.memberFields (model.module id)).map (·.name)).Nodup :=
  (survives.memberNames_nodup wellFormed).sublist (fieldNames_sublist _)

theorem accessorNames_plain {accessor : Accessor}
    (listed : accessor ∈ model.accessors (model.module id)) :
    accessor.name.toList.all isLetterOrDigit = true := by
  have plain {name : String} (valid : isIdentifier name = true) :
      name.toList.all isLetterOrDigit = true :=
    List.all_eq_true.mpr fun _ member => isLetterOrDigit_of_mem valid member
  rcases mem_accessorNames.mp (List.mem_map_of_mem (f := (·.name)) listed) with
    ⟨bean, owned, _, same | ⟨_, same⟩⟩ | ⟨child, below, same⟩
  · rw [same]
    exact plain (survives.bean_isIdentifier wellFormed owned)
  · rw [same, String.toList_append, List.all_append,
      plain (survives.bean_isIdentifier wellFormed owned)]
    decide
  · rw [← same, String.toList_append, List.all_append,
      plain (survives.child_isIdentifier wellFormed below)]
    decide

theorem functionNames_nodup :
    ("new" :: ((model.accessors (model.module id)).map (·.name) ++ ["shutdown"])).Nodup := by
  have distinct := (survives.memberNames_nodup wellFormed).sublist
    (accessorNames_sublist (model.module id))
  have fixed {name : String} (listed : name ∈ (model.accessors (model.module id)).map (·.name)) :
      name ∉ fixedMembers :=
    survives.memberName_not_fixed wellFormed ((accessorNames_sublist _).subset listed)
  refine List.nodup_cons.mpr
    ⟨?_, List.nodup_append.mpr ⟨distinct, List.nodup_singleton _, ?_⟩⟩
  · intro listed
    rcases List.mem_append.mp listed with accessor | last
    · exact fixed accessor (by decide)
    · exact absurd last (by decide)
  · rintro name listed _ last rfl
    rw [List.mem_singleton.mp last] at listed
    exact fixed listed (by decide)

/-- The items of a survivor share a name only where a public bean has the name of the
constant. -/
theorem itemNames_nodup_iff {plan : ModulePlan} (isPlan : plan.module = id) (header : String) :
    (model.codeFor plan header).itemNames.Nodup ↔
      ∀ bean ∈ (model.module id).beans, (model.bean bean).isPublic = true →
        (model.bean bean).name ≠ "EXPOSED" := by
  have names : (model.codeFor plan header).itemNames =
      "EXPOSED" :: "new" :: ((model.accessors (model.module id)).map (·.name) ++ ["shutdown"]) := by
    simp only [codeFor, moduleCode, ModuleCode.itemNames, isPlan, List.cons_append,
      List.nil_append]
  rw [names, List.nodup_cons, and_iff_left (functionNames_nodup wellFormed survives)]
  simp [exposed_mem_accessorNames]

end

end Model

/-- The fields of an emitted module have different names, and so have the items of its
type, unless a public bean has the name of the constant among them. -/
theorem emitted_member_names (declarations : List ModuleDeclaration) (header : String)
    (artifact : Artifact)
    (emitted : artifact ∈ (Build.ofDeclarations declarations header).artifacts) :
    let model := Model.ofDeclarations declarations
    ∃ plan, model.finalPlan.module? artifact.module = some plan ∧
      let code := model.codeFor plan header
      artifact.source = code.text ∧
        code.lines = code.typesLines ++
          Code.block ("impl " ++ code.moduleType ++ " \x7b") code.itemLines "\x7d" ∧
        (code.fields.map (·.name)).Nodup ∧
        code.itemLines.filterMap Code.Line.item? = code.itemNames ∧
        (code.itemNames.Nodup ↔
          ∀ bean ∈ (model.module artifact.module).beans, (model.bean bean).isPublic = true →
            (model.bean bean).name ≠ "EXPOSED") := by
  intro model
  have wellFormed := Model.ofDeclarations_wellFormed declarations
  rcases Model.artifact_planned wellFormed emitted with ⟨plan, survives, planned, source⟩
  have fields : (model.codeFor plan header).fields =
      model.memberFields (model.module artifact.module) := by
    simp only [Model.codeFor, Model.moduleCode, planned.module]
  have accessors : (model.codeFor plan header).accessors =
      model.accessors (model.module artifact.module) := by
    simp only [Model.codeFor, Model.moduleCode, planned.module]
  refine ⟨plan, planned.found, source, Code.lines_eq _, ?_, ?_,
    Model.itemNames_nodup_iff wellFormed survives planned.module header⟩
  · rw [fields]
    exact Model.fieldNames_nodup wellFormed survives
  · refine Code.items_itemLines fun accessor listed => ?_
    rw [accessors] at listed
    exact Model.accessorNames_plain wellFormed survives listed

set_option maxRecDepth 100000 in
/-- The module with a factory and a child. -/
theorem sampleApplication_member_names :
    let model := Model.ofDeclarations sampleApplication
    ∃ plan, model.finalPlan.module? ⟨1⟩ = some plan ∧
      let code := model.codeFor plan ""
      (code.fields.map (·.name)).Nodup ∧ (code.itemLines.filterMap Code.Line.item?).Nodup := by
  intro model
  have known : (⟨1⟩ : ModuleId) ∈ model.moduleIds := by decide +kernel
  obtain ⟨artifact, emitted, isModule⟩ := sampleApplication_emitted known
  obtain ⟨plan, found, _, _, fields, items, distinct⟩ :=
    emitted_member_names sampleApplication "" artifact emitted
  rw [isModule] at found distinct
  refine ⟨plan, found, fields, ?_⟩
  rw [items]
  exact distinct.mpr (by decide +kernel)

/-- A module with a public bean of the name that the constant has. -/
def sampleExposedBean : List ModuleDeclaration :=
  [{ name := "app"
     beans := [{ name := "EXPOSED", declaredType := .ofText "A", visibility := .isPublic }] }]

set_option maxRecDepth 100000 in
/-- The constant and the accessor of the bean are both generated. -/
theorem sampleExposedBean_items_clash :
    let model := Model.ofDeclarations sampleExposedBean
    ¬ ∀ artifact ∈ (Build.ofDeclarations sampleExposedBean "// x").artifacts,
      ∃ plan, model.finalPlan.module? artifact.module = some plan ∧
        let code := model.codeFor plan "// x"
        artifact.source = code.text ∧
          code.lines = code.typesLines ++
            Code.block ("impl " ++ code.moduleType ++ " \x7b") code.itemLines "\x7d" ∧
          (code.fields.map (·.name)).Nodup ∧
          (code.itemLines.filterMap Code.Line.item?).Nodup := by
  intro model distinct
  have wellFormed : model.WellFormed := Model.ofDeclarations_wellFormed _
  have listed : (⟨0⟩ : ModuleId) ∈
      (Build.ofDeclarations sampleExposedBean "// x").artifacts.map (·.module) := by
    decide +kernel
  obtain ⟨artifact, emitted, isModule⟩ := List.mem_map.mp listed
  rcases Model.artifact_planned wellFormed emitted with ⟨planned, survives, isPlanned, _⟩
  obtain ⟨plan, found, _, _, _, nodup⟩ := distinct artifact emitted
  obtain rfl : planned = plan := Option.some.inj (isPlanned.found.symm.trans found)
  rw [Code.items_itemLines] at nodup
  · rw [isModule] at survives
    have apart := (Model.itemNames_nodup_iff wellFormed survives
      (isPlanned.module.trans isModule) _).mp nodup
    exact absurd rfl (apart ⟨0⟩ (by decide +kernel) (by decide +kernel))
  · intro accessor accesses
    rw [Model.codeFor, Model.moduleCode, isPlanned.module] at accesses
    exact Model.accessorNames_plain wellFormed survives accesses

end StaticInjection
