import StaticInjection.Proofs.Model.Fault
import StaticInjection.Proofs.Naming.Path

/-! # Paths of modules

The path of a module is made of the names on the way down to it. It leads back to them
as long as they are identifiers, and to the module as long as siblings have names of
their own. It has a slash only where one of the names has. -/

namespace StaticInjection

namespace Model

variable {model : Model}

/-- The names on the way down to a module, the one of the root first. -/
def namesTo (model : Model) (id : ModuleId) : List String :=
  (model.lineage id).reverse.map fun above => (model.module above).name

theorem namesTo_ne_nil (id : ModuleId) : model.namesTo id ≠ [] := by
  simp [namesTo, lineage]

theorem forall_namesTo {id : ModuleId} {holds : String → Prop} :
    (∀ name ∈ model.namesTo id, holds name) ↔
      ∀ above, model.isWithin id above = true → holds (model.module above).name := by
  simp [namesTo, WellFormed.mem_lineage]

namespace WellFormed

variable (wellFormed : model.WellFormed)

include wellFormed

theorem path_eq_intercalate {id : ModuleId} (known : id ∈ model.moduleIds) :
    model.path id = ".".intercalate (model.namesTo id) := by
  refine wellFormed.descend
    (motive := fun id => model.path id = ".".intercalate (model.namesTo id)) ?_ known
  intro id known above
  cases isParent : model.parent id with
  | none =>
      rw [wellFormed.path_root id known isParent, namesTo, lineage_of_root isParent]
      simp
  | some parent =>
      have names : model.namesTo id = model.namesTo parent ++ [(model.module id).name] := by
        simp [namesTo, wellFormed.lineage_of_parent known isParent]
      rw [wellFormed.path_child id known parent isParent, above parent isParent, names,
        String.intercalate_append_of_ne_nil (namesTo_ne_nil parent) (by simp),
        String.intercalate_singleton]

/-- A path falls apart into the names on the way exactly when none of them has a dot. -/
theorem segments_path_iff {id : ModuleId} (known : id ∈ model.moduleIds) :
    Naming.segments (model.path id) = (model.namesTo id).map String.toList ↔
      ∀ above, model.isWithin id above = true → '.' ∉ (model.module above).name.toList := by
  rw [wellFormed.path_eq_intercalate known,
    Naming.segments_intercalate_iff (namesTo_ne_nil id), forall_namesTo]

/-- What is no dot comes into a path with one of the names on the way. -/
theorem mem_path {id : ModuleId} (known : id ∈ model.moduleIds) {character : Char}
    (other : character ≠ '.') : character ∈ (model.path id).toList ↔
      ∃ above, model.isWithin id above = true ∧
        character ∈ (model.module above).name.toList := by
  rw [wellFormed.path_eq_intercalate known, String.toList_intercalate,
    Text.mem_intercalate (by simpa using other)]
  simp [namesTo, mem_lineage]

theorem slash_mem_path {id : ModuleId} (known : id ∈ model.moduleIds) :
    '/' ∈ (model.path id).toList ↔
      ∃ above, model.isWithin id above = true ∧ '/' ∈ (model.module above).name.toList :=
  wellFormed.mem_path known (by decide)

/-! ## Modules with one path -/

/-- A path of a module below another one gives the parent's path and the last name. -/
theorem path_child_inj {left right leftParent rightParent : ModuleId}
    (leftKnown : left ∈ model.moduleIds) (rightKnown : right ∈ model.moduleIds)
    (isLeft : model.parent left = some leftParent) (isRight : model.parent right = some rightParent)
    (leftValid : Naming.isIdentifier (model.module left).name = true)
    (rightValid : Naming.isIdentifier (model.module right).name = true)
    (same : model.path left = model.path right) :
    model.path leftParent = model.path rightParent ∧
      (model.module left).name = (model.module right).name := by
  rw [wellFormed.path_child left leftKnown leftParent isLeft,
    wellFormed.path_child right rightKnown rightParent isRight] at same
  exact Naming.dotted_inj (Naming.not_dot_of_isIdentifier leftValid)
    (Naming.not_dot_of_isIdentifier rightValid) same

/-- The path of a module below another one has a dot, so no identifier is equal to it. -/
theorem path_child_ne {id parent : ModuleId} (known : id ∈ model.moduleIds)
    (isParent : model.parent id = some parent) {name : String}
    (valid : Naming.isIdentifier name = true) : model.path id ≠ name := by
  intro same
  refine Naming.not_dot_of_isIdentifier valid ?_
  rw [← same, wellFormed.path_child id known parent isParent]
  simp

/-- Paths lead to one module as long as the names along them are identifiers, which
siblings do not share. -/
theorem eq_of_named_path (named : ModuleId → Prop)
    (valid : ∀ id ∈ model.moduleIds, named id → Naming.isIdentifier (model.module id).name = true)
    (siblings : ∀ left right, left ∈ model.moduleIds → right ∈ model.moduleIds →
      model.parent left = model.parent right → named left → named right →
      (model.module left).name = (model.module right).name → left = right)
    {left right : ModuleId} (leftKnown : left ∈ model.moduleIds)
    (rightKnown : right ∈ model.moduleIds)
    (leftNamed : ∀ id, model.isWithin left id = true → named id)
    (rightNamed : ∀ id, model.isWithin right id = true → named id)
    (same : model.path left = model.path right) : left = right := by
  refine wellFormed.descend (motive := fun left =>
    (∀ id, model.isWithin left id = true → named id) → ∀ right ∈ model.moduleIds,
      (∀ id, model.isWithin right id = true → named id) →
      model.path left = model.path right → left = right)
    ?_ leftKnown leftNamed right rightKnown rightNamed same
  intro left leftKnown above leftNamed right rightKnown rightNamed same
  have leftName := leftNamed left (isWithin_self left)
  have rightName := rightNamed right (isWithin_self right)
  have leftValid := valid left leftKnown leftName
  have rightValid := valid right rightKnown rightName
  cases isLeft : model.parent left with
  | none =>
      rw [wellFormed.path_root left leftKnown isLeft] at same
      cases isRight : model.parent right with
      | none =>
          rw [wellFormed.path_root right rightKnown isRight] at same
          exact siblings left right leftKnown rightKnown (isLeft.trans isRight.symm) leftName
            rightName same
      | some rightParent =>
          exact absurd same.symm (wellFormed.path_child_ne rightKnown isRight leftValid)
  | some leftParent =>
      cases isRight : model.parent right with
      | none =>
          rw [wellFormed.path_root right rightKnown isRight] at same
          exact absurd same (wellFormed.path_child_ne leftKnown isLeft rightValid)
      | some rightParent =>
          obtain ⟨paths, names⟩ := wellFormed.path_child_inj leftKnown rightKnown isLeft isRight
            leftValid rightValid same
          have parents := above leftParent isLeft
            (fun id within => leftNamed id
              ((wellFormed.isWithin_of_parent leftKnown isLeft).mpr (.inr within)))
            rightParent (wellFormed.parent_known rightKnown isRight)
            (fun id within => rightNamed id
              ((wellFormed.isWithin_of_parent rightKnown isRight).mpr (.inr within))) paths
          exact siblings left right leftKnown rightKnown (by rw [isLeft, isRight, parents])
            leftName rightName names

end WellFormed

end Model

end StaticInjection
