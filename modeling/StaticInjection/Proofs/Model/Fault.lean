import Mathlib.Data.List.Nodup
import StaticInjection.Model.Fault
import StaticInjection.Proofs.Model.Tree

/-! # Where no fault is found

What follows for names when the checks of declarations find nothing: names that
must be identifiers are, and names that must differ do. -/

namespace StaticInjection

@[simp] theorem faultIf_eq_nil {condition : Bool} {fault : DeclarationFault} :
    faultIf condition fault = [] ↔ condition = false := by
  cases condition <;> simp [faultIf]

theorem mem_faultIf {condition : Bool} {fault reported : DeclarationFault} :
    reported ∈ faultIf condition fault ↔ condition = true ∧ reported = fault := by
  cases condition <;> simp [faultIf]

/-! ## Repeated items -/

section Repeated

variable [BEq β] [LawfulBEq β] {key : α → β} {seen : List β} {items : List α}

theorem mem_repeatedItems_of_seen {item : α} (member : item ∈ items) (known : key item ∈ seen) :
    item ∈ repeatedItems key seen items := by
  induction items generalizing seen with
  | nil => cases member
  | cons head tail induction =>
      unfold repeatedItems
      rcases List.mem_cons.mp member with equal | later
      · subst equal
        rw [if_pos (by simpa using known)]
        exact List.mem_cons_self
      · split
        · exact List.mem_cons_of_mem _ (induction later known)
        · exact induction later (List.mem_cons_of_mem _ known)

variable (seen) in
/-- Of two different items with one key, one is repeated. -/
theorem mem_repeatedItems_or {left right : α} (leftMember : left ∈ items)
    (rightMember : right ∈ items) (different : left ≠ right) (same : key left = key right) :
    left ∈ repeatedItems key seen items ∨ right ∈ repeatedItems key seen items := by
  induction items generalizing seen with
  | nil => cases leftMember
  | cons head tail induction =>
      have laterOf {first second : α} (equal : first = head) (later : second ∈ tail)
          (same : key first = key second) :
          first ∈ repeatedItems key seen (head :: tail) ∨
            second ∈ repeatedItems key seen (head :: tail) := by
        subst equal
        unfold repeatedItems
        split
        · exact .inl List.mem_cons_self
        · exact .inr (mem_repeatedItems_of_seen later (same ▸ List.mem_cons_self))
      rcases List.mem_cons.mp leftMember with leftHead | leftLater
      · rcases List.mem_cons.mp rightMember with rightHead | rightLater
        · exact absurd (leftHead.trans rightHead.symm) different
        · exact laterOf leftHead rightLater same
      · rcases List.mem_cons.mp rightMember with rightHead | rightLater
        · exact (laterOf rightHead leftLater same.symm).symm
        · unfold repeatedItems
          split
          · exact (induction _ leftLater rightLater).imp (List.mem_cons_of_mem _)
              (List.mem_cons_of_mem _)
          · exact induction _ leftLater rightLater

theorem not_seen_of_repeatedItems_eq_nil (clean : repeatedItems key seen items = []) {item : α}
    (member : item ∈ items) : key item ∉ seen := by
  intro known
  have repeated := mem_repeatedItems_of_seen member known
  rw [clean] at repeated
  cases repeated

theorem nodup_of_repeatedItems_eq_nil (clean : repeatedItems key seen items = []) :
    (items.map key).Nodup := by
  induction items generalizing seen with
  | nil => exact .nil
  | cons head tail induction =>
      unfold repeatedItems at clean
      split at clean
      · cases clean
      · refine List.nodup_cons.mpr ⟨?_, induction clean⟩
        intro again
        obtain ⟨item, later, same⟩ := List.mem_map.mp again
        exact not_seen_of_repeatedItems_eq_nil clean later (by simp [same])

end Repeated

/-- Items that stand where they say they do have different keys when none has the
key of one before it. -/
theorem nodup_of_not_repeated [BEq β] [LawfulBEq β] {key : α → β} {place : α → Nat}
    {items : List α} (placed : Numbered place 0 items)
    (clean : ∀ item ∈ items,
      ((items.take (place item)).any fun earlier => key earlier == key item) = false) :
    (items.map key).Nodup := by
  refine List.pairwise_map.mpr (List.pairwise_iff_getElem.mpr ?_)
  intro first second firstInside secondInside before same
  have isPlace : place items[second] = second := by
    simpa using placed.getElem secondInside
  have none := clean items[second] (List.getElem_mem secondInside)
  rw [isPlace] at none
  have earlier : items[first] ∈ items.take second :=
    List.mem_take_iff_getElem.mpr ⟨first, by omega, rfl⟩
  simpa [same] using List.any_eq_false.mp none _ earlier

/-! ## Generated names -/

section Clashes

variable [BEq β] [LawfulBEq β] {generated : α → String} {identity : α → β} {items : List α}

theorem holder_agrees {taken : List (String × α)} {item holder : α} (member : item ∈ items)
    (held : taken.lookup (generated item) = some holder)
    (clear : ∀ clash ∈ nameClashes generated identity taken items, clash.1 ≠ item) :
    identity holder = identity item := by
  induction items generalizing taken with
  | nil => cases member
  | cons head tail induction =>
      simp only [nameClashes] at clear
      rcases List.mem_cons.mp member with equal | later
      · subst equal
        simp only [held] at clear
        split at clear
        · rename_i agree
          exact eq_of_beq agree
        · exact absurd rfl (clear _ List.mem_cons_self)
      · split at clear
        · rename_i free
          refine induction later ?_ clear
          have different : generated item ≠ generated head := by
            intro same
            rw [← same, held] at free
            cases free
          rw [List.lookup_cons, beq_false_of_ne different]
          exact held
        · split at clear
          · exact induction later held clear
          · exact induction later held fun clash inside =>
              clear clash (List.mem_cons_of_mem _ inside)

/-- Items that share a generated name, and are not at fault for it, are the same by
identity. -/
theorem nameClashes_agree {taken : List (String × α)} {left right : α}
    (leftMember : left ∈ items) (rightMember : right ∈ items)
    (same : generated left = generated right)
    (leftClear : ∀ clash ∈ nameClashes generated identity taken items, clash.1 ≠ left)
    (rightClear : ∀ clash ∈ nameClashes generated identity taken items, clash.1 ≠ right) :
    identity left = identity right := by
  induction items generalizing taken with
  | nil => cases leftMember
  | cons head tail induction =>
      -- After the head, its name is held by an item that agrees with it.
      have laterOf {first second : α} (equal : first = head) (later : second ∈ tail)
          (same : generated first = generated second)
          (firstClear : ∀ clash ∈ nameClashes generated identity taken (head :: tail),
            clash.1 ≠ first)
          (secondClear : ∀ clash ∈ nameClashes generated identity taken (head :: tail),
            clash.1 ≠ second) : identity first = identity second := by
        subst equal
        simp only [nameClashes] at firstClear secondClear
        split at secondClear
        · exact holder_agrees later (by simp [same]) secondClear
        · rename_i holder held
          simp only [held] at firstClear
          split at secondClear
          · rename_i agree
            rw [← eq_of_beq agree]
            exact holder_agrees later (same ▸ held) secondClear
          · rename_i differ
            rw [if_neg differ] at firstClear
            exact absurd rfl (firstClear _ List.mem_cons_self)
      rcases List.mem_cons.mp leftMember with leftHead | leftLater
      · rcases List.mem_cons.mp rightMember with rightHead | rightLater
        · rw [leftHead, rightHead]
        · exact laterOf leftHead rightLater same leftClear rightClear
      · rcases List.mem_cons.mp rightMember with rightHead | rightLater
        · exact (laterOf rightHead leftLater same.symm rightClear leftClear).symm
        · cases held : taken.lookup (generated head) with
          | none =>
              simp only [nameClashes, held] at leftClear rightClear
              exact induction leftLater rightLater leftClear rightClear
          | some holder =>
              simp only [nameClashes, held] at leftClear rightClear
              split at leftClear
              · rename_i agree
                rw [if_pos agree] at rightClear
                exact induction leftLater rightLater leftClear rightClear
              · rename_i differ
                rw [if_neg differ] at rightClear
                exact induction leftLater rightLater
                  (fun clash inside => leftClear clash (List.mem_cons_of_mem _ inside))
                  (fun clash inside => rightClear clash (List.mem_cons_of_mem _ inside))

end Clashes

/-! ## Names of modules -/

namespace Model

open Naming

theorem holder_eq {taken : List (String × String)} {name path holder : String}
    (held : taken.lookup name = some holder) (free : otherHolder taken name path = none) :
    holder = path := by
  simp only [otherHolder, held, Option.filter_eq_none_iff] at free
  simpa using free holder rfl

theorem lookup_takeName {taken : List (String × String)} {name other path holder : String}
    (held : taken.lookup name = some holder) :
    (takeName taken other path).lookup name = some holder := by
  unfold takeName
  split
  · exact held
  · rename_i free
    have different : name ≠ other := by
      rintro rfl
      simp [held] at free
    rw [List.lookup_cons, beq_false_of_ne different]
    exact held

theorem lookup_takeName_self {taken : List (String × String)} {name path : String}
    (free : otherHolder taken name path = none) :
    (takeName taken name path).lookup name = some path := by
  cases held : taken.lookup name with
  | none => simp [takeName, held]
  | some holder =>
      rw [lookup_takeName held, holder_eq held free]

/-- A path holds the names that are generated for it. -/
structure HoldsNames (types files : List (String × String)) (path : String) : Prop where
  type : types.lookup (moduleType path) = some path
  file : files.lookup (sourceFile path) = some path

theorem HoldsNames.take {types files : List (String × String)} {path type file other : String}
    (holds : HoldsNames types files path) :
    HoldsNames (takeName types type other) (takeName files file other) path :=
  ⟨lookup_takeName holds.type, lookup_takeName holds.file⟩

section Clashes

variable {types files : List (String × String)} {modules : List Module}

/-- A module that is not at fault has the path that holds one of its names. -/
theorem path_eq_of_holdsNames {path : String} {module : Module} (member : module ∈ modules)
    (holds : HoldsNames types files path)
    (same : moduleType module.path = moduleType path ∨ sourceFile module.path = sourceFile path)
    (clear : ∀ clash ∈ moduleClashes types files modules, clash.scope ≠ some module.id) :
    path = module.path := by
  induction modules generalizing types files with
  | nil => cases member
  | cons head tail induction =>
      simp only [moduleClashes] at clear
      rcases List.mem_cons.mp member with equal | later
      · subst equal
        split at clear
        · exact absurd rfl (clear _ (List.mem_append_left _ (List.mem_singleton_self _)))
        · exact absurd rfl (clear _ (List.mem_append_left _ (List.mem_singleton_self _)))
        · rename_i freeType freeFile
          rcases same with type | file
          · exact holder_eq (type ▸ holds.type) freeType
          · exact holder_eq (file ▸ holds.file) freeFile
      · split at clear
        · exact induction later holds fun clash inside =>
            clear clash (List.mem_append_right _ inside)
        · exact induction later holds fun clash inside =>
            clear clash (List.mem_append_right _ inside)
        · exact induction later holds.take clear

/-- Modules that share a generated name, and are not at fault for it, have the same
path. -/
theorem path_eq_of_generated {left right : Module} (leftMember : left ∈ modules)
    (rightMember : right ∈ modules)
    (same : moduleType left.path = moduleType right.path ∨
      sourceFile left.path = sourceFile right.path)
    (leftClear : ∀ clash ∈ moduleClashes types files modules, clash.scope ≠ some left.id)
    (rightClear : ∀ clash ∈ moduleClashes types files modules, clash.scope ≠ some right.id) :
    left.path = right.path := by
  induction modules generalizing types files with
  | nil => cases leftMember
  | cons head tail induction =>
      -- After the head, its path holds its names.
      have laterOf {first second : Module} (equal : first = head) (later : second ∈ tail)
          (same : moduleType second.path = moduleType first.path ∨
            sourceFile second.path = sourceFile first.path)
          (firstClear : ∀ clash ∈ moduleClashes types files (head :: tail),
            clash.scope ≠ some first.id)
          (secondClear : ∀ clash ∈ moduleClashes types files (head :: tail),
            clash.scope ≠ some second.id) : first.path = second.path := by
        subst equal
        simp only [moduleClashes] at firstClear secondClear
        split at secondClear
        · rename_i taken
          simp only [taken] at firstClear
          exact absurd rfl (firstClear _ (List.mem_append_left _ (List.mem_singleton_self _)))
        · rename_i free taken
          simp only [free, taken] at firstClear
          exact absurd rfl (firstClear _ (List.mem_append_left _ (List.mem_singleton_self _)))
        · rename_i freeType freeFile
          exact path_eq_of_holdsNames later
            ⟨lookup_takeName_self freeType, lookup_takeName_self freeFile⟩ same secondClear
      rcases List.mem_cons.mp leftMember with leftHead | leftLater
      · rcases List.mem_cons.mp rightMember with rightHead | rightLater
        · rw [leftHead, rightHead]
        · exact laterOf leftHead rightLater (same.imp Eq.symm Eq.symm) leftClear rightClear
      · rcases List.mem_cons.mp rightMember with rightHead | rightLater
        · exact (laterOf rightHead leftLater same rightClear leftClear).symm
        · simp only [moduleClashes] at leftClear rightClear
          split at leftClear
          · rename_i taken
            simp only [taken] at rightClear
            exact induction leftLater rightLater
              (fun clash inside => leftClear clash (List.mem_append_right _ inside))
              (fun clash inside => rightClear clash (List.mem_append_right _ inside))
          · rename_i free taken
            simp only [free, taken] at rightClear
            exact induction leftLater rightLater
              (fun clash inside => leftClear clash (List.mem_append_right _ inside))
              (fun clash inside => rightClear clash (List.mem_append_right _ inside))
          · rename_i freeType freeFile
            simp only [freeType, freeFile] at rightClear
            exact induction leftLater rightLater leftClear rightClear

end Clashes

end Model

/-! ## Identifiers -/

namespace Naming

theorem isLetterOrDigit_of_isLetter {character : Char} (letter : isLetter character = true) :
    isLetterOrDigit character = true := by
  simp only [isLetter, isLetterOrDigit, Char.isAlphanum, Bool.or_eq_true] at letter ⊢
  rcases letter with letter | underscore
  · exact .inl (.inl letter)
  · exact .inr underscore

theorem isLetterOrDigit_of_mem {name : String} (valid : isIdentifier name = true)
    {character : Char} (member : character ∈ name.toList) : isLetterOrDigit character = true := by
  unfold isIdentifier at valid
  split at valid
  · cases valid
  · rename_i first rest spelled
    rw [spelled] at member
    simp only [Bool.and_eq_true] at valid
    obtain ⟨⟨⟨starts, continues⟩, _⟩, _⟩ := valid
    rcases List.mem_cons.mp member with equal | later
    · exact equal ▸ isLetterOrDigit_of_isLetter starts
    · exact List.all_eq_true.mp continues _ later

theorem not_dot_of_isIdentifier {name : String} (valid : isIdentifier name = true) :
    '.' ∉ name.toList := fun dotted =>
  absurd (isLetterOrDigit_of_mem valid dotted) (by decide)

/-- A path ends in one way only when names have no dots. -/
theorem dotted_inj {leftPath rightPath leftName rightName : String}
    (leftPlain : '.' ∉ leftName.toList) (rightPlain : '.' ∉ rightName.toList)
    (same : leftPath ++ "." ++ leftName = rightPath ++ "." ++ rightName) :
    leftPath = rightPath ∧ leftName = rightName := by
  have lists : leftPath.toList ++ '.' :: leftName.toList =
      rightPath.toList ++ '.' :: rightName.toList := by
    simpa using congrArg String.toList same
  rcases List.append_eq_append_iff.mp lists with ⟨more, path, name⟩ | ⟨more, path, name⟩
  · cases more with
    | nil =>
        simp only [List.append_nil, List.nil_append, List.cons.injEq, true_and] at path name
        exact ⟨(String.toList_inj.mp path).symm, String.toList_inj.mp name⟩
    | cons first later =>
        simp only [List.cons_append, List.cons.injEq] at name
        exact absurd (by simp [name.2]) leftPlain
  · cases more with
    | nil =>
        simp only [List.append_nil, List.nil_append, List.cons.injEq, true_and] at path name
        exact ⟨String.toList_inj.mp path, (String.toList_inj.mp name).symm⟩
    | cons first later =>
        simp only [List.cons_append, List.cons.injEq] at name
        exact absurd (by simp [name.2]) rightPlain

end Naming

end StaticInjection
