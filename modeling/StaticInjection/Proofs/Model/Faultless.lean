import StaticInjection.Proofs.Model.Fault

/-! # Declarations without faults

The checks of declarations find nothing exactly when names, keys and generated names are
taken once wherever they stand together, and every row is right by itself. This is said
without the order in which the checks go through a model. -/

namespace StaticInjection

theorem flatMap_eq_nil_of_ne {items : List α} {make : α → List β} (some : ∀ item, make item ≠ []) :
    items.flatMap make = [] ↔ items = [] := by
  cases items <;> simp [some]

/-! ## Names that are taken once -/

theorem repeatedItems_eq_nil_iff [BEq β] [LawfulBEq β] {key : α → β} {seen : List β}
    {items : List α} : repeatedItems key seen items = [] ↔
      (items.map key).Nodup ∧ ∀ item ∈ items, key item ∉ seen := by
  constructor
  · exact fun clean => ⟨nodup_of_repeatedItems_eq_nil clean,
      fun _ => not_seen_of_repeatedItems_eq_nil clean⟩
  · rintro ⟨nodup, fresh⟩
    induction items generalizing seen with
    | nil => rfl
    | cons head tail induction =>
        obtain ⟨first, rest⟩ := List.nodup_cons.mp nodup
        rw [repeatedItems, if_neg (by simpa using fresh head List.mem_cons_self)]
        refine induction rest fun item later again => ?_
        rcases List.mem_cons.mp again with equal | known
        · exact first (equal ▸ List.mem_map_of_mem later)
        · exact fresh item (List.mem_cons_of_mem _ later) known

theorem not_repeated_of_nodup [BEq β] [LawfulBEq β] {key : α → β} {place : α → Nat}
    {items : List α} (placed : Numbered place 0 items) (nodup : (items.map key).Nodup) {item : α}
    (member : item ∈ items) :
    ((items.take (place item)).any fun earlier => key earlier == key item) = false := by
  refine List.any_eq_false.mpr fun earlier inside same => ?_
  obtain ⟨position, bound, rfl⟩ := List.mem_take_iff_getElem.mp inside
  have found := placed.getElem?_number member
  have equal := List.inj_on_of_nodup_map nodup (List.getElem_mem _) member (eq_of_beq same)
  have before := placed.getElem (show position < items.length by omega)
  rw [equal] at before
  omega

section Clashes

variable [BEq β] [LawfulBEq β] {generated : α → String} {identity : α → β} {items : List α}

theorem nameClashes_eq_nil {taken : List (String × α)}
    (agree : ∀ left ∈ items, ∀ right ∈ items, generated left = generated right →
      identity left = identity right)
    (held : ∀ item ∈ items, ∀ holder, taken.lookup (generated item) = some holder →
      identity holder = identity item) :
    nameClashes generated identity taken items = [] := by
  induction items generalizing taken with
  | nil => rfl
  | cons head tail induction =>
      have laterAgree : ∀ left ∈ tail, ∀ right ∈ tail, generated left = generated right →
          identity left = identity right := fun left leftLater right rightLater =>
        agree left (List.mem_cons_of_mem _ leftLater) right (List.mem_cons_of_mem _ rightLater)
      rw [nameClashes]
      cases found : taken.lookup (generated head) with
      | none =>
          refine induction laterAgree fun item inTail holder holds => ?_
          rw [List.lookup_cons] at holds
          split at holds
          · rename_i same
            obtain rfl := Option.some.inj holds
            exact agree head List.mem_cons_self item (List.mem_cons_of_mem _ inTail)
              (eq_of_beq same).symm
          · exact held item (List.mem_cons_of_mem _ inTail) holder holds
      | some holder =>
          simp only [held head List.mem_cons_self holder found, beq_self_eq_true, if_true]
          exact induction laterAgree fun item inTail => held item (List.mem_cons_of_mem _ inTail)

theorem nameClashes_eq_nil_iff : nameClashes generated identity [] items = [] ↔
    ∀ left ∈ items, ∀ right ∈ items, generated left = generated right →
      identity left = identity right := by
  constructor
  · intro clean left leftMember right rightMember same
    have clear : ∀ item, ∀ clash ∈ nameClashes generated identity [] items, clash.1 ≠ item := by
      simp [clean]
    exact nameClashes_agree leftMember rightMember same (clear left) (clear right)
  · exact fun agree => nameClashes_eq_nil agree nofun

end Clashes

namespace Model

open Naming

/-- Names are free for a path when nobody else holds them. -/
theorem moduleClashes_eq_nil {types files : List (String × String)} {modules : List Module}
    (agree : ∀ left ∈ modules, ∀ right ∈ modules,
      moduleType left.path = moduleType right.path ∨ sourceFile left.path = sourceFile right.path →
        left.path = right.path)
    (typeFree : ∀ module ∈ modules, otherHolder types (moduleType module.path) module.path = none)
    (fileFree : ∀ module ∈ modules, otherHolder files (sourceFile module.path) module.path = none) :
    moduleClashes types files modules = [] := by
  have free : ∀ {taken : List (String × String)} {name other path holder : String},
      otherHolder taken name path = none → (name = other → path = holder) →
        otherHolder (takeName taken other holder) name path = none := by
    intro taken name other path holder free same
    unfold takeName
    split
    · exact free
    · rw [otherHolder, List.lookup_cons]
      split
      · rename_i isOther
        simp [same (eq_of_beq isOther)]
      · exact free
  induction modules generalizing types files with
  | nil => rfl
  | cons head tail induction =>
      simp only [moduleClashes, typeFree head List.mem_cons_self, fileFree head List.mem_cons_self]
      refine induction (fun left leftLater right rightLater =>
        agree left (List.mem_cons_of_mem _ leftLater) right (List.mem_cons_of_mem _ rightLater))
        (fun module later => free (typeFree module (List.mem_cons_of_mem _ later)) fun same => ?_)
        (fun module later => free (fileFree module (List.mem_cons_of_mem _ later)) fun same => ?_)
      · exact agree module (List.mem_cons_of_mem _ later) head List.mem_cons_self (.inl same)
      · exact agree module (List.mem_cons_of_mem _ later) head List.mem_cons_self (.inr same)

theorem moduleClashes_eq_nil_iff {modules : List Module} : moduleClashes [] [] modules = [] ↔
    ∀ left ∈ modules, ∀ right ∈ modules,
      moduleType left.path = moduleType right.path ∨ sourceFile left.path = sourceFile right.path →
        left.path = right.path := by
  constructor
  · intro clean left leftMember right rightMember same
    have clear : ∀ scope, ∀ clash ∈ moduleClashes [] [] modules, clash.scope ≠ scope := by
      simp [clean]
    exact path_eq_of_generated leftMember rightMember same (clear _) (clear _)
  · exact fun agree => moduleClashes_eq_nil agree (fun _ _ => rfl) fun _ _ => rfl

end Model

namespace Model.WellFormed

variable {model : Model} (wellFormed : model.WellFormed)

include wellFormed

/-! ## Rows and their labels -/

theorem forall_modules {holds : Module → Prop} :
    (∀ module ∈ model.modules, holds module) ↔
      ∀ id ∈ model.moduleIds, holds (model.module id) := by
  constructor
  · exact fun all id known => all _ (wellFormed.module_mem known).1
  · exact fun all module member => wellFormed.module_of_mem member ▸
      all module.id (List.mem_map_of_mem member)

theorem forall_beans {holds : Bean → Prop} :
    (∀ bean ∈ model.beans, holds bean) ↔ ∀ id ∈ model.beanIds, holds (model.bean id) := by
  constructor
  · exact fun all id known => all _ (wellFormed.bean_mem known).1
  · exact fun all bean member => wellFormed.bean_of_mem member ▸
      all bean.id (List.mem_map_of_mem member)

theorem forall_sockets {holds : Socket → Prop} :
    (∀ socket ∈ model.sockets, holds socket) ↔
      ∀ id ∈ model.socketIds, holds (model.socket id) := by
  constructor
  · exact fun all id known => all _ (wellFormed.socket_mem known).1
  · exact fun all socket member => wellFormed.socket_of_mem member ▸
      all socket.id (List.mem_map_of_mem member)

/-- The beans of the modules are all beans. -/
theorem forall_module_beans {holds : BeanId → Prop} :
    (∀ id ∈ model.moduleIds, ∀ bean ∈ (model.module id).beans, holds bean) ↔
      ∀ bean ∈ model.beanIds, holds bean := by
  constructor
  · intro all bean known
    have inModule := wellFormed.bean_module bean known
    exact all _ inModule bean ((wellFormed.beans _ inModule bean).mpr ⟨known, rfl⟩)
  · exact fun all id known bean listed => all bean ((wellFormed.beans id known bean).mp listed).1


end Model.WellFormed

/-! ## Declarations without faults -/

namespace Model

@[simp] theorem reportAt_eq_nil {scope : ModuleId} {location : Location}
    {faults : List DeclarationFault} : reportAt scope location faults = [] ↔ faults = [] :=
  List.map_eq_nil_iff

/-- What the checks of declarations ask for, in whatever order they are made. -/
structure Faultless (model : Model) : Prop where
  module : ∀ id ∈ model.moduleIds, moduleFaults (model.module id) = []
  moduleSocket : ∀ id ∈ model.moduleIds, ∀ socket ∈ (model.module id).sockets,
    model.moduleSocketFaults (model.module id) (model.socket socket) = []
  bean : ∀ id ∈ model.beanIds, ownBeanFaults (model.bean id) = []
  beanSocket : ∀ id ∈ model.beanIds, ∀ socket ∈ (model.bean id).sockets,
    model.beanSocketFaults (model.bean id) (model.socket socket) = []
  beanNames : ∀ id ∈ model.moduleIds,
    ((model.module id).beans.map fun bean => (model.bean bean).name).Nodup
  siblings : ∀ id ∈ model.moduleIds, ∀ name ∈ (model.module id).wiredNames,
    ∃ sibling ∈ model.siblings (model.module id),
      sibling ≠ id ∧ (model.module sibling).name = name
  rootNames : (model.roots.map fun id => (model.module id).name).Nodup
  childNames : ∀ id ∈ model.moduleIds,
    ((model.module id).children.map fun child => (model.module child).name).Nodup
  generated : ∀ left ∈ model.moduleIds, ∀ right ∈ model.moduleIds,
    Naming.moduleType (model.path left) = Naming.moduleType (model.path right) ∨
      Naming.sourceFile (model.path left) = Naming.sourceFile (model.path right) →
    model.path left = model.path right
  beanKeys : ∀ left ∈ model.beanIds, ∀ right ∈ model.beanIds,
    model.beanKey (model.bean left) = model.beanKey (model.bean right) →
      (model.path (model.bean left).module, (model.bean left).name) =
        (model.path (model.bean right).module, (model.bean right).name)
  socketKeys : ∀ left ∈ model.socketIds, (model.socket left).isLazy = true →
    ∀ right ∈ model.socketIds, (model.socket right).isLazy = true →
    model.socketKey (model.socket left) = model.socketKey (model.socket right) →
      (model.path (model.socket left).module, model.ownerName? (model.socket left),
          (model.socket left).name) =
        (model.path (model.socket right).module, model.ownerName? (model.socket right),
          (model.socket right).name)

variable {model : Model}

theorem siblingReports_eq_nil_iff {group : List ModuleId} : model.siblingReports group = [] ↔
    (group.map fun id => (model.module id).name).Nodup := by
  rw [siblingReports, flatMap_eq_nil_of_ne fun _ => by simp [reportAt], repeatedItems_eq_nil_iff,
    List.map_map]
  exact and_iff_left fun _ _ => List.not_mem_nil

theorem wiringReports_eq_nil_iff {module : Module} : model.wiringReports module = [] ↔
    ∀ name ∈ module.wiredNames, ∃ sibling ∈ model.siblings module,
      sibling ≠ module.id ∧ (model.module sibling).name = name := by
  simp [wiringReports]

theorem beanClashes_eq_nil_iff (wellFormed : model.WellFormed) : model.beanClashes = [] ↔
    ∀ left ∈ model.beanIds, ∀ right ∈ model.beanIds,
      model.beanKey (model.bean left) = model.beanKey (model.bean right) →
        (model.path (model.bean left).module, (model.bean left).name) =
          (model.path (model.bean right).module, (model.bean right).name) := by
  rw [beanClashes, flatMap_eq_nil_of_ne fun _ => by simp [reportAt], nameClashes_eq_nil_iff,
    wellFormed.forall_beans]
  exact forall₂_congr fun left _ => wellFormed.forall_beans

theorem socketClashes_eq_nil_iff (wellFormed : model.WellFormed) : model.socketClashes = [] ↔
    ∀ left ∈ model.socketIds, (model.socket left).isLazy = true →
    ∀ right ∈ model.socketIds, (model.socket right).isLazy = true →
    model.socketKey (model.socket left) = model.socketKey (model.socket right) →
      (model.path (model.socket left).module, model.ownerName? (model.socket left),
          (model.socket left).name) =
        (model.path (model.socket right).module, model.ownerName? (model.socket right),
          (model.socket right).name) := by
  rw [socketClashes, flatMap_eq_nil_of_ne fun _ => by simp [reportAt], nameClashes_eq_nil_iff]
  simp only [List.mem_filter, and_imp]
  rw [wellFormed.forall_sockets]
  exact forall₃_congr fun left _ _ => wellFormed.forall_sockets

theorem repeatedBeans_iff (wellFormed : model.WellFormed) {id : ModuleId}
    (known : id ∈ model.moduleIds) :
    (∀ bean ∈ (model.module id).beans,
      model.repeatsBean (model.module id) (model.bean bean) = false) ↔
    ((model.module id).beans.map fun bean => (model.bean bean).name).Nodup := by
  have placed := wellFormed.beans_placed id known
  exact ⟨nodup_of_not_repeated placed, fun nodup bean => not_repeated_of_nodup placed nodup⟩

theorem declarationReports_eq_nil_iff (wellFormed : model.WellFormed) :
    (∀ id ∈ model.moduleIds, model.declarationReports (model.module id) = []) ↔
      (∀ id ∈ model.moduleIds, moduleFaults (model.module id) = []) ∧
      (∀ id ∈ model.moduleIds, ∀ socket ∈ (model.module id).sockets,
        model.moduleSocketFaults (model.module id) (model.socket socket) = []) ∧
      (∀ id ∈ model.beanIds, ownBeanFaults (model.bean id) = []) ∧
      (∀ id ∈ model.beanIds, ∀ socket ∈ (model.bean id).sockets,
        model.beanSocketFaults (model.bean id) (model.socket socket) = []) ∧
      ∀ id ∈ model.moduleIds,
        ((model.module id).beans.map fun bean => (model.bean bean).name).Nodup := by
  have names : (∀ id ∈ model.moduleIds,
      ((model.module id).beans.map fun bean => (model.bean bean).name).Nodup) ↔
      ∀ id ∈ model.moduleIds, ∀ bean ∈ (model.module id).beans,
        model.repeatsBean (model.module id) (model.bean bean) = false :=
    forall₂_congr fun id known => (repeatedBeans_iff wellFormed known).symm
  rw [names, ← wellFormed.forall_module_beans, ← wellFormed.forall_module_beans]
  simp only [declarationReports, List.append_eq_nil_iff, List.flatMap_eq_nil_iff, reportAt_eq_nil,
    moduleSocketReports, beanReports, repeatedBeanFaults, faultIf_eq_nil, forall_and, and_assoc]

theorem faults_eq_nil_iff (wellFormed : model.WellFormed) :
    model.faults = [] ↔ model.Faultless := by
  have isId : ∀ id ∈ model.moduleIds, (model.module id).id = id :=
    fun id known => (wellFormed.module_mem known).2
  have wiring : (∀ id ∈ model.moduleIds, model.wiringReports (model.module id) = []) ↔
      ∀ id ∈ model.moduleIds, ∀ name ∈ (model.module id).wiredNames,
        ∃ sibling ∈ model.siblings (model.module id),
          sibling ≠ id ∧ (model.module sibling).name = name :=
    forall₂_congr fun id known => by rw [wiringReports_eq_nil_iff, isId id known]
  have clashes : moduleClashes [] [] model.modules = [] ↔
      ∀ left ∈ model.moduleIds, ∀ right ∈ model.moduleIds,
        Naming.moduleType (model.path left) = Naming.moduleType (model.path right) ∨
          Naming.sourceFile (model.path left) = Naming.sourceFile (model.path right) →
        model.path left = model.path right := by
    rw [moduleClashes_eq_nil_iff, wellFormed.forall_modules]
    exact forall₂_congr fun left _ => wellFormed.forall_modules
  simp only [faults, List.append_eq_nil_iff, List.flatMap_eq_nil_iff, wellFormed.forall_modules,
    declarationReports_eq_nil_iff wellFormed, wiring, siblingReports_eq_nil_iff, clashes,
    beanClashes_eq_nil_iff wellFormed, socketClashes_eq_nil_iff wellFormed, and_assoc]
  constructor
  · rintro ⟨module, moduleSocket, bean, beanSocket, beanNames, siblings, rootNames, childNames,
      generated, beanKeys, socketKeys⟩
    exact ⟨module, moduleSocket, bean, beanSocket, beanNames, siblings, rootNames, childNames,
      generated, beanKeys, socketKeys⟩
  · exact fun clean => ⟨clean.module, clean.moduleSocket, clean.bean, clean.beanSocket,
      clean.beanNames, clean.siblings, clean.rootNames, clean.childNames, clean.generated,
      clean.beanKeys, clean.socketKeys⟩

end Model

end StaticInjection
