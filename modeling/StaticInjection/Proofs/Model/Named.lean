import StaticInjection.Proofs.Model.Arrangement
import StaticInjection.Proofs.Model.Faultless
import StaticInjection.Proofs.Model.Path
import StaticInjection.Proofs.Model.Relabelling

/-! # Declared names

Modules are told apart by their paths, the beans of a module by their names, and the
sockets of an owner by theirs. Declarations in which no name stands twice in one place
give such a model, and so does every model without faults. -/

namespace StaticInjection

/-! ## Declarations -/

/-- A declaration that is named by an identifier and has no two children, no two beans
and no two sockets of one owner with the same name. -/
structure ModuleDeclaration.WellNamed (declaration : ModuleDeclaration) : Prop where
  name : Naming.isIdentifier declaration.name = true
  children : (declaration.modules.map (·.name)).Nodup
  beans : (declaration.beans.map (·.name)).Nodup
  inputs : (declaration.sockets.map (·.name)).Nodup
  sockets : ∀ bean ∈ declaration.beans, (bean.sockets.map (·.name)).Nodup

instance (declaration : ModuleDeclaration) : Decidable declaration.WellNamed :=
  decidable_of_iff
    (Naming.isIdentifier declaration.name = true ∧ (declaration.modules.map (·.name)).Nodup ∧
      (declaration.beans.map (·.name)).Nodup ∧ (declaration.sockets.map (·.name)).Nodup ∧
      ∀ bean ∈ declaration.beans, (bean.sockets.map (·.name)).Nodup)
    ⟨fun ⟨name, children, beans, inputs, sockets⟩ => ⟨name, children, beans, inputs, sockets⟩,
      fun named => ⟨named.name, named.children, named.beans, named.inputs, named.sockets⟩⟩

/-- The names of beans and sockets may be any, as long as they differ. -/
structure WellNamed (declarations : List ModuleDeclaration) : Prop where
  roots : (declarations.map (·.name)).Nodup
  inside : ∀ declaration ∈ forestPreorder declarations, declaration.WellNamed

instance (declarations : List ModuleDeclaration) : Decidable (WellNamed declarations) :=
  decidable_of_iff
    ((declarations.map (·.name)).Nodup ∧
      ∀ declaration ∈ forestPreorder declarations, declaration.WellNamed)
    ⟨fun ⟨roots, inside⟩ => ⟨roots, inside⟩, fun named => ⟨named.roots, named.inside⟩⟩

namespace Model

/-! ## Models -/

/-- Names tell apart modules, the beans of a module and the sockets of an owner. -/
structure ToldApart (model : Model) : Prop extends model.NamesApart where
  sockets : ∀ owner ∈ model.owners,
    ((model.socketsOf owner).map fun socket => (model.socket socket).name).Nodup

variable {model : Model}

namespace ToldApart

variable (apart : model.ToldApart) (wellFormed : model.WellFormed)

include apart wellFormed

theorem eq_of_bean {left right : BeanId} (leftKnown : left ∈ model.beanIds)
    (rightKnown : right ∈ model.beanIds)
    (paths : model.path (model.bean left).module = model.path (model.bean right).module)
    (names : (model.bean left).name = (model.bean right).name) : left = right := by
  have leftPlace := wellFormed.bean_module left leftKnown
  have modules := apart.eq_of_path leftPlace (wellFormed.bean_module right rightKnown) paths
  exact List.inj_on_of_nodup_map (apart.beans _ leftPlace)
    ((wellFormed.beans _ leftPlace left).mpr ⟨leftKnown, rfl⟩)
    ((wellFormed.beans _ leftPlace right).mpr ⟨rightKnown, modules.symm⟩) names

/-- The owner of a socket is known by its own name and the path of its module. -/
theorem owner_eq {left right : SocketId} (leftKnown : left ∈ model.socketIds)
    (rightKnown : right ∈ model.socketIds)
    (paths : model.path (model.socket left).module = model.path (model.socket right).module)
    (owners : model.ownerName? (model.socket left) = model.ownerName? (model.socket right)) :
    (model.socket left).owner = (model.socket right).owner := by
  unfold ownerName? at owners
  cases isLeft : (model.socket left).owner with
  | module leftOwner =>
      cases isRight : (model.socket right).owner with
      | module rightOwner =>
          rcases wellFormed.owner_module left leftKnown leftOwner isLeft with ⟨leftOf, leftIn⟩
          rcases wellFormed.owner_module right rightKnown rightOwner isRight with
            ⟨rightOf, rightIn⟩
          rw [leftIn, rightIn] at paths
          rw [apart.eq_of_path leftOf rightOf paths]
      | bean rightOwner =>
          rw [isLeft, isRight] at owners
          cases owners
  | bean leftOwner =>
      cases isRight : (model.socket right).owner with
      | module rightOwner =>
          rw [isLeft, isRight] at owners
          cases owners
      | bean rightOwner =>
          rcases wellFormed.owner_bean left leftKnown leftOwner isLeft with ⟨leftOf, leftIn⟩
          rcases wellFormed.owner_bean right rightKnown rightOwner isRight with
            ⟨rightOf, rightIn⟩
          rw [isLeft, isRight] at owners
          rw [leftIn, rightIn] at paths
          rw [apart.eq_of_bean wellFormed leftOf rightOf paths (Option.some.inj owners)]

theorem eq_of_socket {left right : SocketId} (leftKnown : left ∈ model.socketIds)
    (rightKnown : right ∈ model.socketIds)
    (paths : model.path (model.socket left).module = model.path (model.socket right).module)
    (owners : model.ownerName? (model.socket left) = model.ownerName? (model.socket right))
    (names : (model.socket left).name = (model.socket right).name) : left = right := by
  have sameOwner := apart.owner_eq wellFormed leftKnown rightKnown paths owners
  have known := (wellFormed.socket_owner (wellFormed.socket_mem leftKnown).1).1
  exact List.inj_on_of_nodup_map (apart.sockets _ known)
    ((wellFormed.mem_socketsOf known).mpr ⟨leftKnown, rfl⟩)
    ((wellFormed.mem_socketsOf known).mpr ⟨rightKnown, sameOwner.symm⟩) names

end ToldApart

/-- Identifiers that differ among the roots and among children make different paths. -/
theorem WellFormed.paths_nodup (wellFormed : model.WellFormed)
    (valid : ∀ id ∈ model.moduleIds, Naming.isIdentifier (model.module id).name = true)
    (rootNames : (model.roots.map fun id => (model.module id).name).Nodup)
    (childNames : ∀ id ∈ model.moduleIds,
      ((model.module id).children.map fun child => (model.module child).name).Nodup) :
    (model.moduleIds.map model.path).Nodup := by
  apply wellFormed.moduleIds_nodup.map_on
  intro left leftKnown right rightKnown same
  apply wellFormed.eq_of_named_path (fun _ => True) (fun id known _ => valid id known) _ leftKnown
    rightKnown (fun _ _ => trivial) (fun _ _ => trivial) same
  intro first second firstKnown secondKnown siblings _ _ names
  cases isParent : model.parent first with
  | none =>
      exact List.inj_on_of_nodup_map rootNames
        ((wellFormed.roots first).mpr ⟨firstKnown, isParent⟩)
        ((wellFormed.roots second).mpr ⟨secondKnown, siblings.symm.trans isParent⟩) names
  | some parent =>
      have known := wellFormed.parent_known firstKnown isParent
      exact List.inj_on_of_nodup_map (childNames parent known)
        ((wellFormed.children parent known first).mpr ⟨firstKnown, isParent⟩)
        ((wellFormed.children parent known second).mpr
          ⟨secondKnown, siblings.symm.trans isParent⟩) names

theorem Faultless.moduleName_valid (faultless : model.Faultless) {id : ModuleId}
    (known : id ∈ model.moduleIds) : Naming.isIdentifier (model.module id).name = true := by
  simpa [moduleFaults] using faultless.module id known

theorem Faultless.toldApart (faultless : model.Faultless) (wellFormed : model.WellFormed) :
    model.ToldApart where
  paths := wellFormed.paths_nodup (fun _ => faultless.moduleName_valid) faultless.rootNames
    faultless.childNames
  beans := faultless.beanNames
  sockets := by
    intro owner known
    apply nodup_of_not_repeated (wellFormed.socketsOf_placed known)
    intro socket listed
    rcases List.mem_append.mp known with ofModule | ofBean
    · rcases List.mem_map.mp ofModule with ⟨id, idKnown, rfl⟩
      have clean := faultless.moduleSocket id idKnown socket listed
      simp only [moduleSocketFaults, List.append_eq_nil_iff, faultIf_eq_nil] at clean
      exact clean.1.2
    · rcases List.mem_map.mp ofBean with ⟨id, idKnown, rfl⟩
      have clean := faultless.beanSocket id idKnown socket listed
      simp only [beanSocketFaults, List.append_eq_nil_iff, faultIf_eq_nil] at clean
      exact clean.1.2

/-! ## From declarations to models -/

theorem declaredSockets_names (sockets : List SocketId) :
    (model.declaredSockets sockets).map (·.name) =
      sockets.map fun socket => (model.socket socket).name := by
  rw [declaredSockets, List.map_map]
  rfl

theorem BeanHolds.name {declaration : BeanDeclaration} {bean : Bean}
    (holds : model.BeanHolds declaration bean) : bean.name = declaration.name :=
  congrArg BeanDeclaration.name holds.declared

namespace ModuleHolds

variable {order : List ModuleDeclaration} {declaration : ModuleDeclaration} {module : Module}
  (holds : model.ModuleHolds order declaration module)

include holds

theorem beanNames :
    (module.beans.map fun bean => (model.bean bean).name) = declaration.beans.map (·.name) := by
  rw [← List.forall₂_eq_eq_eq, List.forall₂_map_left_iff, List.forall₂_map_right_iff]
  exact holds.beans.flip.imp fun _ _ held => held.name

theorem exists_bean {id : BeanId} (listed : id ∈ module.beans) :
    ∃ bean ∈ declaration.beans, model.BeanHolds bean (model.bean id) := by
  rcases List.getElem_of_mem listed with ⟨place, bound, rfl⟩
  have inside : place < declaration.beans.length := by
    rwa [holds.beans.length_eq]
  exact ⟨declaration.beans[place], List.getElem_mem inside, holds.beans.get inside bound⟩

end ModuleHolds

namespace Arranged

variable {declarations : List ModuleDeclaration} (arranged : model.Arranged declarations)

include arranged

theorem exists_declaration {id : ModuleId} (known : id ∈ model.moduleIds) :
    ∃ declaration, (forestPreorder declarations)[id.index]? = some declaration ∧
      model.ModuleHolds (forestPreorder declarations) declaration (model.module id) := by
  have bound := arranged.mem_moduleIds.mp known
  have inside : id.index < (forestPreorder declarations).length := by
    rwa [arranged.modules_hold.length_eq]
  refine ⟨(forestPreorder declarations)[id.index], List.getElem?_eq_getElem inside, ?_⟩
  have isModule : model.module id = model.modules[id.index] := by
    rw [Model.module, List.getD_eq_getElem?_getD, List.getElem?_eq_getElem bound]
    rfl
  rw [isModule]
  exact arranged.modules_hold.get inside bound

/-- Listed modules have the names of the declarations that they come from. -/
theorem names_of_listed {ids : List ModuleId} {modules : List ModuleDeclaration}
    (known : ∀ id ∈ ids, id ∈ model.moduleIds)
    (listed : ids.map (fun id => (forestPreorder declarations)[id.index]?) = modules.map some) :
    (ids.map fun id => (model.module id).name) = modules.map (·.name) := by
  have names := congrArg (List.map (Option.map (·.name))) listed
  rw [List.map_map, List.map_map] at names
  apply List.map_injective_iff.mpr (Option.some_injective _)
  rw [List.map_map, List.map_map]
  refine Eq.trans (List.map_congr_left fun id member => ?_) names
  rcases arranged.exists_declaration (known id member) with ⟨declaration, found, holds⟩
  rw [Function.comp_apply, Function.comp_apply, found, holds.name]
  rfl

theorem toldApart (wellNamed : WellNamed declarations) : model.ToldApart := by
  have holds : ∀ id ∈ model.moduleIds, ∃ declaration : ModuleDeclaration, declaration.WellNamed ∧
      model.ModuleHolds (forestPreorder declarations) declaration (model.module id) := by
    intro id known
    rcases arranged.exists_declaration known with ⟨declaration, found, holds⟩
    exact ⟨declaration, wellNamed.inside _ (List.mem_of_getElem? found), holds⟩
  constructor
  case toNamesApart =>
    constructor
    case paths =>
      apply arranged.paths_nodup
      · intro id known
        rcases holds id known with ⟨declaration, named, held⟩
        rw [held.name]
        exact named.name
      · rw [arranged.names_of_listed (fun id listed => ((arranged.roots id).mp listed).1)
          arranged.roots_hold]
        exact wellNamed.roots
      · intro id known
        rcases holds id known with ⟨declaration, named, held⟩
        rw [arranged.names_of_listed
          (fun child listed => ((arranged.children id known child).mp listed).1) held.children]
        exact named.children
    case beans =>
      intro id known
      rcases holds id known with ⟨declaration, named, held⟩
      rw [held.beanNames]
      exact named.beans
  case sockets =>
    intro owner known
    rw [← declaredSockets_names]
    rcases List.mem_append.mp known with ofModule | ofBean
    · rcases List.mem_map.mp ofModule with ⟨id, idKnown, rfl⟩
      rcases holds id idKnown with ⟨declaration, named, held⟩
      rw [socketsOf, held.sockets]
      exact named.inputs
    · rcases List.mem_map.mp ofBean with ⟨id, idKnown, rfl⟩
      have place := arranged.bean_module id idKnown
      rcases holds _ place with ⟨declaration, named, held⟩
      rcases held.exists_bean ((arranged.beans _ place id).mpr ⟨idKnown, rfl⟩) with
        ⟨bean, inside, beanHeld⟩
      have sockets := congrArg BeanDeclaration.sockets beanHeld.declared
      rw [socketsOf, show model.declaredSockets (model.bean id).sockets = bean.sockets from sockets]
      exact named.sockets bean inside

end Arranged

end Model

end StaticInjection
