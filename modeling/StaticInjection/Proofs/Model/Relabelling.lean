import StaticInjection.Proofs.Model.Reordered
import StaticInjection.Proofs.Model.Tree

/-! # Models under other labels

The labels of modules, beans and sockets are their places in a model. A model matches
another one when some relabelling takes every row of the one to a row of the other,
and every reference along with it. -/

namespace StaticInjection

/-! ## Labels -/

/-- Other labels for modules, beans and sockets. -/
structure Relabelling where
  module : ModuleId → ModuleId
  bean : BeanId → BeanId
  socket : SocketId → SocketId

namespace Relabelling

/-! ## Lists of counterparts -/

section Lists

variable {label : α → β}

/-- Lists without repetition match when they hold counterparts. -/
theorem perm_of_mem_iff {known : List α} {knownOthers : List β}
    (covers : knownOthers.Perm (known.map label)) (apart : knownOthers.Nodup)
    {items : List α} {others : List β} (nodup : others.Nodup) (itemsNodup : items.Nodup)
    (inside : ∀ item ∈ items, item ∈ known) (othersInside : ∀ other ∈ others, other ∈ knownOthers)
    (same : ∀ item ∈ known, label item ∈ others ↔ item ∈ items) :
    others.Perm (items.map label) := by
  have injective := List.inj_on_of_nodup_map (covers.nodup_iff.mp apart)
  have mapped := itemsNodup.map_on fun first firstInside second secondInside =>
    injective (inside first firstInside) (inside second secondInside)
  refine (List.perm_ext_iff_of_nodup nodup mapped).mpr fun other => ?_
  rw [List.mem_map]
  constructor
  · intro listed
    obtain ⟨item, itemKnown, rfl⟩ :=
      List.mem_map.mp (covers.mem_iff.mp (othersInside other listed))
    exact ⟨item, (same item itemKnown).mp listed, rfl⟩
  · rintro ⟨item, listed, rfl⟩
    exact (same item (inside item listed)).mpr listed

variable {items : List α} {others : List β} (perm : others.Perm (items.map label))

include perm

theorem map_perm {read : α → γ} {readOther : β → γ}
    (same : ∀ item ∈ items, readOther (label item) = read item) :
    (others.map readOther).Perm (items.map read) := by
  refine (perm.map _).trans (.of_eq ?_)
  rw [List.map_map]
  exact List.map_congr_left same

theorem flatMap_perm {read : α → List γ} {readOther : β → List γ}
    (same : ∀ item ∈ items, (readOther (label item)).Perm (read item)) :
    (others.flatMap readOther).Perm (items.flatMap read) := by
  refine (perm.flatMap_right _).trans ?_
  rw [List.flatMap_map]
  exact List.Perm.flatMap_left _ same

theorem filter_perm {keeps : α → Bool} {keepsOther : β → Bool}
    (same : ∀ item ∈ items, keepsOther (label item) = keeps item) :
    (others.filter keepsOther).Perm ((items.filter keeps).map label) := by
  refine (perm.filter _).trans (.of_eq ?_)
  rw [List.filter_map]
  exact congrArg _ (List.filter_congr same)

end Lists

/-! ## Rows under other labels -/

variable (labels : Relabelling)

def provider : Provider → Provider
  | .bean id => .bean (labels.bean id)
  | .socket id => .socket (labels.socket id)

def owner : SocketOwner → SocketOwner
  | .bean id => .bean (labels.bean id)
  | .module id => .module (labels.module id)

def socketRow (socket : Socket) : Socket :=
  { socket with
    id := labels.socket socket.id
    owner := labels.owner socket.owner
    module := labels.module socket.module }

def beanRow (bean : Bean) : Bean :=
  { bean with
    id := labels.bean bean.id
    module := labels.module bean.module
    sockets := bean.sockets.map labels.socket }

def moduleRow (module : Module) : Module :=
  { module with
    id := labels.module module.id
    ancestors := module.ancestors.map labels.module
    children := module.children.map labels.module
    beans := module.beans.map labels.bean
    sockets := module.sockets.map labels.socket
    wiredModules := module.wiredModules.map labels.module }

/-- Every module, bean and socket of one model gets its own label among those of another. -/
structure Covers (left right : Model) : Prop where
  modules : right.moduleIds.Perm (left.moduleIds.map labels.module)
  beans : right.beanIds.Perm (left.beanIds.map labels.bean)
  sockets : right.socketIds.Perm (left.socketIds.map labels.socket)

/-- A model is another one under other labels. Modules may list their children, beans
and wired siblings in another order, and so beans may have other indices. -/
structure Matches (left right : Model) : Prop extends labels.Covers left right where
  roots : right.roots.Perm (left.roots.map labels.module)
  moduleRows : ∀ id ∈ left.moduleIds, ∃ children beans wiredModules,
    children.Perm (labels.moduleRow (left.module id)).children ∧
    beans.Perm (labels.moduleRow (left.module id)).beans ∧
    wiredModules.Perm (labels.moduleRow (left.module id)).wiredModules ∧
    right.module (labels.module id) =
      { labels.moduleRow (left.module id) with children, beans, wiredModules }
  beanRows : ∀ id ∈ left.beanIds, ∃ index,
    right.bean (labels.bean id) = { labels.beanRow (left.bean id) with index }
  socketRows : ∀ id ∈ left.socketIds,
    right.socket (labels.socket id) = labels.socketRow (left.socket id)

end Relabelling

namespace Model.WellFormed

variable {model : Model} (wellFormed : model.WellFormed)

include wellFormed

theorem beanIds_nodup : model.beanIds.Nodup := by
  have placed : model.beanIds.map (·.index) = List.range' 0 model.beans.length := by
    rw [beanIds, List.map_map]
    exact wellFormed.beans_numbered
  exact .of_map _ (placed ▸ List.nodup_range')

theorem socketIds_nodup : model.socketIds.Nodup := by
  have placed : model.socketIds.map (·.index) = List.range' 0 model.sockets.length := by
    rw [socketIds, List.map_map]
    exact wellFormed.sockets_numbered
  exact .of_map _ (placed ▸ List.nodup_range')

end Model.WellFormed

namespace Relabelling.Covers

variable {labels : Relabelling} {left right : Model} (covers : labels.Covers left right)

include covers

theorem module_known {id : ModuleId} (known : id ∈ left.moduleIds) :
    labels.module id ∈ right.moduleIds :=
  covers.modules.mem_iff.mpr (List.mem_map_of_mem known)

theorem bean_known {id : BeanId} (known : id ∈ left.beanIds) :
    labels.bean id ∈ right.beanIds :=
  covers.beans.mem_iff.mpr (List.mem_map_of_mem known)

theorem socket_known {id : SocketId} (known : id ∈ left.socketIds) :
    labels.socket id ∈ right.socketIds :=
  covers.sockets.mem_iff.mpr (List.mem_map_of_mem known)

theorem exists_module {other : ModuleId} (known : other ∈ right.moduleIds) :
    ∃ id ∈ left.moduleIds, labels.module id = other :=
  List.mem_map.mp (covers.modules.mem_iff.mp known)

theorem exists_bean {other : BeanId} (known : other ∈ right.beanIds) :
    ∃ id ∈ left.beanIds, labels.bean id = other :=
  List.mem_map.mp (covers.beans.mem_iff.mp known)

theorem exists_socket {other : SocketId} (known : other ∈ right.socketIds) :
    ∃ id ∈ left.socketIds, labels.socket id = other :=
  List.mem_map.mp (covers.sockets.mem_iff.mp known)

variable (rightFormed : right.WellFormed)

include rightFormed

theorem module_injective {first second : ModuleId} (firstKnown : first ∈ left.moduleIds)
    (secondKnown : second ∈ left.moduleIds) (same : labels.module first = labels.module second) :
    first = second :=
  List.inj_on_of_nodup_map (covers.modules.nodup_iff.mp rightFormed.moduleIds_nodup)
    firstKnown secondKnown same

theorem bean_injective {first second : BeanId} (firstKnown : first ∈ left.beanIds)
    (secondKnown : second ∈ left.beanIds) (same : labels.bean first = labels.bean second) :
    first = second :=
  List.inj_on_of_nodup_map (covers.beans.nodup_iff.mp rightFormed.beanIds_nodup)
    firstKnown secondKnown same

theorem socket_injective {first second : SocketId} (firstKnown : first ∈ left.socketIds)
    (secondKnown : second ∈ left.socketIds) (same : labels.socket first = labels.socket second) :
    first = second :=
  List.inj_on_of_nodup_map (covers.sockets.nodup_iff.mp rightFormed.socketIds_nodup)
    firstKnown secondKnown same

end Relabelling.Covers

namespace Model

/-! ## Names that tell apart -/

/-- No two modules have one path, and no two beans of a module one name. -/
structure NamesApart (model : Model) : Prop where
  paths : (model.moduleIds.map model.path).Nodup
  beans : ∀ id ∈ model.moduleIds,
    ((model.module id).beans.map fun bean => (model.bean bean).name).Nodup

/-- A module is wired to the other siblings with the names that it declares. -/
structure WiredByName (model : Model) : Prop where
  nodup : ∀ id ∈ model.moduleIds, (model.module id).wiredModules.Nodup
  wired : ∀ id ∈ model.moduleIds, ∀ sibling, sibling ∈ (model.module id).wiredModules ↔
    sibling ∈ model.moduleIds ∧ sibling ≠ id ∧ model.parent sibling = model.parent id ∧
      (model.module sibling).name ∈ (model.module id).wiredNames

theorem NamesApart.eq_of_path {model : Model} (apart : model.NamesApart) {left right : ModuleId}
    (leftKnown : left ∈ model.moduleIds) (rightKnown : right ∈ model.moduleIds)
    (same : model.path left = model.path right) : left = right :=
  List.inj_on_of_nodup_map apart.paths leftKnown rightKnown same

theorem NamesApart.eq_of_sibling_name {model : Model} (wellFormed : model.WellFormed)
    (apart : model.NamesApart) {left right : ModuleId} (leftKnown : left ∈ model.moduleIds)
    (rightKnown : right ∈ model.moduleIds) (siblings : model.parent left = model.parent right)
    (same : (model.module left).name = (model.module right).name) : left = right := by
  refine apart.eq_of_path leftKnown rightKnown ?_
  cases isParent : model.parent right with
  | none =>
      rw [wellFormed.path_root left leftKnown (siblings.trans isParent),
        wellFormed.path_root right rightKnown isParent, same]
  | some parent =>
      rw [wellFormed.path_child left leftKnown parent (siblings.trans isParent),
        wellFormed.path_child right rightKnown parent isParent, same]

theorem NamesApart.of_views {left right : Model} (apart : left.NamesApart)
    (views : (left.moduleIds.map left.view).Perm (right.moduleIds.map right.view)) :
    right.NamesApart := by
  constructor
  · have paths := views.map ModuleView.path
    rw [List.map_map, List.map_map] at paths
    exact paths.nodup_iff.mp apart.paths
  · intro other known
    obtain ⟨id, idKnown, same⟩ := List.mem_map.mp (views.mem_iff.mpr (List.mem_map_of_mem known))
    have beans := Multiset.coe_eq_coe.mp (congrArg ModuleView.beans same)
    have names := beans.map BeanDeclaration.name
    rw [List.map_map, List.map_map] at names
    exact names.nodup_iff.mp (apart.beans id idKnown)

theorem ofDeclarations_wiredByName {declarations : List ModuleDeclaration}
    (apart : (ofDeclarations declarations).NamesApart) :
    (ofDeclarations declarations).WiredByName := by
  have wellFormed := ofDeclarations_wellFormed declarations
  have holds : ∀ id ∈ (ofDeclarations declarations).moduleIds, ∃ declaration,
      (ofDeclarations declarations).ModuleHolds (forestPreorder declarations) declaration
        ((ofDeclarations declarations).module id) := by
    intro id known
    obtain ⟨site, inside, rfl⟩ := mem_moduleIds_site.mp known
    exact ⟨_, module_site inside ▸ module_holds inside⟩
  constructor
  · intro id known
    obtain ⟨declaration, holds⟩ := holds id known
    exact holds.wired_nodup
  · intro id known sibling
    obtain ⟨declaration, holds⟩ := holds id known
    have isId := (wellFormed.module_mem known).2
    rw [holds.wiredNames]
    constructor
    · intro listed
      obtain ⟨siblingKnown, different, isSibling, named⟩ := holds.wired sibling listed
      exact ⟨siblingKnown, isId ▸ different, isSibling, named⟩
    · rintro ⟨siblingKnown, different, isSibling, named⟩
      have listed : sibling ∈ (ofDeclarations declarations).siblings
          ((ofDeclarations declarations).module id) := by
        rw [siblings]
        cases isParent : (ofDeclarations declarations).parent id with
        | none =>
            rw [show ((ofDeclarations declarations).module id).parent = none from isParent]
            exact (wellFormed.roots sibling).mpr ⟨siblingKnown, isSibling.trans isParent⟩
        | some parent =>
            rw [show ((ofDeclarations declarations).module id).parent = some parent from isParent]
            exact (wellFormed.children parent (wellFormed.parent_known known isParent) sibling).mpr
              ⟨siblingKnown, isSibling.trans isParent⟩
      obtain ⟨wired, found, sameName⟩ :=
        holds.wired_found sibling listed (isId.symm ▸ different) named
      obtain ⟨wiredKnown, _, wiredSibling, _⟩ := holds.wired wired found
      exact apart.eq_of_sibling_name wellFormed wiredKnown siblingKnown
        (Eq.trans wiredSibling isSibling.symm) sameName ▸ found

end Model

end StaticInjection
