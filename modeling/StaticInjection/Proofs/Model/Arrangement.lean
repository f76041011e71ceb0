import Mathlib.Data.List.Forall2
import Mathlib.Data.List.Nodup
import StaticInjection.Model.Fault
import StaticInjection.Proofs.Model.Preorder

/-! # The arrangement of a model

A model of declarations holds them all and adds nothing to them: every row says
what its declaration says, stands at its own number, and is listed at its index
by the row that owns it and by no other. -/

namespace StaticInjection

theorem Numbered.getElem?_eq_some {number : α → Nat} {items : List α}
    (numbered : Numbered number 0 items) {item : α} {place : Nat} :
    items[place]? = some item ↔ item ∈ items ∧ place = number item := by
  constructor
  · intro found
    obtain ⟨inside, rfl⟩ := List.getElem?_eq_some_iff.mp found
    exact ⟨List.getElem_mem inside, by simp [numbered.getElem inside]⟩
  · rintro ⟨member, rfl⟩
    exact numbered.getElem?_number member

/-! ## What rows say -/

/-- The declaration of a socket as a model has it. -/
def Socket.declared (socket : Socket) : SocketDeclaration where
  name := socket.name
  requiredType := socket.requiredType
  qualifier := socket.qualifier
  multiplicity := socket.multiplicity
  isLazy := socket.isLazy
  wiredTo := socket.wiredTo
  position := socket.position

namespace Model

def declaredSockets (model : Model) (sockets : List SocketId) : List SocketDeclaration :=
  sockets.map fun socket => (model.socket socket).declared

/-- The declaration of a bean as a model has it, which has all its types. -/
def declaredBean (model : Model) (bean : Bean) : BeanDeclaration where
  name := bean.name
  declaredType := bean.declaredType
  provides := bean.provides
  qualifier := bean.qualifier
  lifetime := bean.lifetime
  visibility := bean.visibility
  isDefault := bean.isDefault
  factory := bean.factory
  init := bean.init
  destroy := bean.destroy
  sockets := model.declaredSockets bean.sockets
  position := bean.position

def socketsOf (model : Model) : SocketOwner → List SocketId
  | .bean id => (model.bean id).sockets
  | .module id => (model.module id).sockets

def moduleOf (model : Model) : SocketOwner → ModuleId
  | .bean id => (model.bean id).module
  | .module id => id

def owners (model : Model) : List SocketOwner :=
  model.moduleIds.map .module ++ model.beanIds.map .bean

structure BeanHolds (model : Model) (declaration : BeanDeclaration) (bean : Bean) :
    Prop where
  declared : model.declaredBean bean = { declaration with provides := bean.provides }
  declaredType_first : bean.provides.head? = some bean.declaredType
  provides_nodup : bean.provides.Nodup
  mem_provides : ∀ type, type ∈ bean.provides ↔
    type = declaration.declaredType ∨ type ∈ declaration.provides

/-- A module says what its declaration says, with the declarations of all modules
in their order. -/
structure ModuleHolds (model : Model) (order : List ModuleDeclaration)
    (declaration : ModuleDeclaration) (module : Module) : Prop where
  name : module.name = declaration.name
  position : module.position = declaration.position
  wiredNames : module.wiredNames = declaration.wiredModules
  sockets : model.declaredSockets module.sockets = declaration.sockets
  beans : List.Forall₂ (fun bean id => model.BeanHolds bean (model.bean id))
    declaration.beans module.beans
  children : module.children.map (fun child => order[child.index]?) =
    declaration.modules.map some
  /-- A subtree takes the numbers from that of its root on, without a gap. -/
  subtree : ∀ other ∈ model.moduleIds, model.isWithin other module.id = true ↔
    module.id.index ≤ other.index ∧
      other.index < module.id.index + declaration.preorder.length
  wired_nodup : module.wiredModules.Nodup
  wired : ∀ sibling ∈ module.wiredModules,
    sibling ∈ model.moduleIds ∧ sibling ≠ module.id ∧
      model.parent sibling = module.parent ∧
      (model.module sibling).name ∈ declaration.wiredModules
  wired_found : ∀ sibling ∈ model.siblings module, sibling ≠ module.id →
    (model.module sibling).name ∈ declaration.wiredModules →
    ∃ wired ∈ module.wiredModules, (model.module wired).name = (model.module sibling).name

/-- A well-formed model that holds some declarations, each at its place. -/
structure Arranged (model : Model) (declarations : List ModuleDeclaration) : Prop extends
    model.WellFormed where
  modules_hold : List.Forall₂ (model.ModuleHolds (forestPreorder declarations))
    (forestPreorder declarations) model.modules
  roots_hold : model.roots.map (fun root => (forestPreorder declarations)[root.index]?) =
    declarations.map some
  /-- Every module is listed once where the children of its parent are, or the roots. -/
  module_listed : ∀ module ∈ model.modules, (model.siblings module).count module.id = 1
  /-- A bean is listed once, by its module, and at its index. -/
  bean_listed : ∀ bean ∈ model.beans, ∀ module ∈ model.modules, ∀ place,
    module.beans[place]? = some bean.id ↔ module.id = bean.module ∧ place = bean.index
  bean_order : ∀ left ∈ model.beans, ∀ right ∈ model.beans,
    left.id.index < right.id.index ↔
      left.module.index < right.module.index ∨
        left.module = right.module ∧ left.index < right.index
  socket_owner : ∀ socket ∈ model.sockets,
    socket.owner ∈ model.owners ∧ socket.module = model.moduleOf socket.owner
  /-- A socket is listed once, by its owner, and at its index. -/
  socket_listed : ∀ socket ∈ model.sockets, ∀ owner ∈ model.owners, ∀ place,
    (model.socketsOf owner)[place]? = some socket.id ↔
      owner = socket.owner ∧ place = socket.index

end Model

/-! ## Rows of beans and sockets -/

theorem Layout.ofSockets_declared (owner : SocketOwner) (module : ModuleId)
    (start index : Nat) (sockets : List SocketDeclaration) :
    (ofSockets owner module start index sockets).map (·.declared) = sockets := by
  induction sockets generalizing start index with
  | nil => rfl
  | cons socket rest induction => exact congrArg _ (induction (start + 1) (index + 1))

/-- The beans of a list of declarations are theirs in order, and so are the sockets. -/
theorem Layout.ofBeans_rows (module : ModuleId) (start : Extent) (index : Nat)
    (beans : List BeanDeclaration) :
    List.Forall₂ (fun declaration bean =>
        bean ∈ (ofBeans module start index beans).beans ∧
        ∃ start' index', bean = ofBean module start' index' declaration ∧
          ∀ socket ∈ ofSockets (.bean bean.id) module start'.sockets 0 declaration.sockets,
            socket ∈ (ofBeans module start index beans).sockets)
      beans (ofBeans module start index beans).beans := by
  induction beans generalizing start index with
  | nil => exact .nil
  | cons bean rest induction =>
      refine .cons ⟨List.mem_cons_self, start, index, rfl, ?_⟩ ?_
      · exact fun socket member => List.mem_append_left _ member
      · refine (induction _ (index + 1)).imp ?_
        rintro declaration row ⟨member, start', index', equal, sockets⟩
        exact ⟨List.mem_cons_of_mem _ member, start', index', equal,
          fun socket inside => List.mem_append_right _ (sockets socket inside)⟩

section Application

variable {declarations : List ModuleDeclaration}

open Model

theorem declaredSockets_ofSockets {site : Site}
    (member : site ∈ applicationSites declarations) {owner : SocketOwner} {start : Nat}
    {sockets : List SocketDeclaration}
    (rows : ∀ socket ∈ Layout.ofSockets owner site.id start 0 sockets, socket ∈ site.sockets) :
    (ofDeclarations declarations).declaredSockets
        (Layout.socketIds start sockets.length) = sockets := by
  rw [← Layout.ofSockets_ids owner site.id start 0, declaredSockets, List.map_map,
    List.map_congr_left (g := (·.declared))]
  · exact Layout.ofSockets_declared _ _ _ _ _
  · exact fun socket inside => congrArg Socket.declared (socket_row member (rows socket inside)).2

theorem bean_holds {site : Site} (member : site ∈ applicationSites declarations)
    {start : Extent} {index : Nat} {declaration : BeanDeclaration}
    (rows : ∀ socket ∈ Layout.ofSockets (.bean ⟨start.beans⟩) site.id start.sockets 0
      declaration.sockets, socket ∈ site.sockets) :
    (ofDeclarations declarations).BeanHolds declaration
      (Layout.ofBean site.id start index declaration) where
  declared := by
    rw [declaredBean]
    exact congrArg (fun sockets => { declaration with
      provides := (declaration.declaredType :: declaration.provides).eraseDups
      sockets := sockets }) (declaredSockets_ofSockets member rows)
  declaredType_first := by simp [Layout.ofBean, List.eraseDups_cons]
  provides_nodup := nodup_eraseDups _
  mem_provides type := by simp [Layout.ofBean]

/-- The beans that a module lists are those that it declares. -/
theorem module_beans_hold {site : Site} (member : site ∈ applicationSites declarations) :
    List.Forall₂ (fun bean id => (ofDeclarations declarations).BeanHolds bean
        ((ofDeclarations declarations).bean id))
      site.declaration.beans site.module.beans := by
  have ids : site.beanRows.beans.map (·.id) = site.module.beans :=
    Layout.ofBeans_beans_ids site.id site.beansStart 0 site.declaration.beans
  rw [← ids, List.forall₂_map_right_iff]
  refine (Layout.ofBeans_rows site.id site.beansStart 0 site.declaration.beans).imp ?_
  rintro declaration bean ⟨row, start, index, rfl, rows⟩
  rw [(bean_row member row).2]
  exact bean_holds member fun socket inside => List.mem_append_right _ (rows socket inside)

/-! ## Kin -/

theorem siblings_site {site : Site} (member : site ∈ applicationSites declarations) :
    (ofDeclarations declarations).siblings site.module = site.siblings.map (·.1) := by
  have isParent := parent_site member
  rw [Model.parent, module_site member] at isParent
  rw [siblings, isParent]
  rcases site_kin member with ⟨around, siblings, _⟩ | ⟨parent, inside, kin⟩
  · rw [around, siblings]
    rfl
  · rw [kin.around, kin.siblings]
    exact congrArg Module.children (module_site inside)

/-- A sibling has the name that it is listed with, and the same parent. -/
theorem sibling_site {site : Site} (member : site ∈ applicationSites declarations)
    {sibling : ModuleId × String} (listed : sibling ∈ site.siblings) :
    sibling.1 ∈ (ofDeclarations declarations).moduleIds ∧
      ((ofDeclarations declarations).module sibling.1).name = sibling.2 ∧
      (ofDeclarations declarations).parent sibling.1 = site.module.parent := by
  have same : ∃ other ∈ applicationSites declarations,
      (other.id, other.name) = sibling ∧ other.around = site.around := by
    rcases site_kin member with ⟨around, siblings, _⟩ | ⟨parent, inside, kin⟩
    · rw [siblings] at listed
      obtain ⟨other, otherInside, same, otherAround, _⟩ := exists_root_site .none
        (Layout.forestRoots 0 declarations) .zero listed
      exact ⟨other, otherInside, same, otherAround.trans around.symm⟩
    · rw [kin.siblings] at listed
      obtain ⟨other, otherInside, same, otherKin⟩ := exists_child_site inside listed
      exact ⟨other, otherInside, same, otherKin.around.trans kin.around.symm⟩
  obtain ⟨other, inside, rfl, around⟩ := same
  refine ⟨mem_moduleIds_site.mpr ⟨other, inside, rfl⟩, ?_, ?_⟩
  · exact congrArg Module.name (module_site inside)
  · exact (parent_site inside).trans (congrArg (·.lineage.head?) around)

theorem exists_wiredSibling {siblings : List (ModuleId × String)} {self : ModuleId}
    {names : List String} {sibling : ModuleId × String} (listed : sibling ∈ siblings)
    (different : sibling.1 ≠ self) (named : sibling.2 ∈ names) :
    ∃ id ∈ Layout.wiredSiblings siblings self names, (id, sibling.2) ∈ siblings := by
  obtain ⟨⟨id, name⟩, found⟩ : ∃ entry, siblings.find?
      (fun entry => entry.1 != self && entry.2 == sibling.2) = some entry := by
    rw [← Option.isSome_iff_exists, List.find?_isSome]
    exact ⟨sibling, listed, by simp [different]⟩
  have matching := List.find?_some found
  simp only [Bool.and_eq_true, beq_iff_eq] at matching
  refine ⟨id, ?_, matching.2 ▸ List.mem_of_find?_eq_some found⟩
  rw [Layout.wiredSiblings, List.mem_eraseDups, List.mem_filterMap]
  exact ⟨sibling.2, named, congrArg (Option.map Prod.fst) found⟩

/-- The modules within a module are those of its subtree. -/
theorem isWithin_site_iff {site : Site} (member : site ∈ applicationSites declarations)
    {other : ModuleId} (known : other ∈ (ofDeclarations declarations).moduleIds) :
    (ofDeclarations declarations).isWithin other site.id = true ↔
      ∃ below ∈ site.subtree, below.id = other := by
  have wellFormed := ofDeclarations_wellFormed declarations
  have part : ∀ below ∈ site.subtree, below ∈ applicationSites declarations :=
    (subtree_infix_forestSites _ _ _ _ site member).subset
  refine wellFormed.descend (motive := fun other =>
    (ofDeclarations declarations).isWithin other site.id = true ↔
      ∃ below ∈ site.subtree, below.id = other) ?_ known
  intro other known above
  constructor
  · intro within
    by_cases same : other = site.id
    · exact ⟨site, site.mem_subtree_self, same.symm⟩
    cases isParent : (ofDeclarations declarations).parent other with
    | none => exact absurd ((WellFormed.isWithin_of_root isParent).mp within) same
    | some parent =>
        have parentWithin :=
          ((wellFormed.isWithin_of_parent known isParent).mp within).resolve_left same
        obtain ⟨upper, inside, rfl⟩ := (above parent isParent).mp parentWithin
        have isChild := (wellFormed.children upper.id
          (mem_moduleIds_site.mpr ⟨upper, part upper inside, rfl⟩) other).mpr ⟨known, isParent⟩
        rw [module_site (part upper inside)] at isChild
        obtain ⟨child, listed, rfl⟩ := List.mem_map.mp isChild
        obtain ⟨below, belowInside, named, _⟩ :=
          exists_child_moduleSite _ _ _ _ upper inside child listed
        exact ⟨below, belowInside, congrArg Prod.fst named⟩
  · rintro ⟨below, inside, rfl⟩
    rcases moduleSites_kin _ _ _ _ below inside with equal | ⟨upper, upperInside, kin⟩
    · subst equal
      exact WellFormed.isWithin_self _
    · have isParent := parent_child_site (part below inside) kin
      exact (wellFormed.isWithin_of_parent known isParent).mpr
        (.inr ((above upper.id isParent).mpr ⟨upper, upperInside, rfl⟩))

theorem children_preorder {site : Site} (member : site ∈ applicationSites declarations) :
    site.module.children.map (fun child => (forestPreorder declarations)[child.index]?) =
      site.declaration.modules.map some := by
  obtain ⟨front, back, whole⟩ := subtree_infix_forestSites _ _ _ _ site member
  have numbered : Numbered (·.id.index) 0 (applicationSites declarations) := by
    simpa [Numbered, Layout.ofSites, Site.module, Function.comp_def, Extent.zero]
      using (applicationSites_chained declarations).modules_numbered
  obtain ⟨below, unfolded⟩ : ∃ below, site.subtree = site :: below :=
    ⟨_, moduleSites_eq _ _ _ _⟩
  have first : (applicationSites declarations)[front.length]? = some site := by
    rw [applicationSites, ← whole, unfolded]
    simp
  have place : front.length = site.start.modules := (numbered.getElem?_eq_some.mp first).2
  have order : forestPreorder declarations =
      (front.map (·.declaration) ++ [site.declaration]) ++
        forestPreorder site.declaration.modules ++ back.map (·.declaration) := by
    rw [← forestSites_declarations .none (Layout.forestRoots 0 declarations) .zero, ← whole,
      List.map_append, List.map_append, Site.subtree, moduleSites_eq, List.map_cons,
      forestSites_declarations]
    simp
  have roots := forestRoots_preorder (front.map (·.declaration) ++ [site.declaration])
    (back.map (·.declaration)) site.declaration.modules
  rw [← order, List.length_append, List.length_map, place] at roots
  rw [← roots]
  change (site.children.map (·.1)).map _ = _
  rw [List.map_map, Site.children]
  simp [Site.childrenStart, Site.beansStart, Function.comp_def]

theorem module_holds {site : Site} (member : site ∈ applicationSites declarations) :
    (ofDeclarations declarations).ModuleHolds (forestPreorder declarations)
      site.declaration site.module where
  name := rfl
  position := rfl
  wiredNames := rfl
  sockets := declaredSockets_ofSockets member fun _ inside => List.mem_append_left _ inside
  beans := module_beans_hold member
  children := children_preorder member
  subtree other known := (isWithin_site_iff member known).trans site.exists_subtree_iff
  wired_nodup := nodup_eraseDups _
  wired sibling listed := by
    obtain ⟨different, name, named, isSibling⟩ := mem_wiredSiblings listed
    obtain ⟨known, sameName, parent⟩ := sibling_site member isSibling
    exact ⟨known, different, parent, sameName ▸ named⟩
  wired_found sibling listed different named := by
    rw [siblings_site member] at listed
    obtain ⟨entry, entryListed, rfl⟩ := List.mem_map.mp listed
    have sameName := (sibling_site member entryListed).2.1
    rw [sameName] at named ⊢
    obtain ⟨wired, found, wiredListed⟩ := exists_wiredSibling entryListed different named
    exact ⟨wired, found, (sibling_site member wiredListed).2.1⟩

/-! ## The order of beans -/

/-- Beans stand in the order of their modules, and in a module in that of their declarations. -/
theorem beans_in_order (declarations : List ModuleDeclaration) :
    (ofDeclarations declarations).beans.Pairwise fun left right =>
      left.module.index < right.module.index ∨
        left.module = right.module ∧ left.index < right.index := by
  rw [ofDeclarations_beans, List.pairwise_flatMap]
  have inSite : ∀ site : Site, ∀ bean ∈ site.beanRows.beans, bean.module = site.id :=
    fun site bean row => (Layout.mem_ofBeans_beans site.id row).1
  have sites := (applicationSites_chained declarations).modules_numbered.ascending
  constructor
  · intro site _
    have placed := (Layout.ofBeans_beans_placed site.id site.beansStart 0
      site.declaration.beans).ascending
    refine placed.imp_of_mem fun left right before => .inr ⟨?_, before⟩
    rw [inSite site _ left, inSite site _ right]
  · refine (List.pairwise_map.mp sites).imp fun before left leftRow right rightRow => .inl ?_
    rw [inSite _ left leftRow, inSite _ right rightRow]
    exact before

theorem beans_before_iff {left right : Bean} (leftMember : left ∈ (ofDeclarations declarations).beans)
    (rightMember : right ∈ (ofDeclarations declarations).beans) :
    left.id.index < right.id.index ↔
      left.module.index < right.module.index ∨
        left.module = right.module ∧ left.index < right.index := by
  have numbered := (ofDeclarations_wellFormed declarations).beans_numbered
  have ordered := List.pairwise_iff_getElem.mp (beans_in_order declarations)
  have before : ∀ {left right : Bean}, left ∈ (ofDeclarations declarations).beans →
      right ∈ (ofDeclarations declarations).beans → left.id.index < right.id.index →
      left.module.index < right.module.index ∨
        left.module = right.module ∧ left.index < right.index := by
    intro left right leftMember rightMember before
    obtain ⟨leftInside, leftFound⟩ :=
      List.getElem?_eq_some_iff.mp (numbered.getElem?_number leftMember)
    obtain ⟨rightInside, rightFound⟩ :=
      List.getElem?_eq_some_iff.mp (numbered.getElem?_number rightMember)
    rw [← leftFound, ← rightFound]
    exact ordered _ _ leftInside rightInside before
  refine ⟨before leftMember rightMember, fun ordered => ?_⟩
  rcases Nat.lt_trichotomy left.id.index right.id.index with less | same | more
  · exact less
  · have found := numbered.getElem?_number leftMember
    rw [same, numbered.getElem?_number rightMember] at found
    injection found with equal
    rw [equal] at ordered
    omega
  · have reversed := before rightMember leftMember more
    rcases ordered with less | ⟨same, less⟩
    · rcases reversed with reversed | ⟨same, _⟩
      · omega
      · rw [same] at less
        omega
    · rw [same] at reversed
      omega

end Application

/-! ## Lists of owners -/

namespace Model.WellFormed

variable {model : Model} (wellFormed : model.WellFormed)

include wellFormed

theorem bean_listed_iff {bean : Bean} (member : bean ∈ model.beans) {module : Module}
    (inside : module ∈ model.modules) {place : Nat} :
    module.beans[place]? = some bean.id ↔ module.id = bean.module ∧ place = bean.index := by
  have known : module.id ∈ model.moduleIds := List.mem_map_of_mem inside
  have listed := wellFormed.beans module.id known bean.id
  have placed := wellFormed.beans_placed module.id known
  rw [wellFormed.module_of_mem inside] at listed placed
  rw [placed.getElem?_eq_some, listed, wellFormed.bean_of_mem member, eq_comm (a := module.id)]
  exact and_congr_left' (and_iff_right (List.mem_map_of_mem member))

theorem socket_owner {socket : Socket} (member : socket ∈ model.sockets) :
    socket.owner ∈ model.owners ∧ socket.module = model.moduleOf socket.owner := by
  have known : socket.id ∈ model.socketIds := List.mem_map_of_mem member
  have ofModule := wellFormed.owner_module socket.id known
  have ofBean := wellFormed.owner_bean socket.id known
  rw [wellFormed.socket_of_mem member] at ofModule ofBean
  simp only [owners, List.mem_append, List.mem_map]
  cases owner : socket.owner with
  | module id =>
      obtain ⟨idKnown, inModule⟩ := ofModule id owner
      exact ⟨.inl ⟨id, idKnown, rfl⟩, inModule⟩
  | bean id =>
      obtain ⟨idKnown, inModule⟩ := ofBean id owner
      exact ⟨.inr ⟨id, idKnown, rfl⟩, inModule⟩

theorem mem_socketsOf {owner : SocketOwner} (known : owner ∈ model.owners) {socket : SocketId} :
    socket ∈ model.socketsOf owner ↔
      socket ∈ model.socketIds ∧ (model.socket socket).owner = owner := by
  rcases List.mem_append.mp known with ofModule | ofBean
  · obtain ⟨id, idKnown, rfl⟩ := List.mem_map.mp ofModule
    exact wellFormed.moduleSockets id idKnown socket
  · obtain ⟨id, idKnown, rfl⟩ := List.mem_map.mp ofBean
    exact wellFormed.beanSockets id idKnown socket

theorem socketsOf_placed {owner : SocketOwner} (known : owner ∈ model.owners) :
    Numbered (fun socket => (model.socket socket).index) 0 (model.socketsOf owner) := by
  rcases List.mem_append.mp known with ofModule | ofBean
  · obtain ⟨id, idKnown, rfl⟩ := List.mem_map.mp ofModule
    exact wellFormed.moduleSockets_placed id idKnown
  · obtain ⟨id, idKnown, rfl⟩ := List.mem_map.mp ofBean
    exact wellFormed.beanSockets_placed id idKnown

theorem socket_listed_iff {socket : Socket} (member : socket ∈ model.sockets)
    {owner : SocketOwner} (known : owner ∈ model.owners) {place : Nat} :
    (model.socketsOf owner)[place]? = some socket.id ↔
      owner = socket.owner ∧ place = socket.index := by
  rw [(wellFormed.socketsOf_placed known).getElem?_eq_some, wellFormed.mem_socketsOf known,
    wellFormed.socket_of_mem member, eq_comm (b := owner)]
  exact and_congr_left' (and_iff_right (List.mem_map_of_mem member))

end Model.WellFormed

theorem siblings_count {declarations : List ModuleDeclaration} {site : Site}
    (member : site ∈ applicationSites declarations) :
    ((Model.ofDeclarations declarations).siblings site.module).count site.id = 1 := by
  rw [siblings_site member]
  rcases site_kin member with ⟨_, siblings, listed⟩ | ⟨parent, _, kin⟩
  · rw [siblings]
    exact List.count_eq_one_of_mem (forestRoots_nodup _ _) (List.mem_map_of_mem listed)
  · rw [kin.siblings]
    exact List.count_eq_one_of_mem (forestRoots_nodup _ _) (List.mem_map_of_mem kin.listed)

/-- Every list of declarations is arranged in its model, whatever is wrong with it. -/
theorem Model.ofDeclarations_arranged (declarations : List ModuleDeclaration) :
    (ofDeclarations declarations).Arranged declarations := by
  have wellFormed := ofDeclarations_wellFormed declarations
  refine {
    toWellFormed := wellFormed
    modules_hold := ?modules
    roots_hold := ?roots
    module_listed := ?listed
    bean_listed := fun _ member _ inside _ => wellFormed.bean_listed_iff member inside
    bean_order := fun _ left _ right => beans_before_iff left right
    socket_owner := fun _ member => wellFormed.socket_owner member
    socket_listed := fun _ member _ known _ => wellFormed.socket_listed_iff member known }
  case modules =>
    rw [ofDeclarations_modules, ← forestSites_declarations .none
      (Layout.forestRoots 0 declarations) .zero, List.forall₂_map_left_iff,
      List.forall₂_map_right_iff, applicationSites, List.forall₂_same]
    intro site member
    rw [forestSites_declarations]
    exact module_holds member
  case roots =>
    have roots := forestRoots_preorder [] [] declarations
    rw [List.nil_append, List.append_nil] at roots
    exact List.map_map.trans roots
  case listed =>
    intro module member
    rw [ofDeclarations_modules] at member
    obtain ⟨site, inside, rfl⟩ := List.mem_map.mp member
    exact siblings_count inside

end StaticInjection
