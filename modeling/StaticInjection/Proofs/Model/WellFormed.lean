import StaticInjection.Model.Tree
import StaticInjection.Proofs.Model.Numbering
import StaticInjection.Propagation

/-! # Well-formed models

In the model of any declarations, numbers are positions, parents come before
their children, and what a module or a bean lists is exactly what names it as
its owner. Everything later about models rests on this alone. -/

namespace StaticInjection

namespace Model

def beanIds (model : Model) : List BeanId :=
  model.beans.map (·.id)

def socketIds (model : Model) : List SocketId :=
  model.sockets.map (·.id)

def parent (model : Model) (id : ModuleId) : Option ModuleId :=
  (model.module id).parent

structure WellFormed (model : Model) : Prop where
  modules_numbered : Numbered (·.id.index) 0 model.modules
  beans_numbered : Numbered (·.id.index) 0 model.beans
  sockets_numbered : Numbered (·.id.index) 0 model.sockets
  parent_before : ∀ id ∈ model.moduleIds, ∀ parent, model.parent id = some parent →
    parent ∈ model.moduleIds ∧ parent.index < id.index
  lineage_parent : ∀ id ∈ model.moduleIds, ∀ parent, model.parent id = some parent →
    (model.module id).ancestors = model.lineage parent
  children : ∀ id ∈ model.moduleIds, ∀ child, child ∈ (model.module id).children ↔
    child ∈ model.moduleIds ∧ model.parent child = some id
  children_nodup : ∀ id ∈ model.moduleIds, (model.module id).children.Nodup
  roots : ∀ id, id ∈ model.roots ↔ id ∈ model.moduleIds ∧ model.parent id = none
  wired : ∀ id ∈ model.moduleIds, ∀ sibling ∈ (model.module id).wiredModules,
    sibling ∈ model.moduleIds ∧ sibling ≠ id ∧ model.parent sibling = model.parent id
  path_root : ∀ id ∈ model.moduleIds, model.parent id = none →
    model.path id = (model.module id).name
  path_child : ∀ id ∈ model.moduleIds, ∀ parent, model.parent id = some parent →
    model.path id = model.path parent ++ "." ++ (model.module id).name
  beans : ∀ id ∈ model.moduleIds, ∀ bean, bean ∈ (model.module id).beans ↔
    bean ∈ model.beanIds ∧ (model.bean bean).module = id
  beans_placed : ∀ id ∈ model.moduleIds,
    Numbered (fun bean => (model.bean bean).index) 0 (model.module id).beans
  bean_module : ∀ bean ∈ model.beanIds, (model.bean bean).module ∈ model.moduleIds
  bean_provides : ∀ bean ∈ model.beans, bean.provides.Nodup
  moduleSockets : ∀ id ∈ model.moduleIds, ∀ socket,
    socket ∈ (model.module id).sockets ↔
      socket ∈ model.socketIds ∧ (model.socket socket).owner = .module id
  moduleSockets_placed : ∀ id ∈ model.moduleIds,
    Numbered (fun socket => (model.socket socket).index) 0 (model.module id).sockets
  beanSockets : ∀ id ∈ model.beanIds, ∀ socket, socket ∈ (model.bean id).sockets ↔
    socket ∈ model.socketIds ∧ (model.socket socket).owner = .bean id
  beanSockets_placed : ∀ id ∈ model.beanIds,
    Numbered (fun socket => (model.socket socket).index) 0 (model.bean id).sockets
  owner_module : ∀ socket ∈ model.socketIds, ∀ id,
    (model.socket socket).owner = .module id →
      id ∈ model.moduleIds ∧ (model.socket socket).module = id
  owner_bean : ∀ socket ∈ model.socketIds, ∀ id,
    (model.socket socket).owner = .bean id →
      id ∈ model.beanIds ∧ (model.socket socket).module = (model.bean id).module

end Model

/-! ## Kinship of sites -/

theorem extent_modules_pos (declaration : ModuleDeclaration) :
    0 < declaration.extent.modules := by
  cases declaration
  rw [ModuleDeclaration.extent]
  simp only [Extent.add_modules, beansExtent_modules, Nat.add_zero]
  omega

theorem forestRoots_le {start : Nat} {forest : List ModuleDeclaration}
    {root : ModuleId × String} (member : root ∈ Layout.forestRoots start forest) :
    start ≤ root.1.index := by
  induction forest generalizing start with
  | nil => cases member
  | cons module rest induction =>
      rcases List.mem_cons.mp member with equal | later
      · exact equal ▸ Nat.le_refl start
      · exact Nat.le_trans (Nat.le_add_right _ _) (induction later)

theorem forestRoots_nodup (start : Nat) (forest : List ModuleDeclaration) :
    ((Layout.forestRoots start forest).map (·.1)).Nodup := by
  induction forest generalizing start with
  | nil => exact .nil
  | cons module rest induction =>
      refine List.nodup_cons.mpr ⟨?_, induction _⟩
      intro again
      obtain ⟨root, later, equal⟩ := List.mem_map.mp again
      have after := forestRoots_le later
      have positive := extent_modules_pos module
      rw [equal] at after
      simp only at after
      omega

mutual

theorem moduleSites_kin (around : Layout.Surroundings)
    (siblings : List (ModuleId × String)) (start : Extent) :
    (declaration : ModuleDeclaration) → ∀ site ∈ moduleSites around siblings start declaration,
      site = ⟨around, siblings, start, declaration⟩ ∨
        ∃ parent ∈ moduleSites around siblings start declaration, site.IsChildOf parent
  | { name, beans, sockets, modules, wiredModules, position } => by
      let top : Site := ⟨around, siblings, start,
        { name, beans, sockets, modules, wiredModules, position }⟩
      have below := forestSites_kin top.inside top.children top.childrenStart modules
      rw [moduleSites]
      intro site member
      rcases List.mem_cons.mp member with equal | member
      · exact .inl equal
      · rcases below site member with ⟨around, siblings, listed⟩ | ⟨parent, inside, kin⟩
        · exact .inr ⟨top, List.mem_cons_self, around, siblings, listed⟩
        · exact .inr ⟨parent, List.mem_cons_of_mem _ inside, kin⟩

theorem forestSites_kin (around : Layout.Surroundings)
    (siblings : List (ModuleId × String)) (start : Extent) :
    (forest : List ModuleDeclaration) → ∀ site ∈ forestSites around siblings start forest,
      (site.around = around ∧ site.siblings = siblings ∧
        (site.id, site.name) ∈ Layout.forestRoots start.modules forest) ∨
      ∃ parent ∈ forestSites around siblings start forest, site.IsChildOf parent
  | [] => by
      rw [forestSites]
      intro site member
      cases member
  | module :: rest => by
      have first := moduleSites_kin around siblings start module
      have others := forestSites_kin around siblings (start.add module.extent) rest
      rw [forestSites]
      intro site member
      rcases List.mem_append.mp member with member | member
      · rcases first site member with equal | ⟨parent, inside, kin⟩
        · subst equal
          exact .inl ⟨rfl, rfl, List.mem_cons_self⟩
        · exact .inr ⟨parent, List.mem_append_left _ inside, kin⟩
      · rcases others site member with ⟨around, siblings, listed⟩ | ⟨parent, inside, kin⟩
        · exact .inl ⟨around, siblings, List.mem_cons_of_mem _ listed⟩
        · exact .inr ⟨parent, List.mem_append_right _ inside, kin⟩

end

/-- Every root of a forest has a site. -/
theorem exists_root_site (around : Layout.Surroundings)
    (siblings : List (ModuleId × String)) (start : Extent)
    {forest : List ModuleDeclaration} {root : ModuleId × String}
    (member : root ∈ Layout.forestRoots start.modules forest) :
    ∃ site ∈ forestSites around siblings start forest,
      (site.id, site.name) = root ∧ site.around = around ∧ site.siblings = siblings := by
  induction forest generalizing start with
  | nil => cases member
  | cons module rest induction =>
      rw [forestSites]
      rcases List.mem_cons.mp member with equal | later
      · rw [moduleSites_eq]
        exact ⟨_, List.mem_append_left _ List.mem_cons_self, equal.symm, rfl, rfl⟩
      · obtain ⟨site, inside, facts⟩ :=
          induction (start.add module.extent) later
        exact ⟨site, List.mem_append_right _ inside, facts⟩

mutual

theorem exists_child_moduleSite (around : Layout.Surroundings)
    (siblings : List (ModuleId × String)) (start : Extent) :
    (declaration : ModuleDeclaration) → ∀ site ∈ moduleSites around siblings start declaration,
      ∀ child ∈ site.children,
        ∃ below ∈ moduleSites around siblings start declaration,
          (below.id, below.name) = child ∧ below.IsChildOf site
  | { name, beans, sockets, modules, wiredModules, position } => by
      let top : Site := ⟨around, siblings, start,
        { name, beans, sockets, modules, wiredModules, position }⟩
      have inner := exists_child_forestSite top.inside top.children top.childrenStart modules
      rw [moduleSites]
      intro site member child listed
      rcases List.mem_cons.mp member with equal | member
      · subst equal
        obtain ⟨below, inside, same, around, siblings⟩ :=
          exists_root_site top.inside top.children top.childrenStart listed
        exact ⟨below, List.mem_cons_of_mem _ inside, same, around, siblings, same ▸ listed⟩
      · obtain ⟨below, inside, facts⟩ := inner site member child listed
        exact ⟨below, List.mem_cons_of_mem _ inside, facts⟩

theorem exists_child_forestSite (around : Layout.Surroundings)
    (siblings : List (ModuleId × String)) (start : Extent) :
    (forest : List ModuleDeclaration) → ∀ site ∈ forestSites around siblings start forest,
      ∀ child ∈ site.children,
        ∃ below ∈ forestSites around siblings start forest,
          (below.id, below.name) = child ∧ below.IsChildOf site
  | [] => by
      rw [forestSites]
      intro site member
      cases member
  | module :: rest => by
      have first := exists_child_moduleSite around siblings start module
      have others := exists_child_forestSite around siblings (start.add module.extent) rest
      rw [forestSites]
      intro site member child listed
      rcases List.mem_append.mp member with member | member
      · obtain ⟨below, inside, facts⟩ := first site member child listed
        exact ⟨below, List.mem_append_left _ inside, facts⟩
      · obtain ⟨below, inside, facts⟩ := others site member child listed
        exact ⟨below, List.mem_append_right _ inside, facts⟩

end

/-! ## The sites of an application -/

section Application

variable {declarations : List ModuleDeclaration}

open Model

theorem module_site {site : Site} (member : site ∈ applicationSites declarations) :
    (ofDeclarations declarations).module site.id = site.module := by
  have inside : site.module ∈ (ofDeclarations declarations).modules := by
    rw [ofDeclarations_modules]
    exact List.mem_map_of_mem member
  have numbered : Numbered (·.id.index) 0 (ofDeclarations declarations).modules := by
    rw [ofDeclarations_modules]
    exact (applicationSites_chained declarations).modules_numbered
  have found := numbered.getElem?_number inside
  simp only [Model.module, List.getD_eq_getElem?_getD]
  rw [show site.id.index = site.module.id.index from rfl, found]
  rfl

theorem bean_row {site : Site} (member : site ∈ applicationSites declarations)
    {bean : Bean} (row : bean ∈ site.beanRows.beans) :
    bean.id ∈ (ofDeclarations declarations).beanIds ∧
      (ofDeclarations declarations).bean bean.id = bean := by
  have inside : bean ∈ (ofDeclarations declarations).beans := by
    rw [ofDeclarations_beans]
    exact List.mem_flatMap.mpr ⟨site, member, row⟩
  have numbered : Numbered (·.id.index) 0 (ofDeclarations declarations).beans := by
    rw [ofDeclarations_beans]
    exact (applicationSites_chained declarations).beans_numbered
  have found := numbered.getElem?_number inside
  refine ⟨List.mem_map_of_mem inside, ?_⟩
  simp only [Model.bean, List.getD_eq_getElem?_getD, found]
  rfl

theorem socket_row {site : Site} (member : site ∈ applicationSites declarations)
    {socket : Socket} (row : socket ∈ site.sockets) :
    socket.id ∈ (ofDeclarations declarations).socketIds ∧
      (ofDeclarations declarations).socket socket.id = socket := by
  have inside : socket ∈ (ofDeclarations declarations).sockets := by
    rw [ofDeclarations_sockets]
    exact List.mem_flatMap.mpr ⟨site, member, row⟩
  have numbered : Numbered (·.id.index) 0 (ofDeclarations declarations).sockets := by
    rw [ofDeclarations_sockets]
    exact (applicationSites_chained declarations).sockets_numbered
  have found := numbered.getElem?_number inside
  refine ⟨List.mem_map_of_mem inside, ?_⟩
  simp only [Model.socket, List.getD_eq_getElem?_getD, found]
  rfl

theorem mem_moduleIds_site {id : ModuleId} :
    id ∈ (ofDeclarations declarations).moduleIds ↔
      ∃ site ∈ applicationSites declarations, site.id = id := by
  simp [moduleIds, ofDeclarations_modules, Site.module]

theorem mem_beanIds_row {id : BeanId} :
    id ∈ (ofDeclarations declarations).beanIds ↔
      ∃ site ∈ applicationSites declarations, ∃ bean ∈ site.beanRows.beans,
        bean.id = id := by
  simp only [beanIds, ofDeclarations_beans, List.mem_map, List.mem_flatMap]
  exact ⟨fun ⟨bean, ⟨site, member, row⟩, same⟩ => ⟨site, member, bean, row, same⟩,
    fun ⟨site, member, bean, row, same⟩ => ⟨bean, ⟨site, member, row⟩, same⟩⟩

theorem mem_socketIds_row {id : SocketId} :
    id ∈ (ofDeclarations declarations).socketIds ↔
      ∃ site ∈ applicationSites declarations, ∃ socket ∈ site.sockets,
        socket.id = id := by
  simp only [socketIds, ofDeclarations_sockets, List.mem_map, List.mem_flatMap]
  exact ⟨fun ⟨socket, ⟨site, member, row⟩, same⟩ => ⟨site, member, socket, row, same⟩,
    fun ⟨site, member, socket, row, same⟩ => ⟨socket, ⟨site, member, row⟩, same⟩⟩

theorem site_kin {site : Site} (member : site ∈ applicationSites declarations) :
    (site.around = .none ∧ site.siblings = Layout.forestRoots 0 declarations ∧
      (site.id, site.name) ∈ Layout.forestRoots 0 declarations) ∨
    ∃ parent ∈ applicationSites declarations, site.IsChildOf parent :=
  forestSites_kin _ _ _ _ site member

theorem exists_child_site {site : Site}
    (member : site ∈ applicationSites declarations) {child : ModuleId × String}
    (listed : child ∈ site.children) :
    ∃ below ∈ applicationSites declarations,
      (below.id, below.name) = child ∧ below.IsChildOf site :=
  exists_child_forestSite _ _ _ _ site member child listed

/-- Sites with the same number give the same module. -/
theorem site_module_eq {left right : Site}
    (leftMember : left ∈ applicationSites declarations)
    (rightMember : right ∈ applicationSites declarations)
    (same : left.id = right.id) : left.module = right.module := by
  rw [← module_site leftMember, ← module_site rightMember, same]

theorem parent_site {site : Site} (member : site ∈ applicationSites declarations) :
    (ofDeclarations declarations).parent site.id = site.around.lineage.head? := by
  rw [Model.parent, module_site member]
  rfl

/-- A site with a parent is a child of the site that the parent comes from. -/
theorem parent_site_some {site : Site} (member : site ∈ applicationSites declarations)
    {parent : ModuleId}
    (isParent : (ofDeclarations declarations).parent site.id = some parent) :
    ∃ above ∈ applicationSites declarations, above.id = parent ∧ site.IsChildOf above := by
  rw [parent_site member] at isParent
  rcases site_kin member with ⟨around, _⟩ | ⟨above, inside, kin⟩
  · rw [around] at isParent
    cases isParent
  · rw [kin.around] at isParent
    exact ⟨above, inside, Option.some.inj isParent, kin⟩

theorem parent_site_none {site : Site} (member : site ∈ applicationSites declarations)
    (isRoot : (ofDeclarations declarations).parent site.id = none) :
    site.around = .none ∧ site.siblings = Layout.forestRoots 0 declarations ∧
      (site.id, site.name) ∈ Layout.forestRoots 0 declarations := by
  rw [parent_site member] at isRoot
  rcases site_kin member with top | ⟨above, _, kin⟩
  · exact top
  · rw [kin.around] at isRoot
    cases isRoot

theorem parent_child_site {site parent : Site}
    (member : site ∈ applicationSites declarations) (kin : site.IsChildOf parent) :
    (ofDeclarations declarations).parent site.id = some parent.id := by
  rw [parent_site member, kin.around]
  rfl

theorem mem_wiredSiblings {siblings : List (ModuleId × String)} {self id : ModuleId}
    {names : List String} (member : id ∈ Layout.wiredSiblings siblings self names) :
    id ≠ self ∧ ∃ name ∈ names, (id, name) ∈ siblings := by
  simp only [Layout.wiredSiblings, List.mem_eraseDups, List.mem_filterMap,
    Option.map_eq_some_iff] at member
  obtain ⟨name, named, ⟨found, sibling⟩, search, rfl⟩ := member
  have matching := List.find?_some search
  simp only [Bool.and_eq_true, bne_iff_ne, beq_iff_eq] at matching
  exact ⟨matching.1, name, named, matching.2 ▸ List.mem_of_find?_eq_some search⟩

theorem mem_roots {id : ModuleId} : id ∈ (ofDeclarations declarations).roots ↔
    id ∈ (ofDeclarations declarations).moduleIds ∧
      (ofDeclarations declarations).parent id = none := by
  constructor
  · intro member
    obtain ⟨root, listed, rfl⟩ := List.mem_map.mp member
    obtain ⟨site, inside, same, around, _⟩ := exists_root_site .none
      (Layout.forestRoots 0 declarations) .zero listed
    subst same
    refine ⟨mem_moduleIds_site.mpr ⟨site, inside, rfl⟩, ?_⟩
    rw [parent_site inside, around]
    rfl
  · rintro ⟨member, isRoot⟩
    obtain ⟨site, inside, rfl⟩ := mem_moduleIds_site.mp member
    exact List.mem_map.mpr ⟨_, (parent_site_none inside isRoot).2.2, rfl⟩

/-! ## Beans and sockets of an application -/

theorem mem_module_beans {site : Site}
    (member : site ∈ applicationSites declarations) {bean : BeanId} :
    bean ∈ site.module.beans ↔
      bean ∈ (ofDeclarations declarations).beanIds ∧
        ((ofDeclarations declarations).bean bean).module = site.id := by
  have ids : site.beanRows.beans.map (·.id) = site.module.beans :=
    Layout.ofBeans_beans_ids site.id site.beansStart 0 site.declaration.beans
  constructor
  · intro listed
    rw [← ids] at listed
    obtain ⟨row, inside, rfl⟩ := List.mem_map.mp listed
    obtain ⟨known, found⟩ := bean_row member inside
    rw [found]
    exact ⟨known, (Layout.mem_ofBeans_beans site.id inside).1⟩
  · rintro ⟨known, inModule⟩
    obtain ⟨other, otherMember, row, inside, rfl⟩ := mem_beanIds_row.mp known
    rw [(bean_row otherMember inside).2,
      (Layout.mem_ofBeans_beans other.id inside).1] at inModule
    rw [← site_module_eq otherMember member inModule]
    have otherIds : other.beanRows.beans.map (·.id) = other.module.beans :=
      Layout.ofBeans_beans_ids other.id other.beansStart 0 other.declaration.beans
    exact otherIds ▸ List.mem_map_of_mem inside

theorem module_beans_placed {site : Site}
    (member : site ∈ applicationSites declarations) :
    Numbered (fun bean => ((ofDeclarations declarations).bean bean).index) 0
      site.module.beans := by
  have ids : site.beanRows.beans.map (·.id) = site.module.beans :=
    Layout.ofBeans_beans_ids site.id site.beansStart 0 site.declaration.beans
  have placed := Layout.ofBeans_beans_placed site.id site.beansStart 0
    site.declaration.beans
  unfold Numbered at placed ⊢
  rw [← ids, List.map_map, List.length_map]
  refine Eq.trans (List.map_congr_left fun row inside => ?_) placed
  exact congrArg Bean.index (bean_row member inside).2

/-- What a socket row says of its owner. -/
theorem socket_row_owner {site : Site} {socket : Socket} (row : socket ∈ site.sockets) :
    socket.module = site.id ∧
      ((socket.owner = .module site.id ∧ socket.id ∈ site.module.sockets) ∨
        ∃ bean ∈ site.beanRows.beans,
          socket.owner = .bean bean.id ∧ socket.id ∈ bean.sockets) := by
  rcases List.mem_append.mp row with own | ofBean
  · have facts := Layout.mem_ofSockets _ _ own
    refine ⟨facts.2, .inl ⟨facts.1, ?_⟩⟩
    have listed := List.mem_map_of_mem (f := (·.id)) own
    rwa [Site.moduleSockets, Layout.ofSockets_ids] at listed
  · obtain ⟨inModule, bean, inside, facts⟩ := Layout.mem_ofBeans_sockets _ ofBean
    exact ⟨inModule, .inr ⟨bean, inside, facts⟩⟩

theorem mem_module_sockets {site : Site}
    (member : site ∈ applicationSites declarations) {socket : SocketId} :
    socket ∈ site.module.sockets ↔
      socket ∈ (ofDeclarations declarations).socketIds ∧
        ((ofDeclarations declarations).socket socket).owner = .module site.id := by
  constructor
  · intro listed
    have ids : site.moduleSockets.map (·.id) = site.module.sockets :=
      Layout.ofSockets_ids _ _ _ _ _
    rw [← ids] at listed
    obtain ⟨row, inside, rfl⟩ := List.mem_map.mp listed
    obtain ⟨known, found⟩ := socket_row member (List.mem_append_left _ inside)
    rw [found]
    exact ⟨known, (Layout.mem_ofSockets _ _ inside).1⟩
  · rintro ⟨known, owner⟩
    obtain ⟨other, otherMember, row, inside, rfl⟩ := mem_socketIds_row.mp known
    rw [(socket_row otherMember inside).2] at owner
    rcases (socket_row_owner inside).2 with ⟨same, listed⟩ | ⟨bean, _, ofBean, _⟩
    · injection owner.symm.trans same with sameSite
      rw [site_module_eq member otherMember sameSite]
      exact listed
    · cases owner.symm.trans ofBean

theorem module_sockets_placed {site : Site}
    (member : site ∈ applicationSites declarations) :
    Numbered (fun socket => ((ofDeclarations declarations).socket socket).index) 0
      site.module.sockets := by
  have ids : site.moduleSockets.map (·.id) = site.module.sockets :=
    Layout.ofSockets_ids _ _ _ _ _
  have placed : Numbered (·.index) 0 site.moduleSockets :=
    Layout.ofSockets_placed _ _ _ _ _
  unfold Numbered at placed ⊢
  rw [← ids, List.map_map, List.length_map]
  refine Eq.trans (List.map_congr_left fun row inside => ?_) placed
  exact congrArg Socket.index (socket_row member (List.mem_append_left _ inside)).2

theorem mem_bean_sockets {site : Site}
    (member : site ∈ applicationSites declarations) {bean : Bean}
    (row : bean ∈ site.beanRows.beans) {socket : SocketId} :
    socket ∈ bean.sockets ↔
      socket ∈ (ofDeclarations declarations).socketIds ∧
        ((ofDeclarations declarations).socket socket).owner = .bean bean.id := by
  obtain ⟨_, sockets, inside, ids, _⟩ := Layout.mem_ofBeans_beans site.id row
  constructor
  · intro listed
    rw [← ids] at listed
    obtain ⟨found, foundMember, rfl⟩ := List.mem_map.mp listed
    obtain ⟨known, lookup⟩ :=
      socket_row member (List.mem_append_right _ (inside found foundMember).1)
    rw [lookup]
    exact ⟨known, (inside found foundMember).2.1⟩
  · rintro ⟨known, owner⟩
    obtain ⟨other, otherMember, found, foundInside, rfl⟩ := mem_socketIds_row.mp known
    rw [(socket_row otherMember foundInside).2] at owner
    rcases (socket_row_owner foundInside).2 with ⟨ofModule, _⟩ | ⟨holder, held, same, listed⟩
    · cases owner.symm.trans ofModule
    · injection owner.symm.trans same with sameBean
      rw [← (bean_row member row).2, sameBean, (bean_row otherMember held).2]
      exact listed

theorem bean_sockets_placed {site : Site}
    (member : site ∈ applicationSites declarations) {bean : Bean}
    (row : bean ∈ site.beanRows.beans) :
    Numbered (fun socket => ((ofDeclarations declarations).socket socket).index) 0
      bean.sockets := by
  obtain ⟨_, sockets, inside, ids, placed⟩ := Layout.mem_ofBeans_beans site.id row
  unfold Numbered at placed ⊢
  rw [← ids, List.map_map, List.length_map]
  refine Eq.trans (List.map_congr_left fun found foundMember => ?_) placed
  exact congrArg Socket.index
    (socket_row member (List.mem_append_right _ (inside found foundMember).1)).2

/-! ## The model of an application -/

theorem Model.ofDeclarations_wellFormed (declarations : List ModuleDeclaration) :
    (ofDeclarations declarations).WellFormed where
  modules_numbered := by
    rw [ofDeclarations_modules]
    exact (applicationSites_chained declarations).modules_numbered
  beans_numbered := by
    rw [ofDeclarations_beans]
    exact (applicationSites_chained declarations).beans_numbered
  sockets_numbered := by
    rw [ofDeclarations_sockets]
    exact (applicationSites_chained declarations).sockets_numbered
  parent_before id member parent isParent := by
    obtain ⟨site, inside, rfl⟩ := mem_moduleIds_site.mp member
    obtain ⟨above, aboveInside, rfl, kin⟩ := parent_site_some inside isParent
    have after := forestRoots_le kin.listed
    refine ⟨mem_moduleIds_site.mpr ⟨above, aboveInside, rfl⟩, ?_⟩
    simp only [Site.childrenStart, Site.beansStart, Extent.add_modules,
      beansExtent_modules, Site.id] at after ⊢
    omega
  lineage_parent id member parent isParent := by
    obtain ⟨site, inside, rfl⟩ := mem_moduleIds_site.mp member
    obtain ⟨above, aboveInside, rfl, kin⟩ := parent_site_some inside isParent
    rw [module_site inside, lineage, module_site aboveInside]
    exact congrArg Layout.Surroundings.lineage kin.around
  children id member child := by
    obtain ⟨site, inside, rfl⟩ := mem_moduleIds_site.mp member
    rw [module_site inside]
    constructor
    · intro listed
      obtain ⟨entry, entryListed, rfl⟩ := List.mem_map.mp listed
      obtain ⟨below, belowInside, rfl, kin⟩ := exists_child_site inside entryListed
      exact ⟨mem_moduleIds_site.mpr ⟨below, belowInside, rfl⟩,
        parent_child_site belowInside kin⟩
    · rintro ⟨known, isParent⟩
      obtain ⟨below, belowInside, rfl⟩ := mem_moduleIds_site.mp known
      obtain ⟨above, aboveInside, same, kin⟩ := parent_site_some belowInside isParent
      rw [site_module_eq inside aboveInside same.symm]
      exact List.mem_map.mpr ⟨_, kin.listed, rfl⟩
  children_nodup id member := by
    obtain ⟨site, inside, rfl⟩ := mem_moduleIds_site.mp member
    rw [module_site inside]
    exact forestRoots_nodup _ _
  roots id := mem_roots
  wired id member sibling listed := by
    obtain ⟨site, inside, rfl⟩ := mem_moduleIds_site.mp member
    rw [module_site inside] at listed
    obtain ⟨different, name, _, isSibling⟩ := mem_wiredSiblings listed
    cases isParent : (ofDeclarations declarations).parent site.id with
    | none =>
        rw [(parent_site_none inside isParent).2.1] at isSibling
        have root := mem_roots.mp (List.mem_map.mpr ⟨_, isSibling, rfl⟩)
        exact ⟨root.1, different, root.2⟩
    | some parent =>
        obtain ⟨above, aboveInside, rfl, kin⟩ := parent_site_some inside isParent
        rw [kin.siblings] at isSibling
        obtain ⟨below, belowInside, same, belowKin⟩ :=
          exists_child_site aboveInside isSibling
        injection same with sameId
        subst sameId
        exact ⟨mem_moduleIds_site.mpr ⟨below, belowInside, rfl⟩, different,
          parent_child_site belowInside belowKin⟩
  path_root id member isRoot := by
    obtain ⟨site, inside, rfl⟩ := mem_moduleIds_site.mp member
    rw [Model.path, module_site inside]
    change site.around.pathOf site.name = site.name
    rw [(parent_site_none inside isRoot).1]
    rfl
  path_child id member parent isParent := by
    obtain ⟨site, inside, rfl⟩ := mem_moduleIds_site.mp member
    obtain ⟨above, aboveInside, rfl, kin⟩ := parent_site_some inside isParent
    rw [Model.path, Model.path, module_site inside, module_site aboveInside]
    change site.around.pathOf site.name = above.path ++ "." ++ site.name
    rw [kin.around]
    rfl
  beans id member bean := by
    obtain ⟨site, inside, rfl⟩ := mem_moduleIds_site.mp member
    rw [module_site inside]
    exact mem_module_beans inside
  beans_placed id member := by
    obtain ⟨site, inside, rfl⟩ := mem_moduleIds_site.mp member
    rw [module_site inside]
    exact module_beans_placed inside
  bean_module bean known := by
    obtain ⟨site, inside, row, rowInside, rfl⟩ := mem_beanIds_row.mp known
    rw [(bean_row inside rowInside).2, (Layout.mem_ofBeans_beans site.id rowInside).1]
    exact mem_moduleIds_site.mpr ⟨site, inside, rfl⟩
  bean_provides bean listed := by
    rw [ofDeclarations_beans] at listed
    obtain ⟨site, _, row⟩ := List.mem_flatMap.mp listed
    exact Layout.provides_nodup_of_mem _ row
  moduleSockets id member socket := by
    obtain ⟨site, inside, rfl⟩ := mem_moduleIds_site.mp member
    rw [module_site inside]
    exact mem_module_sockets inside
  moduleSockets_placed id member := by
    obtain ⟨site, inside, rfl⟩ := mem_moduleIds_site.mp member
    rw [module_site inside]
    exact module_sockets_placed inside
  beanSockets id known socket := by
    obtain ⟨site, inside, row, rowInside, rfl⟩ := mem_beanIds_row.mp known
    rw [(bean_row inside rowInside).2]
    exact mem_bean_sockets inside rowInside
  beanSockets_placed id known := by
    obtain ⟨site, inside, row, rowInside, rfl⟩ := mem_beanIds_row.mp known
    rw [(bean_row inside rowInside).2]
    exact bean_sockets_placed inside rowInside
  owner_module socket known id owner := by
    obtain ⟨site, inside, row, rowInside, rfl⟩ := mem_socketIds_row.mp known
    rw [(socket_row inside rowInside).2] at owner ⊢
    obtain ⟨inModule, ⟨ofModule, _⟩ | ⟨_, _, ofBean, _⟩⟩ := socket_row_owner rowInside
    · injection owner.symm.trans ofModule with same
      exact ⟨mem_moduleIds_site.mpr ⟨site, inside, same.symm⟩, inModule.trans same.symm⟩
    · cases owner.symm.trans ofBean
  owner_bean socket known id owner := by
    obtain ⟨site, inside, row, rowInside, rfl⟩ := mem_socketIds_row.mp known
    rw [(socket_row inside rowInside).2] at owner ⊢
    obtain ⟨inModule, ⟨ofModule, _⟩ | ⟨holder, held, ofBean, _⟩⟩ :=
      socket_row_owner rowInside
    · cases owner.symm.trans ofModule
    · injection owner.symm.trans ofBean with same
      subst same
      rw [(bean_row inside held).2]
      exact ⟨(bean_row inside held).1,
        inModule.trans (Layout.mem_ofBeans_beans site.id held).1.symm⟩

end Application

end StaticInjection
