import StaticInjection.Proofs.Model.Site
import StaticInjection.Proofs.Order.Ascending
import StaticInjection.Proofs.Order.Repetition

/-! # Numbers of modules, beans and sockets

Every site begins where the one before it ends. So modules, beans and sockets
have the numbers of their positions. -/

namespace StaticInjection

/-- The items have consecutive numbers. -/
def Numbered (number : α → Nat) (start : Nat) (items : List α) : Prop :=
  items.map number = List.range' start items.length

namespace Numbered

variable {number : α → Nat} {start : Nat} {items : List α}

theorem nil : Numbered number start [] := rfl

theorem cons {item : α} (first : number item = start)
    (rest : Numbered number (start + 1) items) :
    Numbered number start (item :: items) := by
  simp only [Numbered, List.map_cons, List.length_cons, List.range'_succ, first]
  exact congrArg _ rest

theorem append {others : List α} (left : Numbered number start items)
    (right : Numbered number (start + items.length) others) :
    Numbered number start (items ++ others) := by
  unfold Numbered at *
  rw [List.map_append, left, right, List.length_append, ← List.range'_append_1]

theorem getElem (numbered : Numbered number start items) {position : Nat}
    (inside : position < items.length) :
    number items[position] = start + position := by
  have mapped : (items.map number)[position]? = (List.range' start items.length)[position]? := by
    rw [show items.map number = List.range' start items.length from numbered]
  simpa [inside] using mapped

theorem getElem?_number (numbered : Numbered number 0 items) {item : α}
    (member : item ∈ items) : items[number item]? = some item := by
  obtain ⟨position, inside, rfl⟩ := List.getElem_of_mem member
  rw [numbered.getElem inside, Nat.zero_add]
  exact List.getElem?_eq_getElem inside

theorem ascending (numbered : Numbered number start items) :
    items.Pairwise fun left right => number left < number right := by
  have sorted := List.pairwise_lt_range' (s := start) (n := items.length)
  rw [← show items.map number = List.range' start items.length from numbered] at sorted
  exact List.pairwise_map.mp sorted

theorem nodup (numbered : Numbered number start items) : items.Nodup :=
  numbered.ascending.imp fun before same => Nat.ne_of_lt before (congrArg number same)

end Numbered

/-! ## Sockets and beans of one site -/

namespace Layout

variable (owner : SocketOwner) (module : ModuleId)

@[simp] theorem ofSockets_length (start index : Nat)
    (sockets : List SocketDeclaration) :
    (ofSockets owner module start index sockets).length = sockets.length := by
  induction sockets generalizing start index with
  | nil => rfl
  | cons _ _ induction => simp [ofSockets, induction]

theorem ofSockets_numbered (start index : Nat) (sockets : List SocketDeclaration) :
    Numbered (·.id.index) start (ofSockets owner module start index sockets) := by
  induction sockets generalizing start index with
  | nil => exact .nil
  | cons socket rest induction => exact .cons rfl (induction (start + 1) (index + 1))

theorem ofSockets_placed (start index : Nat) (sockets : List SocketDeclaration) :
    Numbered (·.index) index (ofSockets owner module start index sockets) := by
  induction sockets generalizing start index with
  | nil => exact .nil
  | cons socket rest induction => exact .cons rfl (induction (start + 1) (index + 1))

theorem ofSockets_ids (start index : Nat) (sockets : List SocketDeclaration) :
    (ofSockets owner module start index sockets).map (·.id) =
      socketIds start sockets.length := by
  induction sockets generalizing start index with
  | nil => rfl
  | cons socket rest induction =>
      simp only [ofSockets, List.map_cons, List.length_cons, socketIds,
        List.range'_succ]
      exact congrArg _ (induction (start + 1) (index + 1))

theorem mem_ofSockets {start index : Nat} {sockets : List SocketDeclaration}
    {socket : Socket} (member : socket ∈ ofSockets owner module start index sockets) :
    socket.owner = owner ∧ socket.module = module := by
  induction sockets generalizing start index with
  | nil => cases member
  | cons head rest induction =>
      rcases List.mem_cons.mp member with equal | later
      · exact equal ▸ ⟨rfl, rfl⟩
      · exact induction later

@[simp] theorem ofBeans_beans_length (start : Extent) (index : Nat)
    (beans : List BeanDeclaration) :
    (ofBeans module start index beans).beans.length = beans.length := by
  induction beans generalizing start index with
  | nil => rfl
  | cons _ _ induction => simp [ofBeans, induction]

@[simp] theorem ofBeans_sockets_length (start : Extent) (index : Nat)
    (beans : List BeanDeclaration) :
    (ofBeans module start index beans).sockets.length =
      (beansExtent beans).sockets := by
  induction beans generalizing start index with
  | nil => rfl
  | cons _ _ induction => simp [ofBeans, beansExtent, induction]

theorem ofBeans_beans_numbered (start : Extent) (index : Nat)
    (beans : List BeanDeclaration) :
    Numbered (·.id.index) start.beans (ofBeans module start index beans).beans := by
  induction beans generalizing start index with
  | nil => exact .nil
  | cons bean rest induction => exact .cons rfl (induction _ (index + 1))

theorem ofBeans_beans_placed (start : Extent) (index : Nat)
    (beans : List BeanDeclaration) :
    Numbered (·.index) index (ofBeans module start index beans).beans := by
  induction beans generalizing start index with
  | nil => exact .nil
  | cons bean rest induction => exact .cons rfl (induction _ (index + 1))

theorem ofBeans_beans_ids (start : Extent) (index : Nat)
    (beans : List BeanDeclaration) :
    (ofBeans module start index beans).beans.map (·.id) =
      beanIds start.beans beans.length := by
  induction beans generalizing start index with
  | nil => rfl
  | cons bean rest induction =>
      simp only [ofBeans, append_beans, List.singleton_append, List.map_cons,
        List.length_cons, beanIds, List.range'_succ]
      exact congrArg _ (induction _ (index + 1))

theorem ofBeans_sockets_numbered (start : Extent) (index : Nat)
    (beans : List BeanDeclaration) :
    Numbered (·.id.index) start.sockets (ofBeans module start index beans).sockets := by
  induction beans generalizing start index with
  | nil => exact .nil
  | cons bean rest induction =>
      refine (ofSockets_numbered _ module start.sockets 0 bean.sockets).append ?_
      simpa using induction (start.add ⟨0, 1, bean.sockets.length⟩) (index + 1)

/-- A bean provides each of its types once. -/
theorem provides_nodup_of_mem {start : Extent} {index : Nat} {beans : List BeanDeclaration}
    {bean : Bean} (member : bean ∈ (ofBeans module start index beans).beans) :
    bean.provides.Nodup := by
  induction beans generalizing start index with
  | nil => cases member
  | cons head rest induction =>
      simp only [ofBeans, append_beans, List.singleton_append, List.mem_cons] at member
      rcases member with rfl | later
      · exact nodup_eraseDups _
      · exact induction later

/-- The sockets of a bean are those that name it as their owner, in order. -/
theorem mem_ofBeans_beans {start : Extent} {index : Nat}
    {beans : List BeanDeclaration} {bean : Bean}
    (member : bean ∈ (ofBeans module start index beans).beans) :
    bean.module = module ∧
      ∃ sockets : List Socket,
        (∀ socket ∈ sockets, socket ∈ (ofBeans module start index beans).sockets ∧
          socket.owner = .bean bean.id ∧ socket.module = module) ∧
        sockets.map (·.id) = bean.sockets ∧
        Numbered (·.index) 0 sockets := by
  induction beans generalizing start index with
  | nil => cases member
  | cons head rest induction =>
      simp only [ofBeans, append_beans, List.singleton_append, List.mem_cons] at member
      rcases member with equal | later
      · subst equal
        refine ⟨rfl, ofSockets (.bean ⟨start.beans⟩) module start.sockets 0 head.sockets,
          ?_, ofSockets_ids _ _ _ _ _, ofSockets_placed _ _ _ _ _⟩
        intro socket inside
        exact ⟨List.mem_append_left _ inside, mem_ofSockets _ _ inside⟩
      · obtain ⟨inModule, sockets, inside, ids, placed⟩ := induction later
        refine ⟨inModule, sockets, ?_, ids, placed⟩
        intro socket member
        exact ⟨List.mem_append_right _ (inside socket member).1, (inside socket member).2⟩

theorem mem_ofBeans_sockets {start : Extent} {index : Nat}
    {beans : List BeanDeclaration} {socket : Socket}
    (member : socket ∈ (ofBeans module start index beans).sockets) :
    socket.module = module ∧
      ∃ bean ∈ (ofBeans module start index beans).beans,
        socket.owner = .bean bean.id ∧ socket.id ∈ bean.sockets := by
  induction beans generalizing start index with
  | nil => cases member
  | cons head rest induction =>
      simp only [ofBeans, append_sockets, List.mem_append] at member
      rcases member with first | later
      · have facts := mem_ofSockets _ _ first
        refine ⟨facts.2, ofBean module start index head, List.mem_cons_self, facts.1, ?_⟩
        have listed := List.mem_map_of_mem (f := (·.id)) first
        rwa [ofSockets_ids] at listed
      · obtain ⟨inModule, bean, inside, owner, listed⟩ := induction later
        exact ⟨inModule, bean, List.mem_cons_of_mem _ inside, owner, listed⟩

end Layout

/-! ## Sites of a forest -/

namespace Site

theorem sockets_numbered (site : Site) :
    Numbered (·.id.index) site.start.sockets site.sockets := by
  refine (Layout.ofSockets_numbered _ _ _ _ _).append ?_
  simpa [beanRows, beansStart, moduleSockets] using
    Layout.ofBeans_sockets_numbered site.id site.beansStart 0 site.declaration.beans

theorem sockets_length (site : Site) : site.sockets.length = site.extent.sockets := by
  simp [sockets, moduleSockets, beanRows, extent]

theorem beans_numbered (site : Site) :
    Numbered (·.id.index) site.start.beans site.beanRows.beans := by
  simpa [beanRows, beansStart] using
    Layout.ofBeans_beans_numbered site.id site.beansStart 0 site.declaration.beans

theorem beans_length (site : Site) :
    site.beanRows.beans.length = site.extent.beans := by
  simp [beanRows, extent]

end Site

/-- Each site begins where the one before it ends. -/
def Chained : Extent → List Site → Prop
  | _, [] => True
  | start, site :: rest => site.start = start ∧ Chained (start.add site.extent) rest

/-- The room that some sites take. -/
def sitesExtent : List Site → Extent
  | [] => .zero
  | site :: rest => site.extent.add (sitesExtent rest)

theorem Chained.append {start : Extent} {left right : List Site}
    (first : Chained start left) (second : Chained (start.add (sitesExtent left)) right) :
    Chained start (left ++ right) := by
  induction left generalizing start with
  | nil => exact second
  | cons site rest induction =>
      refine ⟨first.1, induction first.2 ?_⟩
      rwa [Extent.add_assoc]

theorem Extent.zero_add (extent : Extent) : Extent.zero.add extent = extent :=
  Extent.ext (Nat.zero_add _) (Nat.zero_add _) (Nat.zero_add _)

theorem sitesExtent_append (left right : List Site) :
    sitesExtent (left ++ right) = (sitesExtent left).add (sitesExtent right) := by
  induction left with
  | nil => exact (Extent.zero_add _).symm
  | cons site rest induction =>
      simp only [List.cons_append, sitesExtent, induction, Extent.add_assoc]

mutual

theorem moduleSites_chained (around : Layout.Surroundings)
    (siblings : List (ModuleId × String)) (start : Extent) :
    (declaration : ModuleDeclaration) →
    Chained start (moduleSites around siblings start declaration) ∧
      sitesExtent (moduleSites around siblings start declaration) = declaration.extent
  | { name, beans, sockets, modules, wiredModules, position } => by
      let site : Site := ⟨around, siblings, start,
        { name, beans, sockets, modules, wiredModules, position }⟩
      have below := forestSites_chained site.inside site.children site.childrenStart modules
      rw [moduleSites]
      refine ⟨⟨rfl, ?_⟩, ?_⟩
      · rw [← site.childrenStart_eq]
        exact below.1
      · rw [sitesExtent, below.2]
        exact (extent_eq site).symm

theorem forestSites_chained (around : Layout.Surroundings)
    (siblings : List (ModuleId × String)) (start : Extent) :
    (forest : List ModuleDeclaration) →
    Chained start (forestSites around siblings start forest) ∧
      sitesExtent (forestSites around siblings start forest) = forestExtent forest
  | [] => by
      rw [forestSites]
      exact ⟨trivial, rfl⟩
  | module :: rest => by
      have first := moduleSites_chained around siblings start module
      have others := forestSites_chained around siblings (start.add module.extent) rest
      rw [forestSites, sitesExtent_append, first.2, others.2]
      refine ⟨first.1.append ?_, rfl⟩
      rw [first.2]
      exact others.1

end

theorem Chained.modules_numbered {start : Extent} {sites : List Site}
    (chained : Chained start sites) :
    Numbered (·.id.index) start.modules (Layout.ofSites sites).modules := by
  induction sites generalizing start with
  | nil => exact .nil
  | cons site rest induction =>
      refine .cons (congrArg Extent.modules chained.1) ?_
      simpa [Site.extent, Layout.ofSites] using induction chained.2

theorem Chained.beans_numbered {start : Extent} {sites : List Site}
    (chained : Chained start sites) :
    Numbered (·.id.index) start.beans (Layout.ofSites sites).beans := by
  induction sites generalizing start with
  | nil => exact .nil
  | cons site rest induction =>
      have own := site.beans_numbered
      rw [chained.1] at own
      refine own.append ?_
      rw [site.beans_length]
      exact induction chained.2

theorem Chained.sockets_numbered {start : Extent} {sites : List Site}
    (chained : Chained start sites) :
    Numbered (·.id.index) start.sockets (Layout.ofSites sites).sockets := by
  induction sites generalizing start with
  | nil => exact .nil
  | cons site rest induction =>
      have own := site.sockets_numbered
      rw [chained.1] at own
      refine own.append ?_
      rw [site.sockets_length]
      exact induction chained.2

/-- The sites of a whole application. -/
def applicationSites (declarations : List ModuleDeclaration) : List Site :=
  forestSites .none (Layout.forestRoots 0 declarations) .zero declarations

theorem applicationSites_chained (declarations : List ModuleDeclaration) :
    Chained .zero (applicationSites declarations) :=
  (forestSites_chained _ _ _ _).1

namespace Model

variable (declarations : List ModuleDeclaration)

theorem ofDeclarations_modules : (ofDeclarations declarations).modules =
    (applicationSites declarations).map (·.module) :=
  congrArg Layout.modules (ofForest_eq _ _ _ _)

theorem ofDeclarations_beans : (ofDeclarations declarations).beans =
    (applicationSites declarations).flatMap (·.beanRows.beans) :=
  congrArg Layout.beans (ofForest_eq _ _ _ _)

theorem ofDeclarations_sockets : (ofDeclarations declarations).sockets =
    (applicationSites declarations).flatMap (·.sockets) :=
  congrArg Layout.sockets (ofForest_eq _ _ _ _)

end Model

end StaticInjection
