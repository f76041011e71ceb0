import StaticInjection.Proofs.Diagnostic.Report
import StaticInjection.Proofs.Model.Tree

/-! # Declarations in the order of modules

A forest is laid out so that the module at a position is the one whose
declaration a reader meets at that position, and a subtree takes the positions
after its root. A model says everything that its declarations say, and lists
every module, bean and socket once. -/

namespace StaticInjection

/-! ## The order in which a reader meets declarations -/

mutual

/-- A declaration, then the declarations that it holds. -/
def ModuleDeclaration.preorder : ModuleDeclaration → List ModuleDeclaration
  | { name, beans, sockets, modules, wiredModules, position } =>
    { name, beans, sockets, modules, wiredModules, position } :: forestPreorder modules

def forestPreorder : List ModuleDeclaration → List ModuleDeclaration
  | [] => []
  | module :: rest => module.preorder ++ forestPreorder rest

end

mutual

theorem moduleSites_declarations (around : Layout.Surroundings)
    (siblings : List (ModuleId × String)) (start : Extent) :
    (declaration : ModuleDeclaration) →
    (moduleSites around siblings start declaration).map (·.declaration) =
      declaration.preorder
  | { name, beans, sockets, modules, wiredModules, position } => by
      rw [moduleSites, ModuleDeclaration.preorder, List.map_cons,
        forestSites_declarations _ _ _ modules]

theorem forestSites_declarations (around : Layout.Surroundings)
    (siblings : List (ModuleId × String)) (start : Extent) :
    (forest : List ModuleDeclaration) →
    (forestSites around siblings start forest).map (·.declaration) =
      forestPreorder forest
  | [] => by
      rw [forestSites, forestPreorder]
      rfl
  | module :: rest => by
      rw [forestSites, forestPreorder, List.map_append,
        moduleSites_declarations around siblings start module,
        forestSites_declarations around siblings (start.add module.extent) rest]

end

theorem sitesExtent_modules (sites : List Site) :
    (sitesExtent sites).modules = sites.length := by
  induction sites with
  | nil => rfl
  | cons site rest induction =>
      simp [sitesExtent, Site.extent, induction, Nat.add_comm]

theorem preorder_length (declaration : ModuleDeclaration) :
    declaration.preorder.length = declaration.extent.modules := by
  rw [← moduleSites_declarations .none [] .zero, List.length_map, ← sitesExtent_modules,
    (moduleSites_chained _ _ _ _).2]

/-! ## Subtrees -/

namespace Site

/-- The sites of a site and of everything below it. -/
def subtree (site : Site) : List Site :=
  moduleSites site.around site.siblings site.start site.declaration

theorem subtree_length (site : Site) :
    site.subtree.length = site.declaration.preorder.length := by
  rw [← moduleSites_declarations site.around site.siblings site.start, List.length_map, subtree]

theorem mem_subtree_self (site : Site) : site ∈ site.subtree := by
  rw [subtree, moduleSites_eq]
  exact List.mem_cons_self

theorem subtree_numbered (site : Site) :
    Numbered (·.id.index) site.start.modules site.subtree := by
  have numbered := (moduleSites_chained site.around site.siblings site.start
    site.declaration).1.modules_numbered
  simpa [Numbered, Layout.ofSites, Site.module, Function.comp_def, subtree] using numbered

/-- The numbers in a subtree are those from the number of its root on. -/
theorem exists_subtree_iff (site : Site) {id : ModuleId} :
    (∃ below ∈ site.subtree, below.id = id) ↔
      site.id.index ≤ id.index ∧
        id.index < site.id.index + site.declaration.preorder.length := by
  rw [← site.subtree_length, show site.id.index = site.start.modules from rfl,
    ← List.mem_range'_1, ← show _ = List.range' _ _ from site.subtree_numbered, List.mem_map]
  constructor
  · rintro ⟨below, member, rfl⟩
    exact ⟨below, member, rfl⟩
  · rintro ⟨below, member, same⟩
    exact ⟨below, member, congrArg ModuleId.mk same⟩

end Site

mutual

theorem subtree_infix_moduleSites (around : Layout.Surroundings)
    (siblings : List (ModuleId × String)) (start : Extent) :
    (declaration : ModuleDeclaration) → ∀ site ∈ moduleSites around siblings start declaration,
      site.subtree <:+: moduleSites around siblings start declaration
  | { name, beans, sockets, modules, wiredModules, position } => by
      let top : Site := ⟨around, siblings, start,
        { name, beans, sockets, modules, wiredModules, position }⟩
      have below := subtree_infix_forestSites top.inside top.children top.childrenStart modules
      intro site member
      rw [moduleSites] at member
      rcases List.mem_cons.mp member with equal | member
      · subst equal
        exact List.infix_rfl
      · rw [moduleSites]
        exact List.infix_cons (below site member)

theorem subtree_infix_forestSites (around : Layout.Surroundings)
    (siblings : List (ModuleId × String)) (start : Extent) :
    (forest : List ModuleDeclaration) → ∀ site ∈ forestSites around siblings start forest,
      site.subtree <:+: forestSites around siblings start forest
  | [] => by
      rw [forestSites]
      intro site member
      cases member
  | module :: rest => by
      have first := subtree_infix_moduleSites around siblings start module
      have others := subtree_infix_forestSites around siblings (start.add module.extent) rest
      rw [forestSites]
      intro site member
      rcases List.mem_append.mp member with member | member
      · exact (first site member).trans (List.infix_append_left ..)
      · exact (others site member).trans (List.infix_append_right ..)

end

/-- The roots of a forest stand where the declarations before them end. -/
theorem forestRoots_preorder (front back forest : List ModuleDeclaration) :
    (Layout.forestRoots front.length forest).map
        (fun root => (front ++ forestPreorder forest ++ back)[root.1.index]?) =
      forest.map some := by
  induction forest generalizing front with
  | nil => rfl
  | cons module rest induction =>
      obtain ⟨below, unfolded⟩ : ∃ below, module.preorder = module :: below := by
        cases module
        rw [ModuleDeclaration.preorder]
        exact ⟨_, rfl⟩
      have later := induction (front ++ module.preorder)
      rw [List.length_append, preorder_length] at later
      rw [forestPreorder, Layout.forestRoots, List.map_cons, List.map_cons]
      refine congrArg₂ _ ?_ (by simpa using later)
      simp [unfolded]

end StaticInjection
