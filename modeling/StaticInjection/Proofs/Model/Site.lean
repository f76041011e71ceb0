import Mathlib.Data.List.Basic
import StaticInjection.Model.Layout

/-! # Sites

A site is a declaration of a module with its place in a model. The model of a
forest is its sites in the order in which a reader meets them, and each site
gives one module, the beans of that module and their sockets. What is said of
modules in a model is said of sites first, where the declarations are at hand. -/

namespace StaticInjection

/-! ## Numbers of a part -/

namespace Extent

theorem ext {left right : Extent} (modules : left.modules = right.modules)
    (beans : left.beans = right.beans) (sockets : left.sockets = right.sockets) :
    left = right := by
  cases left; cases right; simp_all

theorem add_assoc (first second third : Extent) :
    (first.add second).add third = first.add (second.add third) :=
  ext (Nat.add_assoc _ _ _) (Nat.add_assoc _ _ _) (Nat.add_assoc _ _ _)

@[simp] theorem add_zero (extent : Extent) : extent.add .zero = extent := rfl

@[simp] theorem add_modules (left right : Extent) :
    (left.add right).modules = left.modules + right.modules := rfl

@[simp] theorem add_beans (left right : Extent) :
    (left.add right).beans = left.beans + right.beans := rfl

@[simp] theorem add_sockets (left right : Extent) :
    (left.add right).sockets = left.sockets + right.sockets := rfl

end Extent

@[simp] theorem beansExtent_modules (beans : List BeanDeclaration) :
    (beansExtent beans).modules = 0 := by
  induction beans with
  | nil => rfl
  | cons _ _ induction => simp [beansExtent, induction]

@[simp] theorem beansExtent_beans (beans : List BeanDeclaration) :
    (beansExtent beans).beans = beans.length := by
  induction beans with
  | nil => rfl
  | cons _ _ induction => simp [beansExtent, induction, Nat.add_comm]

namespace Layout

@[simp] theorem append_modules (left right : Layout) :
    (left ++ right).modules = left.modules ++ right.modules := rfl

@[simp] theorem append_beans (left right : Layout) :
    (left ++ right).beans = left.beans ++ right.beans := rfl

@[simp] theorem append_sockets (left right : Layout) :
    (left ++ right).sockets = left.sockets ++ right.sockets := rfl

@[simp] theorem ofBeans_modules (module : ModuleId) (start : Extent) (index : Nat)
    (beans : List BeanDeclaration) : (ofBeans module start index beans).modules = [] := by
  induction beans generalizing start index with
  | nil => rfl
  | cons _ _ induction => simp [ofBeans, induction]

end Layout

/-! ## Sites of a forest -/

structure Site where
  around : Layout.Surroundings
  siblings : List (ModuleId × String)
  start : Extent
  declaration : ModuleDeclaration

namespace Site

def id (site : Site) : ModuleId :=
  ⟨site.start.modules⟩

def name (site : Site) : String :=
  site.declaration.name

def path (site : Site) : String :=
  site.around.pathOf site.name

def beansStart (site : Site) : Extent :=
  site.start.add ⟨1, 0, site.declaration.sockets.length⟩

def childrenStart (site : Site) : Extent :=
  site.beansStart.add (beansExtent site.declaration.beans)

def children (site : Site) : List (ModuleId × String) :=
  Layout.forestRoots site.childrenStart.modules site.declaration.modules

/-- What lies around the children of a site. -/
def inside (site : Site) : Layout.Surroundings :=
  ⟨site.id :: site.around.lineage, some site.path⟩

def module (site : Site) : Module where
  id := site.id
  name := site.name
  path := site.path
  ancestors := site.around.lineage
  children := site.children.map (·.1)
  beans := Layout.beanIds site.start.beans site.declaration.beans.length
  sockets := Layout.socketIds site.start.sockets site.declaration.sockets.length
  wiredNames := site.declaration.wiredModules
  wiredModules :=
    Layout.wiredSiblings site.siblings site.id site.declaration.wiredModules
  position := site.declaration.position

def moduleSockets (site : Site) : List Socket :=
  Layout.ofSockets (.module site.id) site.id site.start.sockets 0
    site.declaration.sockets

/-- The beans of a site with their sockets. -/
def beanRows (site : Site) : Layout :=
  Layout.ofBeans site.id site.beansStart 0 site.declaration.beans

def sockets (site : Site) : List Socket :=
  site.moduleSockets ++ site.beanRows.sockets

/-- The room that a site takes without its children. -/
def extent (site : Site) : Extent :=
  Extent.add ⟨1, 0, site.declaration.sockets.length⟩
    (beansExtent site.declaration.beans)

theorem childrenStart_eq (site : Site) :
    site.childrenStart = site.start.add site.extent :=
  Extent.add_assoc _ _ _

/-- A site among the children of another one. -/
structure IsChildOf (site parent : Site) : Prop where
  around : site.around = parent.inside
  siblings : site.siblings = parent.children
  listed : (site.id, site.name) ∈ parent.children

end Site

mutual

def moduleSites (around : Layout.Surroundings) (siblings : List (ModuleId × String))
    (start : Extent) : ModuleDeclaration → List Site
  | { name, beans, sockets, modules, wiredModules, position } =>
    let site : Site := ⟨around, siblings, start,
      { name, beans, sockets, modules, wiredModules, position }⟩
    site :: forestSites site.inside site.children site.childrenStart modules

def forestSites (around : Layout.Surroundings) (siblings : List (ModuleId × String))
    (start : Extent) : List ModuleDeclaration → List Site
  | [] => []
  | module :: rest =>
    moduleSites around siblings start module ++
      forestSites around siblings (start.add module.extent) rest

end

theorem moduleSites_eq (around : Layout.Surroundings)
    (siblings : List (ModuleId × String)) (start : Extent)
    (declaration : ModuleDeclaration) :
    moduleSites around siblings start declaration =
      let site : Site := ⟨around, siblings, start, declaration⟩
      site :: forestSites site.inside site.children site.childrenStart
        declaration.modules := by
  cases declaration
  rw [moduleSites]

theorem extent_eq (site : Site) :
    site.declaration.extent =
      site.extent.add (forestExtent site.declaration.modules) := by
  obtain ⟨_, _, _, declaration⟩ := site
  cases declaration
  rw [ModuleDeclaration.extent]
  rfl

/-! ## Rows -/

/-- The modules, beans and sockets of some sites. -/
def Layout.ofSites (sites : List Site) : Layout where
  modules := sites.map (·.module)
  beans := sites.flatMap (·.beanRows.beans)
  sockets := sites.flatMap (·.sockets)

theorem Layout.ofSites_append (left right : List Site) :
    Layout.ofSites (left ++ right) = Layout.ofSites left ++ Layout.ofSites right := by
  simp only [Layout.ofSites, List.map_append, List.flatMap_append]
  rfl

mutual

theorem ofModule_eq (around : Layout.Surroundings)
    (siblings : List (ModuleId × String)) (start : Extent) :
    (declaration : ModuleDeclaration) →
    Layout.ofModule around siblings start declaration =
      Layout.ofSites (moduleSites around siblings start declaration)
  | { name, beans, sockets, modules, wiredModules, position } => by
      let site : Site := ⟨around, siblings, start,
        { name, beans, sockets, modules, wiredModules, position }⟩
      have below := ofForest_eq site.inside site.children site.childrenStart modules
      rw [Layout.ofModule, moduleSites]
      change (⟨[site.module], [], site.moduleSockets⟩ : Layout) ++ site.beanRows ++
        Layout.ofForest site.inside site.children site.childrenStart modules = _
      rw [below]
      have noModules : site.beanRows.modules = [] := Layout.ofBeans_modules _ _ _ _
      change (⟨_, _, _⟩ : Layout) = ⟨_, _, _⟩
      simp [Layout.ofSites, Site.sockets, noModules, site]

theorem ofForest_eq (around : Layout.Surroundings)
    (siblings : List (ModuleId × String)) (start : Extent) :
    (forest : List ModuleDeclaration) →
    Layout.ofForest around siblings start forest =
      Layout.ofSites (forestSites around siblings start forest)
  | [] => by
      rw [Layout.ofForest, forestSites]
      rfl
  | module :: rest => by
      rw [Layout.ofForest, forestSites, Layout.ofSites_append,
        ofModule_eq around siblings start module,
        ofForest_eq around siblings (start.add module.extent) rest]

end

end StaticInjection
