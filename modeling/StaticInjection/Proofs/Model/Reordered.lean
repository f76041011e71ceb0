import Mathlib.Data.Multiset.MapFold
import StaticInjection.Proofs.Model.Arrangement

/-! # Declarations in another order

Roots, children and beans may be declared in any order. What a model says of its
modules is then the same, up to their numbers. -/

namespace StaticInjection

/-- The same declarations with the roots, and in any modules the children and the
beans, in another order. -/
inductive Reordered : List ModuleDeclaration → List ModuleDeclaration → Prop
  | nil : Reordered [] []
  | cons {name : String} {beans beans' : List BeanDeclaration}
      {sockets : List SocketDeclaration} {modules modules' rest rest' : List ModuleDeclaration}
      {wiredModules : List String} {position : Option SourcePosition} :
      beans.Perm beans' → Reordered modules modules' → Reordered rest rest' →
      Reordered ({ name, beans, sockets, modules, wiredModules, position } :: rest)
        ({ name, beans := beans', sockets, modules := modules', wiredModules, position } :: rest')
  | swap (first second : ModuleDeclaration) (rest : List ModuleDeclaration) :
      Reordered (first :: second :: rest) (second :: first :: rest)
  | trans {first second third : List ModuleDeclaration} :
      Reordered first second → Reordered second third → Reordered first third

namespace Reordered

theorem refl : (forest : List ModuleDeclaration) → Reordered forest forest
  | [] => .nil
  | { modules, .. } :: rest => .cons (.refl _) (refl modules) (refl rest)

theorem symm {left right : List ModuleDeclaration} (reordered : Reordered left right) :
    Reordered right left := by
  induction reordered with
  | nil => exact .nil
  | cons beans _ _ modules rest => exact .cons beans.symm modules rest
  | swap first second rest => exact .swap second first rest
  | trans _ _ first second => exact .trans second first

theorem of_perm {left right : List ModuleDeclaration} (perm : left.Perm right) :
    Reordered left right := by
  induction perm with
  | nil => exact .nil
  | cons module _ rest =>
      cases module
      exact .cons (.refl _) (refl _) rest
  | swap first second rest => exact .swap second first rest
  | trans _ _ first second => exact .trans first second

end Reordered

/-! ## What is said of a module -/

/-- A module without its number and without the order of its beans. -/
structure ModuleView where
  path : String
  /-- The path of the module around. -/
  above : Option String
  name : String
  wiredNames : List String
  position : Option SourcePosition
  sockets : List SocketDeclaration
  beans : Multiset BeanDeclaration

/-- A bean with all its types, as a model has it. -/
def BeanDeclaration.complete (bean : BeanDeclaration) : BeanDeclaration :=
  { bean with provides := (bean.declaredType :: bean.provides).eraseDups }

def Site.view (site : Site) : ModuleView where
  path := site.path
  above := site.around.path
  name := site.name
  wiredNames := site.declaration.wiredModules
  position := site.declaration.position
  sockets := site.declaration.sockets
  beans := (site.declaration.beans.map (·.complete) : List BeanDeclaration)

def Model.beanDeclaration (model : Model) (id : BeanId) : BeanDeclaration :=
  model.declaredBean (model.bean id)

def Model.view (model : Model) (id : ModuleId) : ModuleView where
  path := model.path id
  above := (model.parent id).map model.path
  name := (model.module id).name
  wiredNames := (model.module id).wiredNames
  position := (model.module id).position
  sockets := model.declaredSockets (model.module id).sockets
  beans := ((model.module id).beans.map model.beanDeclaration : List BeanDeclaration)

section Application

variable {declarations : List ModuleDeclaration}

open Model

theorem beanDeclarations_site {site : Site} (member : site ∈ applicationSites declarations) :
    site.module.beans.map (ofDeclarations declarations).beanDeclaration =
      site.declaration.beans.map (·.complete) := by
  have ids : site.beanRows.beans.map (·.id) = site.module.beans :=
    Layout.ofBeans_beans_ids site.id site.beansStart 0 site.declaration.beans
  rw [← ids, List.map_map, eq_comm, ← List.forall₂_eq_eq_eq, List.forall₂_map_left_iff,
    List.forall₂_map_right_iff]
  refine (Layout.ofBeans_rows site.id site.beansStart 0 site.declaration.beans).imp ?_
  rintro declaration bean ⟨row, start, index, rfl, rows⟩
  have holds : (ofDeclarations declarations).BeanHolds declaration
      (Layout.ofBean site.id start index declaration) :=
    bean_holds member fun socket inside => List.mem_append_right _ (rows socket inside)
  rw [Function.comp_apply, beanDeclaration, (bean_row member row).2]
  exact holds.declared.symm

theorem view_site {site : Site} (member : site ∈ applicationSites declarations) :
    (ofDeclarations declarations).view site.id = site.view := by
  have above : ((ofDeclarations declarations).parent site.id).map
      (ofDeclarations declarations).path = site.around.path := by
    rw [parent_site member]
    rcases site_kin member with ⟨around, _⟩ | ⟨parent, inside, kin⟩
    · rw [around]
      rfl
    · rw [kin.around]
      exact congrArg (some <| Module.path ·) (module_site inside)
  have sockets : (ofDeclarations declarations).declaredSockets site.module.sockets =
      site.declaration.sockets :=
    (module_holds member).sockets
  rw [view, above, Model.path, module_site member, sockets, beanDeclarations_site member]
  rfl

theorem views_eq (declarations : List ModuleDeclaration) :
    (ofDeclarations declarations).moduleIds.map (ofDeclarations declarations).view =
      (applicationSites declarations).map (·.view) := by
  rw [moduleIds, ofDeclarations_modules, List.map_map]
  refine List.map_map.trans ?_
  exact List.map_congr_left fun site member => view_site member

end Application

/-! ## Views of reordered declarations -/

mutual

/-- The same declarations look the same at any place with the same path. -/
theorem moduleSites_views {left right : Layout.Surroundings} (same : left.path = right.path)
    (siblings siblings' : List (ModuleId × String)) (start start' : Extent) :
    (declaration : ModuleDeclaration) →
    (moduleSites left siblings start declaration).map (·.view) =
      (moduleSites right siblings' start' declaration).map (·.view)
  | { name, beans, sockets, modules, wiredModules, position } => by
      have path : left.pathOf name = right.pathOf name := by
        rw [Layout.Surroundings.pathOf, Layout.Surroundings.pathOf, same]
      let declaration : ModuleDeclaration :=
        { name, beans, sockets, modules, wiredModules, position }
      let site : Site := ⟨left, siblings, start, declaration⟩
      let site' : Site := ⟨right, siblings', start', declaration⟩
      have inside : site.inside.path = site'.inside.path := congrArg some path
      have below := forestSites_views inside site.children site'.children site.childrenStart
        site'.childrenStart modules
      have first : site.view = site'.view := by
        simp only [Site.view, Site.path, Site.name, same, path, site, site', declaration]
      rw [moduleSites, moduleSites, List.map_cons, List.map_cons]
      exact congrArg₂ List.cons first below

theorem forestSites_views {left right : Layout.Surroundings} (same : left.path = right.path)
    (siblings siblings' : List (ModuleId × String)) (start start' : Extent) :
    (forest : List ModuleDeclaration) →
    (forestSites left siblings start forest).map (·.view) =
      (forestSites right siblings' start' forest).map (·.view)
  | [] => by rw [forestSites, forestSites]
  | module :: rest => by
      rw [forestSites, forestSites, List.map_append, List.map_append,
        moduleSites_views same _ _ _ _ module, forestSites_views same _ _ _ _ rest]

end

theorem Reordered.views {left right : List ModuleDeclaration} (reordered : Reordered left right)
    {around around' : Layout.Surroundings} (same : around.path = around'.path)
    (siblings siblings' : List (ModuleId × String)) (start start' : Extent) :
    ((forestSites around siblings start left).map (·.view)).Perm
      ((forestSites around' siblings' start' right).map (·.view)) := by
  induction reordered generalizing around around' siblings siblings' start start' with
  | nil => rw [forestSites, forestSites]
  | @cons name beans beans' _ _ _ _ _ _ _ perm _ _ modules rest =>
      have path : around.pathOf name = around'.pathOf name := by
        rw [Layout.Surroundings.pathOf, Layout.Surroundings.pathOf, same]
      have types : (beans.map (·.complete) : Multiset BeanDeclaration) =
          (beans'.map (·.complete) : List BeanDeclaration) :=
        Multiset.coe_eq_coe.mpr (perm.map _)
      rw [forestSites, forestSites, moduleSites, moduleSites, List.map_append, List.map_append,
        List.map_cons, List.map_cons]
      refine List.Perm.append ?_ (rest same _ _ _ _)
      simp only [Site.view, Site.path, Site.name, same, path, types]
      exact (modules (congrArg some path) _ _ _ _).cons _
  | swap first second rest =>
      simp only [forestSites, List.map_append, ← List.append_assoc]
      refine List.Perm.append ?_ (.of_eq (forestSites_views same _ _ _ _ rest))
      refine List.perm_append_comm.trans (List.Perm.append ?_ ?_)
      · exact .of_eq (moduleSites_views same _ _ _ _ second)
      · exact .of_eq (moduleSites_views same _ _ _ _ first)
  | trans _ _ first second =>
      exact (first same siblings siblings' start start').trans (second rfl _ _ _ _)

/-- Reordered declarations have models that say the same of their modules. -/
theorem Reordered.model_views {left right : List ModuleDeclaration}
    (reordered : Reordered left right) :
    ((Model.ofDeclarations left).moduleIds.map (Model.ofDeclarations left).view).Perm
      ((Model.ofDeclarations right).moduleIds.map (Model.ofDeclarations right).view) := by
  rw [views_eq, views_eq]
  exact reordered.views rfl _ _ _ _

end StaticInjection
