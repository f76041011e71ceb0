import StaticInjection.Proofs.Diagnostic.Line
import StaticInjection.Proofs.Model.Arrangement
import StaticInjection.Proofs.Model.Path

/-! # Models without line breaks

A model holds the texts of its declarations and paths made of them, so all its texts
are lines when theirs are. Then whatever a diagnostic says about a place in the model, or
about one of its providers, is a line too. -/

namespace StaticInjection

open Text

/-! ## Declared texts

Types are left out: however they are declared, their names are lines. -/

def SocketDeclaration.texts (socket : SocketDeclaration) : List String :=
  socket.name :: socket.qualifier.toList ++ socket.wiredTo ++
    SourcePosition.filesOf socket.position

/-- The texts of a bean without those of its sockets. -/
def BeanDeclaration.ownTexts (bean : BeanDeclaration) : List String :=
  bean.name :: bean.qualifier.toList ++ bean.factory.toList ++ bean.init ++ bean.destroy ++
    SourcePosition.filesOf bean.position

/-- The texts of a module without those of its sockets, beans and children. -/
def ModuleDeclaration.ownTexts (module : ModuleDeclaration) : List String :=
  module.name :: module.wiredModules ++ SourcePosition.filesOf module.position

def ModuleDeclaration.texts (module : ModuleDeclaration) : List String :=
  module.ownTexts ++ module.sockets.flatMap (·.texts) ++
    module.beans.flatMap fun bean => bean.ownTexts ++ bean.sockets.flatMap (·.texts)

/-- Everything that is written in a forest of declarations. -/
def forestTexts (declarations : List ModuleDeclaration) : List String :=
  (forestPreorder declarations).flatMap (·.texts)

/-! ## Rows -/

theorem Layout.ofBeans_sockets_declared (module : ModuleId) (start : Extent) (index : Nat)
    (beans : List BeanDeclaration) :
    (ofBeans module start index beans).sockets.map (·.declared) =
      beans.flatMap (·.sockets) := by
  induction beans generalizing start index with
  | nil => rfl
  | cons bean rest induction =>
      rw [ofBeans, append_sockets, List.map_append, ofSockets_declared, induction,
        List.flatMap_cons]

theorem Site.sockets_declared (site : Site) :
    site.sockets.map (·.declared) =
      site.declaration.sockets ++ site.declaration.beans.flatMap (·.sockets) := by
  rw [sockets, List.map_append, moduleSockets, beanRows, Layout.ofSockets_declared,
    Layout.ofBeans_sockets_declared]

theorem Site.exists_declared_bean (site : Site) {bean : Bean} (row : bean ∈ site.beanRows.beans) :
    ∃ declaration ∈ site.declaration.beans, ∃ start index,
      bean = Layout.ofBean site.id start index declaration := by
  have rows := Layout.ofBeans_rows site.id site.beansStart 0 site.declaration.beans
  obtain ⟨place, inside, rfl⟩ := List.getElem_of_mem row
  have declared : place < site.declaration.beans.length := rows.length_eq ▸ inside
  obtain ⟨_, start, index, isRow, _⟩ := rows.get declared inside
  exact ⟨_, List.getElem_mem declared, start, index, isRow⟩

def Module.texts (module : Module) : List String :=
  module.name :: module.path :: module.wiredNames ++ SourcePosition.filesOf module.position

theorem Module.location_lines {module : Module} (own : AreLines module.texts) :
    AreLines module.location.texts := by
  simp only [texts, areLines_append, areLines_cons] at own
  simp [location, Location.texts, own.1.2.1, own.2]

namespace Model

/-- Every text of a model is a line. -/
structure Unbroken (model : Model) : Prop where
  modules : ∀ module ∈ model.modules, AreLines module.texts
  beans : ∀ bean ∈ model.beans, AreLines (model.declaredBean bean).ownTexts
  sockets : ∀ socket ∈ model.sockets, AreLines socket.declared.texts

section Application

variable {declarations : List ModuleDeclaration} (clear : AreLines (forestTexts declarations))

include clear

theorem site_texts {site : Site} (member : site ∈ applicationSites declarations) :
    AreLines site.declaration.texts := by
  refine areLines_flatMap.mp clear site.declaration ?_
  rw [← forestSites_declarations .none (Layout.forestRoots 0 declarations) .zero]
  exact List.mem_map_of_mem member

theorem site_path {site : Site} (member : site ∈ applicationSites declarations) :
    IsLine site.path := by
  have wellFormed := ofDeclarations_wellFormed declarations
  have known := mem_moduleIds_site.mpr ⟨site, member, rfl⟩
  have isPath : (ofDeclarations declarations).path site.id = site.path :=
    congrArg Module.path (module_site member)
  rw [← isPath, IsLine, wellFormed.mem_path known (by decide)]
  rintro ⟨above, within, broken⟩
  obtain ⟨upper, inside, rfl⟩ := mem_moduleIds_site.mp (wellFormed.isWithin_known known within)
  rw [module_site inside] at broken
  exact site_texts clear inside upper.name (by simp [ModuleDeclaration.texts,
    ModuleDeclaration.ownTexts, Site.name]) broken

theorem ofDeclarations_unbroken : (ofDeclarations declarations).Unbroken where
  modules module listed := by
    rw [ofDeclarations_modules] at listed
    obtain ⟨site, member, rfl⟩ := List.mem_map.mp listed
    have own := site_texts clear member
    simp only [ModuleDeclaration.texts, ModuleDeclaration.ownTexts, areLines_append,
      areLines_cons] at own
    simp only [Module.texts, areLines_append, areLines_cons]
    exact ⟨⟨own.1.1.1.1, site_path clear member, own.1.1.1.2⟩, own.1.1.2⟩
  beans bean listed := by
    rw [ofDeclarations_beans] at listed
    obtain ⟨site, member, row⟩ := List.mem_flatMap.mp listed
    obtain ⟨declaration, declared, start, index, rfl⟩ := site.exists_declared_bean row
    have own := ((areLines_append _ _).mp (site_texts clear member)).2
    exact ((areLines_append _ _).mp (areLines_flatMap.mp own declaration declared)).1
  sockets socket listed := by
    rw [ofDeclarations_sockets] at listed
    obtain ⟨site, member, row⟩ := List.mem_flatMap.mp listed
    have declared : socket.declared ∈ site.sockets.map (·.declared) := List.mem_map_of_mem row
    rw [site.sockets_declared] at declared
    have own := site_texts clear member
    simp only [ModuleDeclaration.texts, areLines_append, areLines_flatMap] at own
    rcases List.mem_append.mp declared with ofModule | ofBean
    · exact own.1.2 _ ofModule
    · obtain ⟨bean, isBean, inside⟩ := List.mem_flatMap.mp ofBean
      exact (own.2 bean isBean).2 _ inside

end Application

/-! ## What is said of a model -/

theorem forall_getD (holds : α → Prop) {items : List α} {default : α}
    (each : ∀ item ∈ items, holds item) (other : holds default) (place : Nat) :
    holds (items.getD place default) := by
  rw [List.getD_eq_getElem?_getD]
  cases found : items[place]? with
  | none => exact other
  | some item => exact each item (List.mem_of_getElem? found)

namespace Unbroken

variable {model : Model} (unbroken : model.Unbroken)

include unbroken

/-! ### Single texts -/

theorem module (id : ModuleId) : AreLines (model.module id).texts :=
  forall_getD (fun module : Module => AreLines module.texts) unbroken.modules (by decide) id.index

theorem moduleName (id : ModuleId) : IsLine (model.module id).name :=
  unbroken.module id _ (by simp [Module.texts])

theorem path (id : ModuleId) : IsLine (model.path id) :=
  unbroken.module id _ (by simp [Module.texts, Model.path])

theorem bean (id : BeanId) : AreLines (model.declaredBean (model.bean id)).ownTexts := by
  have none : AreLines (model.declaredBean default).ownTexts := by
    change AreLines [""]
    decide
  exact forall_getD (fun bean => AreLines (model.declaredBean bean).ownTexts) unbroken.beans none
    id.index

theorem beanName (id : BeanId) : IsLine (model.bean id).name :=
  unbroken.bean id _ (by simp [BeanDeclaration.ownTexts, declaredBean])

theorem socket (id : SocketId) : AreLines (model.socket id).declared.texts :=
  forall_getD (fun socket : Socket => AreLines socket.declared.texts) unbroken.sockets (by decide)
    id.index

theorem socketName (id : SocketId) : IsLine (model.socket id).name :=
  unbroken.socket id _ (by simp [SocketDeclaration.texts, Socket.declared])

theorem ownerName (socket : Socket) : ∀ name ∈ model.ownerName? socket, IsLine name := by
  intro name named
  unfold ownerName? at named
  split at named
  · obtain rfl := Option.some.inj named
    exact unbroken.beanName _
  · cases named

theorem qualifiedName (provider : Provider) : IsLine (model.qualifiedName provider) := by
  have named : IsLine (model.providerName provider) := by
    cases provider with
    | bean id => exact unbroken.beanName id
    | socket id => exact unbroken.socketName id
  simp +decide [Model.qualifiedName, unbroken.path, named]

theorem qualifier (provider : Provider) :
    ∀ qualifier ∈ model.providerQualifier provider, IsLine qualifier := by
  intro qualifier given
  cases provider with
  | bean id =>
      have same : (model.bean id).qualifier = some qualifier := given
      exact unbroken.bean id _ (by simp [BeanDeclaration.ownTexts, declaredBean, same])
  | socket id =>
      have same : (model.socket id).qualifier = some qualifier := given
      exact unbroken.socket id _ (by simp [SocketDeclaration.texts, Socket.declared, same])

/-! ### Locations -/

theorem beanLocation (id : BeanId) : AreLines (model.beanLocation id).texts := by
  have own := unbroken.bean id
  simp only [BeanDeclaration.ownTexts, declaredBean, areLines_append] at own
  simp [Model.beanLocation, Location.texts, unbroken.path, unbroken.beanName, own.2]

theorem socketLocation (id : SocketId) : AreLines (model.socketLocation id).texts := by
  have own := unbroken.socket id
  simp only [SocketDeclaration.texts, Socket.declared, areLines_append] at own
  have owner := areLines_toList.mpr (unbroken.ownerName (model.socket id))
  simp [Model.socketLocation, Location.texts, unbroken.path, owner, unbroken.socketName, own.2]

theorem providerLocation (provider : Provider) :
    AreLines (model.providerLocation provider).texts := by
  cases provider with
  | bean id => exact unbroken.beanLocation id
  | socket id => exact unbroken.socketLocation id

end Unbroken

end Model

end StaticInjection
