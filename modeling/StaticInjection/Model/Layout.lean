import StaticInjection.Model.Basic

namespace StaticInjection

/-! Laying out a forest of declarations as a model. How much room a declaration takes depends on
nothing but the declaration, so the position of every module, bean and socket is known from the
declarations in front of it. -/

/-- Numbers of modules, beans and sockets: the size of a part, or the place where it begins. -/
structure Extent where
  modules : Nat
  beans : Nat
  sockets : Nat
deriving DecidableEq, Repr, Inhabited

namespace Extent

def zero : Extent := ⟨0, 0, 0⟩

def add (left right : Extent) : Extent :=
  ⟨left.modules + right.modules, left.beans + right.beans, left.sockets + right.sockets⟩

end Extent

def beansExtent : List BeanDeclaration → Extent
  | [] => .zero
  | bean :: rest => Extent.add ⟨0, 1, bean.sockets.length⟩ (beansExtent rest)

mutual

def ModuleDeclaration.extent : ModuleDeclaration → Extent
  | { beans, sockets, modules, .. } =>
    (Extent.add ⟨1, 0, sockets.length⟩ (beansExtent beans)).add (forestExtent modules)

def forestExtent : List ModuleDeclaration → Extent
  | [] => .zero
  | module :: rest => module.extent.add (forestExtent rest)

end

/-- The modules, beans and sockets of a part of a model, in order. -/
structure Layout where
  modules : List Module
  beans : List Bean
  sockets : List Socket

namespace Layout

def empty : Layout := ⟨[], [], []⟩

def append (left right : Layout) : Layout :=
  ⟨left.modules ++ right.modules, left.beans ++ right.beans, left.sockets ++ right.sockets⟩

instance : Append Layout := ⟨append⟩

def socketIds (start count : Nat) : List SocketId :=
  (List.range' start count).map .mk

def beanIds (start count : Nat) : List BeanId :=
  (List.range' start count).map .mk

def ofSockets (owner : SocketOwner) (module : ModuleId) (start index : Nat) :
    List SocketDeclaration → List Socket
  | [] => []
  | socket :: rest =>
    { id := ⟨start⟩
      owner
      module
      index
      name := socket.name
      requiredType := socket.requiredType
      qualifier := socket.qualifier
      multiplicity := socket.multiplicity
      isLazy := socket.isLazy
      wiredTo := socket.wiredTo
      position := socket.position } :: ofSockets owner module (start + 1) (index + 1) rest

def ofBean (module : ModuleId) (start : Extent) (index : Nat) (bean : BeanDeclaration) : Bean where
  id := ⟨start.beans⟩
  module
  index
  name := bean.name
  declaredType := bean.declaredType
  provides := (bean.declaredType :: bean.provides).eraseDups
  qualifier := bean.qualifier
  lifetime := bean.lifetime
  visibility := bean.visibility
  isDefault := bean.isDefault
  factory := bean.factory
  init := bean.init
  destroy := bean.destroy
  sockets := socketIds start.sockets bean.sockets.length
  position := bean.position

def ofBeans (module : ModuleId) (start : Extent) (index : Nat) : List BeanDeclaration → Layout
  | [] => empty
  | bean :: rest =>
    ⟨[], [ofBean module start index bean],
      ofSockets (.bean ⟨start.beans⟩) module start.sockets 0 bean.sockets⟩ ++
    ofBeans module (start.add ⟨0, 1, bean.sockets.length⟩) (index + 1) rest

/-- The positions of the roots of a forest that begins at a place, with their names. -/
def forestRoots (start : Nat) : List ModuleDeclaration → List (ModuleId × String)
  | [] => []
  | module :: rest => (⟨start⟩, module.name) :: forestRoots (start + module.extent.modules) rest

/-- The siblings that a module names: for each name the first other sibling that has it, and none of
them twice. -/
def wiredSiblings (siblings : List (ModuleId × String)) (self : ModuleId) (names : List String) :
    List ModuleId :=
  (names.filterMap fun name =>
    (siblings.find? fun (id, sibling) => id != self && sibling == name).map (·.1)).eraseDups

/-- The module that a part lies in: its ancestors with itself in front, and its path. -/
structure Surroundings where
  lineage : List ModuleId
  path : Option String

namespace Surroundings

def none : Surroundings := ⟨[], .none⟩

def pathOf (around : Surroundings) (name : String) : String :=
  match around.path with
  | .none => name
  | some parent => parent ++ "." ++ name

end Surroundings

mutual

def ofModule (around : Surroundings) (siblings : List (ModuleId × String)) (start : Extent) :
    ModuleDeclaration → Layout
  | { name, beans, sockets, modules, wiredModules, position } =>
    let id : ModuleId := ⟨start.modules⟩
    let path := around.pathOf name
    let beansStart := start.add ⟨1, 0, sockets.length⟩
    let childrenStart := beansStart.add (beansExtent beans)
    let children := forestRoots childrenStart.modules modules
    let module : Module := {
      id
      name
      path
      ancestors := around.lineage
      children := children.map (·.1)
      beans := beanIds start.beans beans.length
      sockets := socketIds start.sockets sockets.length
      wiredNames := wiredModules
      wiredModules := wiredSiblings siblings id wiredModules
      position }
    ⟨[module], [], ofSockets (.module id) id start.sockets 0 sockets⟩ ++
      ofBeans id beansStart 0 beans ++
      ofForest ⟨id :: around.lineage, some path⟩ children childrenStart modules

def ofForest (around : Surroundings) (siblings : List (ModuleId × String)) (start : Extent) :
    List ModuleDeclaration → Layout
  | [] => empty
  | module :: rest =>
    ofModule around siblings start module ++
      ofForest around siblings (start.add module.extent) rest

end

end Layout

namespace Model

def ofDeclarations (declarations : List ModuleDeclaration) : Model :=
  let roots := Layout.forestRoots 0 declarations
  let layout := Layout.ofForest .none roots .zero declarations
  { modules := layout.modules
    beans := layout.beans
    sockets := layout.sockets
    roots := roots.map (·.1) }

end Model

end StaticInjection
