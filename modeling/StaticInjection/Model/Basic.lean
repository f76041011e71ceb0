import StaticInjection.Diagnostic.Basic

namespace StaticInjection

/-! The modules, beans and sockets of an application, each in one list. Modules stand in the order in
which a reader meets them: a module before its children, a child with its whole subtree before the
next child. Beans and sockets follow that order too, so ascending positions give one stable order
everywhere. -/

structure Module where
  id : ModuleId
  name : String
  /-- The names of the ancestors from the root on and the own name, with dots between them. -/
  path : String
  /-- Nearest first. -/
  ancestors : List ModuleId
  children : List ModuleId
  beans : List BeanId
  sockets : List SocketId
  /-- The siblings named by the declaration. -/
  wiredNames : List String
  /-- The siblings found for these names. -/
  wiredModules : List ModuleId
  position : Option SourcePosition
deriving Inhabited

structure Bean where
  id : BeanId
  module : ModuleId
  /-- The place among the beans of the module. -/
  index : Nat
  name : String
  declaredType : TypeName
  /-- All types that the bean can be assigned to, the declared one first. -/
  provides : List TypeName
  qualifier : Option Qualifier
  lifetime : Lifetime
  visibility : Visibility
  isDefault : Bool
  factory : Option String
  init : List String
  destroy : List String
  sockets : List SocketId
  position : Option SourcePosition
deriving Inhabited

structure Socket where
  id : SocketId
  owner : SocketOwner
  module : ModuleId
  /-- The place among the sockets of the owner. -/
  index : Nat
  name : String
  requiredType : TypeName
  qualifier : Option Qualifier
  multiplicity : Multiplicity
  isLazy : Bool
  wiredTo : List String
  position : Option SourcePosition
deriving Inhabited

namespace Module

def parent (module : Module) : Option ModuleId :=
  module.ancestors.head?

def isRoot (module : Module) : Bool :=
  module.ancestors.isEmpty

def location (module : Module) : Location :=
  { module := module.path, position := module.position }

end Module

namespace Bean

def isPublic (bean : Bean) : Bool :=
  bean.visibility == .isPublic

/-- Whether nothing has to be there before the bean can be built. -/
def needsNothing (bean : Bean) : Bool :=
  bean.sockets.isEmpty

end Bean

structure Model where
  modules : List Module
  beans : List Bean
  sockets : List Socket
  roots : List ModuleId
deriving Inhabited

namespace Model

/-! ## Looking up -/

def module (model : Model) (id : ModuleId) : Module :=
  model.modules.getD id.index default

def bean (model : Model) (id : BeanId) : Bean :=
  model.beans.getD id.index default

def socket (model : Model) (id : SocketId) : Socket :=
  model.sockets.getD id.index default

def moduleByPath? (model : Model) (path : String) : Option ModuleId :=
  (model.modules.find? (·.path == path)).map (·.id)

def path (model : Model) (id : ModuleId) : String :=
  (model.module id).path

/-! ## Providers -/

def providerModule (model : Model) : Provider → ModuleId
  | .bean id => (model.bean id).module
  | .socket id => (model.socket id).module

def providerName (model : Model) : Provider → String
  | .bean id => (model.bean id).name
  | .socket id => (model.socket id).name

/-- `module:name`. -/
def qualifiedName (model : Model) (provider : Provider) : String :=
  model.path (model.providerModule provider) ++ ":" ++ model.providerName provider

def providerQualifier (model : Model) : Provider → Option Qualifier
  | .bean id => (model.bean id).qualifier
  | .socket id => (model.socket id).qualifier

def providerCardinality (model : Model) : Provider → Cardinality
  | .bean _ => .one
  | .socket id => (model.socket id).multiplicity.cardinality

def providerIsDefault (model : Model) : Provider → Bool
  | .bean id => (model.bean id).isDefault
  | .socket _ => false

/-- The type that a provider is declared with. -/
def providerType (model : Model) : Provider → TypeName
  | .bean id => (model.bean id).declaredType
  | .socket id => (model.socket id).requiredType

/-- All types that a provider can satisfy. -/
def providedTypes (model : Model) : Provider → List TypeName
  | .bean id => (model.bean id).provides
  | .socket id => [(model.socket id).requiredType]

/-- What needs the value of a socket: its bean, or the module socket itself. -/
def requirer (model : Model) (id : SocketId) : Provider :=
  match (model.socket id).owner with
  | .bean bean => .bean bean
  | .module _ => .socket id

/-- The beans of a module, then its sockets. -/
def ownProviders (model : Model) (id : ModuleId) : List Provider :=
  (model.module id).beans.map .bean ++ (model.module id).sockets.map .socket

/-! ## Locations -/

def beanLocation (model : Model) (id : BeanId) : Location :=
  let bean := model.bean id
  { module := model.path bean.module, bean := some bean.name, position := bean.position }

/-- The name of the bean that a socket belongs to. -/
def ownerName? (model : Model) (socket : Socket) : Option String :=
  match socket.owner with
  | .bean bean => some (model.bean bean).name
  | .module _ => none

def socketLocation (model : Model) (id : SocketId) : Location :=
  let socket := model.socket id
  { module := model.path socket.module
    bean := model.ownerName? socket
    socket := some socket.name
    position := socket.position }

def providerLocation (model : Model) : Provider → Location
  | .bean id => model.beanLocation id
  | .socket id => model.socketLocation id

end Model

end StaticInjection
