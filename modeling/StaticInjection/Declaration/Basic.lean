import StaticInjection.Declaration.Vocabulary
import StaticInjection.TypeName

namespace StaticInjection

/-! What an application declares: a forest of modules with their beans and sockets. -/

structure SourcePosition where
  file : String
  line : UInt32
  column : UInt32
deriving DecidableEq, Repr

def SourcePosition.text (position : SourcePosition) : String :=
  s!"{position.file}:{position.line.toNat}:{position.column.toNat}"

structure SocketDeclaration where
  name : String := ""
  requiredType : TypeName := .ofText ""
  qualifier : Option Qualifier := none
  multiplicity : Multiplicity := .single
  /-- Whether the value arrives after construction. -/
  isLazy : Bool := false
  /-- Names of the only candidates allowed, when there are any. -/
  wiredTo : List String := []
  position : Option SourcePosition := none
deriving DecidableEq, Inhabited

structure BeanDeclaration where
  name : String := ""
  declaredType : TypeName := .ofText ""
  /-- Further types that a value of the declared type can be assigned to. -/
  provides : List TypeName := []
  qualifier : Option Qualifier := none
  lifetime : Lifetime := .singleton
  visibility : Visibility := .isPrivate
  isDefault : Bool := false
  /-- The path of the constructor function; without one it is `new` of the declared type. -/
  factory : Option String := none
  /-- Methods called after construction. -/
  init : List String := []
  /-- Methods called when the module shuts down. -/
  destroy : List String := []
  /-- In the order of the constructor's parameters. -/
  sockets : List SocketDeclaration := []
  position : Option SourcePosition := none
deriving DecidableEq, Inhabited

structure ModuleDeclaration where
  name : String := ""
  beans : List BeanDeclaration := []
  /-- The inputs of the module. -/
  sockets : List SocketDeclaration := []
  modules : List ModuleDeclaration := []
  /-- Names of siblings whose public beans are visible here. -/
  wiredModules : List String := []
  position : Option SourcePosition := none
deriving Inhabited

structure Document where
  modules : List ModuleDeclaration := []
deriving Inhabited

namespace SocketDeclaration

def wire (socket : SocketDeclaration) (provider : String) : SocketDeclaration :=
  { socket with wiredTo := socket.wiredTo ++ [provider] }

end SocketDeclaration

namespace BeanDeclaration

def addProvided (bean : BeanDeclaration) (type : TypeName) : BeanDeclaration :=
  { bean with provides := bean.provides ++ [type] }

def addInit (bean : BeanDeclaration) (method : String) : BeanDeclaration :=
  { bean with init := bean.init ++ [method] }

def addDestroy (bean : BeanDeclaration) (method : String) : BeanDeclaration :=
  { bean with destroy := bean.destroy ++ [method] }

def addSocket (bean : BeanDeclaration) (socket : SocketDeclaration) : BeanDeclaration :=
  { bean with sockets := bean.sockets ++ [socket] }

end BeanDeclaration

namespace ModuleDeclaration

def addBean (module : ModuleDeclaration) (bean : BeanDeclaration) : ModuleDeclaration :=
  { module with beans := module.beans ++ [bean] }

def addSocket (module : ModuleDeclaration) (socket : SocketDeclaration) : ModuleDeclaration :=
  { module with sockets := module.sockets ++ [socket] }

def addModule (module child : ModuleDeclaration) : ModuleDeclaration :=
  { module with modules := module.modules ++ [child] }

def wireSibling (module : ModuleDeclaration) (name : String) : ModuleDeclaration :=
  { module with wiredModules := module.wiredModules ++ [name] }

end ModuleDeclaration

end StaticInjection
