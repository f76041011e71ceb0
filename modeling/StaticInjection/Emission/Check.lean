import StaticInjection.Code.Value
import StaticInjection.Grammar.TypeForm
import StaticInjection.Model.Fault

namespace StaticInjection

/-! What must hold of a module's own declarations before code can be generated: types and constructor
paths can be read, and no two generated names are the same. -/

inductive EmissionFault where
  | noPlan
  | unreadableType (type : String)
  | implType (type : String)
  | inferredType
  | neverType
  | objectType (type : String)
  | unreadableFactory (path : String)
  | memberClash (name : String)
  | temporaryClash (name : String)
deriving DecidableEq, Repr

def EmissionFault.message : EmissionFault → String
  | noPlan => "模块没有构造计划"
  | unreadableType type => s!"类型路径 `{type}` 无法解析"
  | implType type => s!"类型 `{type}` 不能使用 `impl Trait`"
  | inferredType => "类型不能是 `_`"
  | neverType => "类型不能是 `!`"
  | objectType type => s!"Bean 的声明类型 `{type}` 必须是具体类型"
  | unreadableFactory path => s!"构造函数路径 `{path}` 无法解析"
  | memberClash name => s!"生成的成员名 `{name}` 冲突"
  | temporaryClash name => s!"生成的临时变量 `{name}` 冲突"

/-- What is wrong with a type. Only the type of a bean itself has to be a concrete one. -/
def typeFault? (concrete : Bool) (type : TypeName) : Option EmissionFault :=
  match Grammar.typeForm? type.text with
  | none => some (.unreadableType type.text)
  | some .implTrait => some (.implType type.text)
  | some .infer => some .inferredType
  | some .never => some .neverType
  | some form => if concrete && form.isObject then some (.objectType type.text) else none

def factoryFault? (path : String) : Option EmissionFault :=
  if Grammar.isConstructorPath path then none else some (.unreadableFactory path)

namespace Bean

/-- Whether the values given out have to be destroyed. -/
def isTracked (bean : Bean) : Bool :=
  bean.lifetime == .perRequest && !bean.destroy.isEmpty

/-- The names that a bean takes among the members of its module. -/
def memberNames (bean : Bean) : List String :=
  [bean.name] ++
  (if bean.isPublic && bean.lifetime == .perRequest then [bean.name ++ "_provider"] else []) ++
  (if bean.isTracked then [bean.name ++ "_issued"] else [])

end Bean

namespace Model

def emissionReports (id : ModuleId) (location : Location) (faults : List EmissionFault) :
    List Diagnostic :=
  faults.map fun fault => .invalid id location fault.message

def socketTypeReports (model : Model) (id : ModuleId) (socket : SocketId) : List Diagnostic :=
  emissionReports id (model.socketLocation socket)
    (typeFault? false (model.socket socket).requiredType).toList

def beanTypeReports (model : Model) (id : ModuleId) (beanId : BeanId) : List Diagnostic :=
  let bean := model.bean beanId
  emissionReports id (model.beanLocation beanId)
    ((typeFault? true bean.declaredType).toList ++
      (bean.provides.drop 1).filterMap (typeFault? false) ++
      (bean.factory.bind factoryFault?).toList) ++
  bean.sockets.flatMap (model.socketTypeReports id)

def memberNames (model : Model) (module : Module) : List String :=
  module.beans.flatMap (fun bean => (model.bean bean).memberNames) ++
  module.children.map fun child => (model.module child).name ++ "_module"

/-- The names of functions that every module has. -/
def fixedMembers : List String := ["new", "shutdown"]

def memberReports (model : Model) (module : Module) : List Diagnostic :=
  (repeatedItems id fixedMembers (model.memberNames module)).flatMap fun name =>
    emissionReports module.id module.location [.memberClash name]

/-- The local that gathers a collection for a bean. -/
def gatheredLocal (bean : Bean) (socket : Socket) : Code.Local :=
  ⟨.gathered, bean.name ++ "__" ++ socket.name⟩

/-- The local that gathers a collection for a child module. -/
def childGatheredLocal (child : Module) (socket : Socket) : Code.Local :=
  ⟨.childGathered, child.name ++ "__" ++ socket.name⟩

/-- The locals in which a module gathers collections. -/
def gatheredLocals (model : Model) (module : Module) : List (Code.Local × SocketId) :=
  let ofBeans := module.beans.flatMap fun id =>
    let bean := model.bean id
    bean.sockets.map fun socket => (gatheredLocal bean (model.socket socket), socket)
  let ofChildren := module.children.flatMap fun id =>
    let child := model.module id
    child.sockets.map fun socket => (childGatheredLocal child (model.socket socket), socket)
  (ofBeans ++ ofChildren).filter fun (_, id) =>
    let socket := model.socket id
    socket.multiplicity == .collection && !socket.isLazy

def gatheredReports (model : Model) (module : Module) : List Diagnostic :=
  (repeatedItems (fun (name, _) => name.text) [] (model.gatheredLocals module)).flatMap
    fun (name, socket) =>
      emissionReports module.id (model.socketLocation socket) [.temporaryClash name.text]

/-- Everything that keeps code from being generated for a module. -/
def emissionFaults (model : Model) (id : ModuleId) : List Diagnostic :=
  let module := model.module id
  module.sockets.flatMap (model.socketTypeReports id) ++
  module.beans.flatMap (model.beanTypeReports id) ++
  model.memberReports module ++
  model.gatheredReports module

end Model

end StaticInjection
