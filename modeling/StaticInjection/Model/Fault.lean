import StaticInjection.Model.Key
import StaticInjection.Naming.Identifier

namespace StaticInjection

/-! What can be wrong with declarations as such: names that are no identifiers, missing types, names
used twice, siblings that do not exist, and names that become equal in generated code. -/

inductive DeclarationFault where
  | moduleName (name : String)
  | beanName (name : String)
  | socketName (name : String)
  | hookName (name : String)
  | beanWithoutType
  | socketWithoutType
  | repeatedModule (name : String)
  | repeatedBean (name : String)
  | repeatedSocket (name : String)
  | repeatedModuleSocket (name : String)
  | lazyModuleSocket
  | lazyCollection
  | unknownSibling (name : String)
  | typeClash (generated other : String)
  | fileClash (generated other : String)
  | importClash (key other : String)
  | deferredClash (key other : String)
deriving DecidableEq, Repr

def DeclarationFault.message : DeclarationFault → String
  | moduleName name => s!"模块名称 `{name}` 不是合法的标识符"
  | beanName name => s!"Bean 名称 `{name}` 不是合法的标识符"
  | socketName name => s!"插槽名称 `{name}` 不是合法的标识符"
  | hookName name => s!"生命周期方法 `{name}` 不是合法的标识符"
  | beanWithoutType => "Bean 缺少声明类型"
  | socketWithoutType => "插槽缺少需要的类型"
  | repeatedModule name => s!"模块名称 `{name}` 在同级模块之间重复"
  | repeatedBean name => s!"Bean 名称 `{name}` 在模块内重复"
  | repeatedSocket name => s!"插槽名称 `{name}` 重复"
  | repeatedModuleSocket name => s!"模块插槽名称 `{name}` 重复"
  | lazyModuleSocket => "模块插槽不支持延迟注入"
  | lazyCollection => "集合插槽不支持延迟注入"
  | unknownSibling name => s!"连线的兄弟模块 `{name}` 不存在"
  | typeClash generated other => s!"生成的类型名 `{generated}` 与模块 `{other}` 冲突"
  | fileClash generated other => s!"生成的文件名 `{generated}` 与模块 `{other}` 冲突"
  | importClash key other => s!"生成的导入字段 `import__{key}` 与 {other} 冲突"
  | deferredClash key other => s!"生成的延迟字段 `deferred__{key}` 与插槽 {other} 冲突"

open Naming

def faultIf (condition : Bool) (fault : DeclarationFault) : List DeclarationFault :=
  if condition then [fault] else []

/-- The items of a list that have an earlier item with the same key. -/
def repeatedItems [BEq β] (key : α → β) : (seen : List β) → List α → List α
  | _, [] => []
  | seen, item :: rest =>
    if seen.contains (key item) then item :: repeatedItems key seen rest
    else repeatedItems key (key item :: seen) rest

/-- For every item whose generated name is taken by an item with another identity: the item, the name
and the holder. Such an item takes no name. -/
def nameClashes [BEq β] (generated : α → String) (identity : α → β) :
    (taken : List (String × α)) → List α → List (α × String × α)
  | _, [] => []
  | taken, item :: rest =>
    let name := generated item
    match taken.lookup name with
    | none => nameClashes generated identity ((name, item) :: taken) rest
    | some holder =>
      if identity holder == identity item then nameClashes generated identity taken rest
      else (item, name, holder) :: nameClashes generated identity taken rest

namespace Model

/-! ## Single declarations -/

def moduleFaults (module : Module) : List DeclarationFault :=
  faultIf (!isIdentifier module.name) (.moduleName module.name)

def socketFaults (socket : Socket) : List DeclarationFault :=
  faultIf (!isIdentifier socket.name) (.socketName socket.name) ++
  faultIf socket.requiredType.isEmpty .socketWithoutType

/-- Whether an earlier socket in the list has the same name. -/
def repeatsSocket (model : Model) (sockets : List SocketId) (socket : Socket) : Bool :=
  (sockets.take socket.index).any fun earlier => (model.socket earlier).name == socket.name

def moduleSocketFaults (model : Model) (module : Module) (socket : Socket) :
    List DeclarationFault :=
  socketFaults socket ++
  faultIf (model.repeatsSocket module.sockets socket) (.repeatedModuleSocket socket.name) ++
  faultIf socket.isLazy .lazyModuleSocket

def beanSocketFaults (model : Model) (bean : Bean) (socket : Socket) : List DeclarationFault :=
  socketFaults socket ++
  faultIf (model.repeatsSocket bean.sockets socket) (.repeatedSocket socket.name) ++
  faultIf (socket.isLazy && socket.multiplicity == .collection) .lazyCollection

def ownBeanFaults (bean : Bean) : List DeclarationFault :=
  faultIf (!isIdentifier bean.name) (.beanName bean.name) ++
  faultIf bean.declaredType.isEmpty .beanWithoutType ++
  (bean.init ++ bean.destroy).flatMap fun hook => faultIf (!isIdentifier hook) (.hookName hook)

/-- Whether an earlier bean of the module has the same name. -/
def repeatsBean (model : Model) (module : Module) (bean : Bean) : Bool :=
  (module.beans.take bean.index).any fun earlier => (model.bean earlier).name == bean.name

def repeatedBeanFaults (model : Model) (module : Module) (bean : Bean) : List DeclarationFault :=
  faultIf (model.repeatsBean module bean) (.repeatedBean bean.name)

/-- Report faults of one declaration. -/
def reportAt (scope : ModuleId) (location : Location) (faults : List DeclarationFault) :
    List Diagnostic :=
  faults.map fun fault => .invalid scope location fault.message

def moduleSocketReports (model : Model) (module : Module) (id : SocketId) : List Diagnostic :=
  reportAt module.id (model.socketLocation id) (model.moduleSocketFaults module (model.socket id))

def beanReports (model : Model) (module : Module) (id : BeanId) : List Diagnostic :=
  let bean := model.bean id
  reportAt module.id (model.beanLocation id) (ownBeanFaults bean) ++
  bean.sockets.flatMap (fun socket =>
    reportAt module.id (model.socketLocation socket)
      (model.beanSocketFaults bean (model.socket socket))) ++
  reportAt module.id (model.beanLocation id) (model.repeatedBeanFaults module bean)

def declarationReports (model : Model) (module : Module) : List Diagnostic :=
  reportAt module.id module.location (moduleFaults module) ++
  module.sockets.flatMap (model.moduleSocketReports module) ++
  module.beans.flatMap (model.beanReports module)

/-! ## Siblings -/

/-- All modules with the same parent as the given one, which is among them. -/
def siblings (model : Model) (module : Module) : List ModuleId :=
  match module.parent with
  | none => model.roots
  | some parent => (model.module parent).children

def wiringReports (model : Model) (module : Module) : List Diagnostic :=
  let unknown := module.wiredNames.filter fun name =>
    !(model.siblings module).any fun id => id != module.id && (model.module id).name == name
  reportAt module.id module.location (unknown.map .unknownSibling)

def siblingReports (model : Model) (group : List ModuleId) : List Diagnostic :=
  (repeatedItems (·.name) [] (group.map model.module)).flatMap fun module =>
    reportAt module.id module.location [.repeatedModule module.name]

/-! ## Generated names

Generated names lose letter case and underscores, so different declarations can get the same one.
The later declaration is at fault. Declarations that are equal by name were reported already. -/

/-- The path that holds a generated name, when it is another one. -/
def otherHolder (taken : List (String × String)) (name path : String) : Option String :=
  (taken.lookup name).filter (· != path)

def takeName (taken : List (String × String)) (name path : String) : List (String × String) :=
  if (taken.lookup name).isSome then taken else (name, path) :: taken

/-- A module whose type or file is taken takes neither name. -/
def moduleClashes (types files : List (String × String)) : List Module → List Diagnostic
  | [] => []
  | module :: rest =>
    let type := moduleType module.path
    let file := sourceFile module.path
    match otherHolder types type module.path, otherHolder files file module.path with
    | some other, _ =>
      reportAt module.id module.location [.typeClash type other] ++ moduleClashes types files rest
    | none, some other =>
      reportAt module.id module.location [.fileClash file other] ++ moduleClashes types files rest
    | none, none =>
      moduleClashes (takeName types type module.path) (takeName files file module.path) rest

def beanClashes (model : Model) : List Diagnostic :=
  (nameClashes model.beanKey (fun bean => (model.path bean.module, bean.name)) []
      model.beans).flatMap fun (bean, key, holder) =>
    reportAt bean.module (model.beanLocation bean.id)
      [.importClash key (model.qualifiedName (.bean holder.id))]

/-- Only sockets that are filled later get a cell, and so a name for it. -/
def socketClashes (model : Model) : List Diagnostic :=
  (nameClashes model.socketKey
      (fun socket => (model.path socket.module, model.ownerName? socket, socket.name)) []
      (model.sockets.filter (·.isLazy))).flatMap fun (socket, key, holder) =>
    reportAt socket.module (model.socketLocation socket.id)
      [.deferredClash key (model.socketLocation holder.id).text]

/-- Everything wrong with the declarations of a model, in the order in which it is found. -/
def faults (model : Model) : List Diagnostic :=
  model.modules.flatMap model.declarationReports ++
  model.modules.flatMap model.wiringReports ++
  model.siblingReports model.roots ++
  model.modules.flatMap (fun module => model.siblingReports module.children) ++
  moduleClashes [] [] model.modules ++
  model.beanClashes ++
  model.socketClashes

end Model

end StaticInjection
