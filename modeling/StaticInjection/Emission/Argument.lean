import StaticInjection.Code.Constructor
import StaticInjection.Model.Key
import StaticInjection.Model.Tree
import StaticInjection.Plan.Basic
import StaticInjection.Wire.Basic

namespace StaticInjection.Model

/-! How a provider is reached from the constructor of a module, and what is passed for a socket. -/

open Code

def inputLocal (model : Model) (id : SocketId) : Local :=
  ⟨.input, (model.socket id).name⟩

def importLocal (model : Model) (id : BeanId) : Local :=
  ⟨.imported, model.beanKey (model.bean id)⟩

def cellLocal (model : Model) (id : SocketId) : Local :=
  ⟨.cell, model.socketKey (model.socket id)⟩

/-- The local of one of the module's own beans. -/
def ownLocal (bean : Bean) : Local :=
  match bean.lifetime with
  | .singleton => ⟨.singleton, bean.name⟩
  | .perRequest => ⟨.factory, bean.name⟩

/-- The names on the way down from a module to one below it, the lowest last. -/
def descent (model : Model) (scope target : ModuleId) : List String :=
  (((model.lineage target).takeWhile (· != scope)).reverse).map fun id => (model.module id).name

/-- A bean of a module below the scope, reached through the child on the way to it. -/
def throughChild (model : Model) (scope : ModuleId) (bean : Bean)
    (reach : Local → List String → String → Value) : Value :=
  match model.descent scope bean.module with
  | [] => .impossible
  | child :: through => reach ⟨.child, child⟩ through bean.name

/-- The value of a bean, as a shared value of its declared type. -/
def beanValue (model : Model) (scope : ModuleId) (id : BeanId) : Value :=
  let bean := model.bean id
  let taken (source : Local) : Value :=
    match bean.lifetime with
    | .singleton => .cloneOf source
    | .perRequest => .callOf source
  if bean.module = scope then taken (ownLocal bean)
  else if model.isWithin bean.module scope then model.throughChild scope bean .beanOf
  else taken (model.importLocal id)

/-- What a child gets for an import: the bean, or its factory when it is built for each request. -/
def importValue (model : Model) (scope : ModuleId) (id : BeanId) : Value :=
  let bean := model.bean id
  match bean.lifetime with
  | .singleton => model.beanValue scope id
  | .perRequest =>
    if bean.module = scope then .cloneOf (ownLocal bean)
    else if model.isWithin bean.module scope then model.throughChild scope bean .factoryOf
    else .cloneOf (model.importLocal id)

/-- The value of a bean where a type is required. -/
def coercedValue (model : Model) (scope : ModuleId) (required : TypeName) (id : BeanId) : Value :=
  let value := model.beanValue scope id
  if (model.bean id).declaredType = required then value else .coerced value required.text

def gatherStep (model : Model) (scope : ModuleId) : Provider → GatherStep
  | .bean id => .push (model.beanValue scope id)
  | .socket id =>
    let source := model.inputLocal id
    match (model.socket id).multiplicity.cardinality with
    | .one => .push (.cloneOf source)
    | .maybeOne => .extendOptional source
    | .many => .extendAll source

/-- What is passed for a socket, after the collection that it may need. -/
structure Argument where
  gathering : Option Gathering
  value : Value

def targets (wires : WireSet) (id : SocketId) : List Provider :=
  match wires.get? id with
  | none => []
  | some wire => wire.targets

def singleValue (model : Model) (scope : ModuleId) : List Provider → Value
  | [] => .impossible
  | .bean id :: _ => model.beanValue scope id
  | .socket id :: _ => .cloneOf (model.inputLocal id)

def optionalValue (model : Model) (scope : ModuleId) (required : TypeName) : List Provider → Value
  | [] => .absent
  | .bean id :: _ => .present (model.coercedValue scope required id)
  | .socket id :: _ =>
    let value : Value := .cloneOf (model.inputLocal id)
    match (model.socket id).multiplicity.cardinality with
    | .one => .present value
    | _ => value

def argument (model : Model) (wires : WireSet) (scope : ModuleId) (target : Local) (id : SocketId) :
    Argument :=
  let socket := model.socket id
  if socket.isLazy then ⟨none, .cloneOf (model.cellLocal id)⟩
  else
    let targets := targets wires id
    match socket.multiplicity with
    | .single => ⟨none, model.singleValue scope targets⟩
    | .optional => ⟨none, model.optionalValue scope socket.requiredType targets⟩
    | .collection =>
      ⟨some ⟨target, socket.requiredType.text, targets.map (model.gatherStep scope)⟩, .whole target⟩

/-! ## Captured locals -/

/-- The local through which a provider is reached. -/
def localOf (model : Model) (scope : ModuleId) : Provider → Local
  | .socket id => model.inputLocal id
  | .bean id =>
    let bean := model.bean id
    if bean.module = scope then ownLocal bean
    else if model.isWithin bean.module scope then
      ⟨.child, (model.descent scope bean.module).headD ""⟩
    else model.importLocal id

/-- The locals that the argument of a socket needs. -/
def argumentLocals (model : Model) (wires : WireSet) (scope : ModuleId) (id : SocketId) :
    List Local :=
  let socket := model.socket id
  if socket.isLazy then [model.cellLocal id]
  else
    let targets := targets wires id
    let used := if socket.multiplicity = .collection then targets else targets.take 1
    used.map (model.localOf scope)

end StaticInjection.Model
