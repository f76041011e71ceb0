import StaticInjection.Code.ModuleCode
import StaticInjection.Emission.Argument
import StaticInjection.Emission.Check
import StaticInjection.Emission.Descriptor

namespace StaticInjection.Model

/-! The code of a module, put together from its plan and from the wires. -/

open Code

/-! ## Inputs -/

/-- The type of the value passed for a socket. -/
def socketType (socket : Socket) : ValueType :=
  let type := socket.requiredType.text
  if socket.isLazy then .cell type
  else
    match socket.multiplicity with
    | .single => .one type
    | .optional => .optional type
    | .collection => .several type

/-- How a bean is kept by its module, and handed to others. -/
def beanType (bean : Bean) : ValueType :=
  match bean.lifetime with
  | .singleton => .one bean.declaredType.text
  | .perRequest => .factory bean.declaredType.text

/-- A field of the inputs, with the local that takes its value. -/
structure InputField where
  field : Field
  taken : Local

def importField (model : Model) (id : BeanId) : InputField :=
  let taken := model.importLocal id
  ⟨⟨"import__" ++ taken.name, beanType (model.bean id)⟩, taken⟩

def cellField (model : Model) (id : SocketId) : InputField :=
  let taken := model.cellLocal id
  ⟨⟨"deferred__" ++ taken.name, .cell (model.socket id).requiredType.text⟩, taken⟩

def declaredField (model : Model) (id : SocketId) : InputField :=
  let socket := model.socket id
  ⟨⟨socket.name, socketType socket⟩, model.inputLocal id⟩

/-- The declared inputs, then the imports, then the cells that come from above. -/
def inputFields (model : Model) (plan : ModulePlan) : List InputField :=
  (model.module plan.module).sockets.map model.declaredField ++
  plan.imports.map model.importField ++
  plan.deferredIn.map model.cellField

/-! ## Construction -/

def construction (model : Model) (wires : WireSet) (scope : ModuleId) (bean : Bean) : Construction :=
  let type := bean.declaredType.text
  let arguments := bean.sockets.map fun id =>
    model.argument wires scope (gatheredLocal bean (model.socket id)) id
  { gatherings := arguments.filterMap (·.gathering)
    constructor := bean.factory.getD s!"<{type}>::new"
    arguments := arguments.map (·.value) }

/-- The locals that a factory needs for itself, in the order of their names. -/
def captured (model : Model) (wires : WireSet) (scope : ModuleId) (bean : Bean) : List Local :=
  let needed := bean.sockets.flatMap (model.argumentLocals wires scope) ++
    if bean.isTracked then [⟨.issued, bean.name⟩] else []
  (needed.mergeSort Local.atMost).eraseDups

def beanStep (model : Model) (wires : WireSet) (scope : ModuleId) (id : BeanId) : BuildStep :=
  let bean := model.bean id
  let construction := model.construction wires scope bean
  match bean.lifetime with
  | .singleton => .singleton bean.name construction bean.init
  | .perRequest =>
    .perRequest bean.name bean.declaredType.text bean.isTracked (model.captured wires scope bean)
      construction bean.init

def childStep (model : Model) (wires : WireSet) (scope : ModuleId) (plan : ModulePlan) : BuildStep :=
  let child := model.module plan.module
  let arguments := child.sockets.map fun id =>
    let socket := model.socket id
    (socket.name, model.argument wires scope (childGatheredLocal child socket) id)
  .child child.name (Naming.moduleType child.path) (Naming.inputsType child.path)
    (arguments.filterMap fun (_, argument) => argument.gathering)
    (arguments.map (fun (name, argument) => (name, argument.value)) ++
      plan.imports.map (fun id =>
        ("import__" ++ (model.importLocal id).name, model.importValue scope id)) ++
      plan.deferredIn.map fun id =>
        ("deferred__" ++ (model.cellLocal id).name, .cloneOf (model.cellLocal id)))

/-- A child without a plan is left out. -/
def buildStep? (model : Model) (wires : WireSet) (plan : Plan) (scope : ModuleId) :
    PlanStep → Option BuildStep
  | .bean id => some (model.beanStep wires scope id)
  | .module id => (plan.module? id).map (model.childStep wires scope)

/-- How a cell is filled, when there is something to fill it with. -/
def patch? (model : Model) (scope : ModuleId) (edge : DeferredEdge) : Option Patch :=
  let cell := model.cellLocal edge.socket
  match edge.target with
  | none => none
  | some (.bean id) =>
    some (.fill cell (model.coercedValue scope (model.socket edge.socket).requiredType id))
  | some (.socket id) =>
    let source := model.inputLocal id
    match (model.socket id).multiplicity.cardinality with
    | .one => some (.fill cell (.cloneOf source))
    | _ => some (.fillOptional cell source)

/-- The fields of a module with the locals that fill them: its beans, what keeps track of their values,
and its children. -/
def resultFields (model : Model) (module : Module) : List (String × Local) :=
  module.beans.flatMap (fun id =>
    let bean := model.bean id
    (bean.name, ownLocal bean) ::
      if bean.isTracked then [(bean.name ++ "_issued", ⟨.issued, bean.name⟩)] else []) ++
  module.children.map fun id =>
    let name := (model.module id).name
    (name ++ "_module", ⟨.child, name⟩)

def constructor (model : Model) (wires : WireSet) (plan : Plan) (modulePlan : ModulePlan) :
    Constructor :=
  let scope := modulePlan.module
  let module := model.module scope
  { inputsType := Naming.inputsType module.path
    bindings := (model.inputFields modulePlan).map fun input => (input.field.name, input.taken)
    cells := modulePlan.deferredOwned.map fun id =>
      (model.cellLocal id, (model.socket id).requiredType.text)
    steps := modulePlan.steps.filterMap (model.buildStep? wires plan scope)
    patches := (modulePlan.deferredOwned.filterMap plan.deferredEdge?).filterMap (model.patch? scope)
    fields := model.resultFields module }

/-! ## Members -/

def memberFields (model : Model) (module : Module) : List Field :=
  module.beans.flatMap (fun id =>
    let bean := model.bean id
    ⟨bean.name, beanType bean⟩ ::
      if bean.isTracked then [⟨bean.name ++ "_issued", .issued bean.declaredType.text⟩] else []) ++
  module.children.map fun id =>
    let child := model.module id
    ⟨child.name ++ "_module", .one (Naming.moduleType child.path)⟩

def beanAccessors (bean : Bean) : List Accessor :=
  if bean.isPublic then
    match bean.lifetime with
    | .singleton => [.singleton bean.name bean.declaredType.text]
    | .perRequest =>
      [.perRequest bean.name bean.declaredType.text, .provider bean.name bean.declaredType.text]
  else []

def accessors (model : Model) (module : Module) : List Accessor :=
  module.beans.flatMap (fun id => beanAccessors (model.bean id)) ++
  module.children.map fun id =>
    let child := model.module id
    .child child.name child.path (Naming.moduleType child.path)

def shutdownSteps (model : Model) : PlanStep → List ShutdownStep
  | .module id => [.child (model.module id).name]
  | .bean id =>
    let bean := model.bean id
    match bean.lifetime with
    | .singleton => bean.destroy.map (.hook bean.name)
    | .perRequest => if bean.isTracked then [.issued bean.name bean.destroy] else []

/-- The last unit built is the first to be shut down. -/
def shutdown (model : Model) (plan : ModulePlan) : List ShutdownStep :=
  plan.steps.reverse.flatMap model.shutdownSteps

def moduleCode (model : Model) (wires : WireSet) (plan : Plan) (modulePlan : ModulePlan)
    (header : String) : ModuleCode :=
  let module := model.module modulePlan.module
  { header
    path := module.path
    moduleType := Naming.moduleType module.path
    inputsType := Naming.inputsType module.path
    inputs := (model.inputFields modulePlan).map (·.field)
    fields := model.memberFields module
    exposed := (model.describe module.id).pairs.map fun (type, qualifier) => (type.text, qualifier)
    constructor := model.constructor wires plan modulePlan
    accessors := model.accessors module
    shutdown := model.shutdown modulePlan }

end StaticInjection.Model
