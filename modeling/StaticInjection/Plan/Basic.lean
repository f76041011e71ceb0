import StaticInjection.Model.Id

namespace StaticInjection

/-! In which order things are built. -/

/-- A child module is built as a whole, as one step of its parent. -/
inductive PlanStep where
  | bean (id : BeanId)
  | module (id : ModuleId)
deriving DecidableEq, Repr, Inhabited

/-- A socket that is filled after construction. Its cell is made in the anchor module, handed down to
the bean, and filled when the anchor has built everything. -/
structure DeferredEdge where
  socket : SocketId
  bean : BeanId
  /-- An optional socket may have no target. -/
  target : Option Provider
  anchor : ModuleId
deriving DecidableEq, Repr, Inhabited

structure ModulePlan where
  module : ModuleId
  steps : List PlanStep
  /-- Beans that come from outside the module's subtree. -/
  imports : List BeanId
  /-- Sockets whose cells are handed in. -/
  deferredIn : List SocketId
  /-- Sockets whose cells are made and filled here. -/
  deferredOwned : List SocketId
  singletons : List BeanId
  perRequest : List BeanId
deriving DecidableEq, Repr, Inhabited

structure Plan where
  /-- All beans, each after those that it needs. -/
  order : List BeanId
  modules : List ModulePlan
  deferred : List DeferredEdge
deriving DecidableEq, Repr, Inhabited

namespace Plan

def module? (plan : Plan) (id : ModuleId) : Option ModulePlan :=
  plan.modules.find? (·.module == id)

def deferredEdge? (plan : Plan) (socket : SocketId) : Option DeferredEdge :=
  plan.deferred.find? (·.socket == socket)

end Plan

end StaticInjection
