import StaticInjection.Model.Tree
import StaticInjection.Order.Insertion

namespace StaticInjection

/-! Which providers a module can see: all of its own, and the public beans of its ancestors, its
children and the siblings it is wired to. -/

/-- A provider with the module that it is seen in. -/
abbrev PlacedProvider := ModuleId × Provider

namespace PlacedProvider

/-- By module, beans before sockets, then by declaration. -/
def isBefore (left right : PlacedProvider) : Bool :=
  left.1.index < right.1.index ||
    (left.1 == right.1 &&
      (left.2.key.1 < right.2.key.1 ||
        (left.2.key.1 == right.2.key.1 && left.2.key.2 < right.2.key.2)))

end PlacedProvider

namespace Model

/-- Modules whose public beans can be seen from a module. -/
def relatives (model : Model) (scope : ModuleId) : List ModuleId :=
  let module := model.module scope
  module.ancestors ++ module.children ++ module.wiredModules

def isPublicBean (model : Model) : Provider → Bool
  | .bean id => (model.bean id).isPublic
  | .socket _ => false

def publicBeans (model : Model) (id : ModuleId) : List Provider :=
  ((model.module id).beans.map .bean).filter model.isPublicBean

/-- What can be seen from a module, as often as it is found. -/
def sightings (model : Model) (scope : ModuleId) : List PlacedProvider :=
  (model.ownProviders scope).map (fun provider => (scope, provider)) ++
    (model.relatives scope).flatMap fun id =>
      (model.publicBeans id).map fun provider => (id, provider)

/-- The visible providers, in order and each of them once. -/
def visible (model : Model) (scope : ModuleId) : List Provider :=
  let sorted := sortBy (fun left right => !right.isBefore left) (model.sightings scope)
  sorted.eraseReps.map (·.2)

end Model

end StaticInjection
