import StaticInjection.Model.Basic

namespace StaticInjection.Model

/-! Questions about the tree of modules. -/

/-- A module and its ancestors, nearest first. -/
def lineage (model : Model) (id : ModuleId) : List ModuleId :=
  id :: (model.module id).ancestors

/-- Whether a module lies in the subtree of another, which belongs to it itself. -/
def isWithin (model : Model) (id root : ModuleId) : Bool :=
  (model.lineage id).contains root

/-- The element in front of the first occurrence of another one. -/
def elementBefore (target : ModuleId) : List ModuleId → Option ModuleId
  | first :: second :: rest =>
    if second = target then some first else elementBefore target (second :: rest)
  | _ => none

/-- The child of a module whose subtree holds another module. -/
def childContaining? (model : Model) (parent id : ModuleId) : Option ModuleId :=
  if id = parent then none else elementBefore parent (model.lineage id)

/-- The deepest module whose subtree holds both. -/
def commonAncestor? (model : Model) (left right : ModuleId) : Option ModuleId :=
  (model.lineage right).find? (model.lineage left).contains

/-- The root above a module. -/
def rootOf (model : Model) (id : ModuleId) : ModuleId :=
  (model.module id).ancestors.getLastD id

end StaticInjection.Model
