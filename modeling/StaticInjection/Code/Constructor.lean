import StaticInjection.Code.Value

namespace StaticInjection.Code

/-! The function that builds a module: take the inputs apart, make the cells, build step by step, fill
the cells, and put the module together. -/

inductive GatherStep where
  | push (value : Value)
  /-- The value of an optional input, if there is one. -/
  | extendOptional (source : Local)
  /-- The values of a collection input. -/
  | extendAll (source : Local)
deriving DecidableEq, Repr

/-- A collection of shared values of one type, put together in a local of its own. -/
structure Gathering where
  target : Local
  type : String
  steps : List GatherStep
deriving DecidableEq, Repr

/-- A call of a bean's constructor, after the collections for it have been gathered. -/
structure Construction where
  gatherings : List Gathering
  constructor : String
  arguments : List Value
deriving DecidableEq, Repr

inductive BuildStep where
  | singleton (bean : String) (construction : Construction) (hooks : List String)
  /-- The factory moves its own clones of the captured locals. It keeps track of what it gives out when
  that has to be destroyed. -/
  | perRequest (bean type : String) (tracked : Bool) (captured : List Local)
      (construction : Construction) (hooks : List String)
  | child (name moduleType inputsType : String) (gatherings : List Gathering)
      (fields : List (String × Value))
deriving DecidableEq, Repr

inductive Patch where
  | fill (cell : Local) (value : Value)
  /-- The cell stays empty when the optional input has no value. -/
  | fillOptional (cell source : Local)
deriving DecidableEq, Repr

structure Constructor where
  inputsType : String
  /-- The inputs by their fields, with the locals that take them. -/
  bindings : List (String × Local)
  cells : List (Local × String)
  steps : List BuildStep
  patches : List Patch
  fields : List (String × Local)
deriving DecidableEq, Repr

/-! ## Bound and mentioned locals -/

namespace GatherStep

def locals : GatherStep → List Local
  | push value => value.locals
  | extendOptional source => [source]
  | extendAll source => [source]

end GatherStep

namespace Gathering

/-- The locals mentioned besides the target. -/
def locals (gathering : Gathering) : List Local :=
  gathering.steps.flatMap (·.locals)

end Gathering

namespace BuildStep

/-- The locals that a step leaves bound for the statements after it, in order. -/
def bound : BuildStep → List Local
  | singleton bean construction _ =>
    construction.gatherings.map (·.target) ++ [⟨.singleton, bean⟩]
  | perRequest bean _ tracked _ _ _ =>
    (if tracked then [⟨.issued, bean⟩] else []) ++ [⟨.factory, bean⟩]
  | child name _ _ gatherings _ => gatherings.map (·.target) ++ [⟨.child, name⟩]

end BuildStep

namespace Patch

def locals : Patch → List Local
  | fill cell value => cell :: value.locals
  | fillOptional cell source => [cell, source]

end Patch

end StaticInjection.Code
