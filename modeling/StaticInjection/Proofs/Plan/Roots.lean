import StaticInjection.Proofs.Build.Outcome
import StaticInjection.Proofs.Plan.Chain
import StaticInjection.Proofs.Plan.Reach

/-! # Which root comes first

A root takes what its tree needs from other trees as imports, which are public beans of
roots that it is wired to. The roots can be built one after another, each with its
imports already there, exactly when no root imports from itself through others: roots
have no module around them whose units would be compared. A need that leads out of a
tree and back into it makes such a circle. -/

namespace StaticInjection

namespace Model

/-- The root above a provider. -/
def treeOf (model : Model) (node : Provider) : ModuleId :=
  model.rootOf (model.providerModule node)

/-- The roots above the beans that a module imports. -/
def importedFrom (model : Model) (id : ModuleId) : List ModuleId :=
  ((model.finalPlan.module? id).elim [] (·.imports)).map fun bean => model.treeOf (.bean bean)

/-- Whatever a root of the sequence imports belongs to the subtree of a root before it. -/
def ImportsInOrder (model : Model) (order : List ModuleId) : Prop :=
  ∀ before root after, order = before ++ root :: after →
    ∀ plan, model.finalPlan.module? root = some plan → ∀ bean ∈ plan.imports,
      ∃ earlier ∈ before, model.isWithin (model.bean bean).module earlier = true

variable {model : Model}

theorem mem_importedFrom {id tree : ModuleId} : tree ∈ model.importedFrom id ↔
    ∃ plan, model.finalPlan.module? id = some plan ∧
      ∃ bean ∈ plan.imports, model.treeOf (.bean bean) = tree := by
  unfold importedFrom
  cases model.finalPlan.module? id <;> simp

theorem roots_nodup (declarations : List ModuleDeclaration) :
    (ofDeclarations declarations).roots.Nodup :=
  forestRoots_nodup 0 declarations

variable (wellFormed : model.WellFormed)

include wellFormed

theorem treeOf_mem_roots {node : Provider} (offered : model.Offers node) :
    model.treeOf node ∈ model.roots := by
  have known := wellFormed.providerModule_known offered
  obtain ⟨within, isRoot⟩ := wellFormed.rootOf_spec known
  exact (wellFormed.roots _).mpr ⟨wellFormed.isWithin_known known within, isRoot⟩

theorem import_known {id : ModuleId} {plan : ModulePlan}
    (found : model.finalPlan.module? id = some plan) {bean : BeanId}
    (listed : bean ∈ plan.imports) : bean ∈ model.beanIds :=
  ((mem_imports wellFormed (planned_of_mem (List.mem_of_find?_eq_some found))).mp listed).1

/-! ## An order of the roots -/

theorem importsInOrder_iff {order : List ModuleId} (roots : ∀ id ∈ order, id ∈ model.roots) :
    model.ImportsInOrder order ↔ Schedule.InOrder model.importedFrom [] order := by
  have isTree : ∀ {plan : ModulePlan} {id : ModuleId}, model.finalPlan.module? id = some plan →
      ∀ bean ∈ plan.imports, ∀ root ∈ order,
        model.treeOf (.bean bean) = root ↔ model.isWithin (model.bean bean).module root = true :=
    fun found bean listed root member => wellFormed.rootOf_eq_iff
      (wellFormed.bean_module bean (import_known wellFormed found listed))
      ((wellFormed.roots root).mp (roots root member)).2
  constructor
  · intro ordered
    refine Schedule.inOrder_of_split fun before root after split tree imported => .inl ?_
    obtain ⟨plan, found, bean, listed, rfl⟩ := mem_importedFrom.mp imported
    obtain ⟨earlier, isBefore, within⟩ := ordered before root after split plan found bean listed
    have member : earlier ∈ order := split ▸ List.mem_append_left _ isBefore
    exact (isTree found bean listed earlier member).mpr within ▸ isBefore
  · intro ordered before root after split plan found bean listed
    subst split
    have imported := mem_importedFrom.mpr ⟨plan, found, bean, listed, rfl⟩
    have isBefore := (ordered.needs_before _ imported).resolve_right List.not_mem_nil
    exact ⟨_, isBefore, (isTree found bean listed _ (List.mem_append_left _ isBefore)).mp rfl⟩

theorem exists_order_iff (nodup : model.roots.Nodup) :
    (∃ order : List ModuleId, order.Perm model.roots ∧ model.ImportsInOrder order) ↔
      ¬ Schedule.HasCircle model.importedFrom model.roots := by
  constructor
  · rintro ⟨order, perm, ordered⟩
    exact ((importsInOrder_iff wellFormed fun _ => perm.mem_iff.mp).mp ordered).no_circle
      fun _ => perm.mem_iff.mpr
  · intro noCircle
    have inside : ∀ root ∈ model.roots, ∀ tree ∈ model.importedFrom root, tree ∈ model.roots := by
      intro root _ tree imported
      obtain ⟨plan, found, bean, listed, rfl⟩ := mem_importedFrom.mp imported
      exact treeOf_mem_roots wellFormed (offers_bean (import_known wellFormed found listed))
    refine ⟨Schedule.order model.importedFrom model.roots, ?_, ?_⟩
    · exact (List.perm_ext_iff_of_nodup (Schedule.nodup_order nodup) nodup).mpr fun root =>
        ⟨Schedule.mem_of_mem_order, Schedule.mem_order inside noCircle⟩
    · exact (importsInOrder_iff wellFormed fun _ => Schedule.mem_of_mem_order).mpr
        (Schedule.order_inOrder _)

/-! ## What a root imports -/

/-- A root imports public beans of roots that it is wired to. -/
theorem root_import {root : ModuleId} (survives : model.Survives root)
    (isRoot : model.parent root = none) {plan : ModulePlan} (planned : model.Planned root plan)
    {bean : BeanId} (listed : bean ∈ plan.imports) :
    model.isPublicBean (.bean bean) = true ∧
      (model.bean bean).module ∈ (model.module root).wiredModules := by
  obtain ⟨_, apart, _⟩ := (mem_imports wellFormed planned).mp listed
  have inReach := (import_inReach wellFormed survives planned listed).1
  refine ⟨inReach.isPublic (WellFormed.ne_of_not_isWithin apart), ?_⟩
  rcases import_outside wellFormed survives planned listed with ⟨different, above⟩ | wired
  · exact absurd ((WellFormed.isWithin_of_root isRoot).mp above).symm different
  · exact wired

/-- So the bean lies in a root itself, which survives too. -/
theorem root_import_tree {root : ModuleId} (survives : model.Survives root)
    (isRoot : model.parent root = none) {plan : ModulePlan} (planned : model.Planned root plan)
    {bean : BeanId} (listed : bean ∈ plan.imports) :
    model.treeOf (.bean bean) = (model.bean bean).module ∧
      model.Survives (model.bean bean).module := by
  have wired := (root_import wellFormed survives isRoot planned listed).2
  have siblings := (wellFormed.wired root survives.known _ wired).2.2
  exact ⟨WellFormed.rootOf_of_root (siblings.trans isRoot),
    (import_inReach wellFormed survives planned listed).2⟩

/-- Roots that import from each other in a circle are wired in a circle. -/
theorem wired_circle (survive : ∀ root ∈ model.roots, model.Survives root)
    (circle : Schedule.HasCircle model.importedFrom model.roots) :
    Schedule.HasCircle (fun root => (model.module root).wiredModules) model.roots := by
  have wired : ∀ root ∈ model.roots, ∀ tree ∈ model.importedFrom root,
      tree ∈ (model.module root).wiredModules ∧ tree ∈ model.roots := by
    intro root member tree imported
    obtain ⟨known, isRoot⟩ := (wellFormed.roots root).mp member
    have survives := survive root member
    obtain ⟨plan, planned⟩ := survives.planned wellFormed
    obtain ⟨other, found, bean, listed, rfl⟩ := mem_importedFrom.mp imported
    obtain rfl := Option.some.inj (planned.found.symm.trans found)
    refine ⟨?_, treeOf_mem_roots wellFormed (offers_bean (import_known wellFormed found listed))⟩
    rw [(root_import_tree wellFormed survives isRoot planned listed).1]
    exact (root_import wellFormed survives isRoot planned listed).2
  obtain ⟨root, member, path⟩ := circle
  have along : ∀ {start : ModuleId}, start ∈ model.roots →
      Relation.TransGen (fun source target => target ∈ model.importedFrom source) start root →
      Relation.TransGen (fun source target => target ∈ (model.module source).wiredModules)
        start root := by
    intro start isStart path
    induction path using Relation.TransGen.head_induction_on with
    | single imported => exact .single (wired _ isStart _ imported).1
    | head imported _ induction =>
        obtain ⟨isWired, isNext⟩ := wired _ isStart _ imported
        exact .head isWired (induction isNext)
  exact ⟨root, member, along member path⟩

/-! ## Needs that leave a tree -/

/-- The sockets of a root itself have no wires, so whatever needs something in the tree
of a root belongs to one of its units. -/
theorem exists_unit_of_scope {root scope : ModuleId} (isRoot : model.parent root = none)
    {wire : Wire} (wired : model.Wired scope wire)
    (within : model.isWithin (model.providerModule (model.requirer wire.socket)) root = true) :
    model.isWithin scope root = true ∧
      ∃ unit, model.unitOf? root (model.requirer wire.socket) = some unit := by
  have offered := wellFormed.offers_requirer wired.known
  suffices found : ∃ unit, model.unitOf? root (model.requirer wire.socket) = some unit from
    ⟨found.elim fun _ => scope_within wellFormed wired, found⟩
  cases owned : (model.socket wire.socket).owner with
  | bean owner =>
      rw [requirer_of_bean owned] at within ⊢
      exact exists_unit wellFormed (wellFormed.owner_bean _ wired.known owner owned).1 within
  | module owner =>
      rw [requirer_of_module owned] at within offered ⊢
      have place := (wellFormed.owner_module _ wired.known owner owned).2
      have isParent := scope_of_module owned wired.wiring
      have different : model.providerModule (.socket wire.socket) ≠ root := by
        intro same
        rw [show model.providerModule (.socket wire.socket) = owner from place] at same
        rw [same, isRoot] at isParent
        cases isParent
      obtain ⟨child, found⟩ := exists_child_unit wellFormed offered within different
      exact ⟨.module child, found⟩

/-- A need stays in its tree, or the tree imports from the one that it leads to. -/
theorem needs_between_trees {source target : Provider} (needs : model.graph.Needs source target)
    (survives : model.Survives (model.treeOf source)) :
    model.treeOf target = model.treeOf source ∨
      model.treeOf target ∈ model.importedFrom (model.treeOf source) ∧
        model.Survives (model.treeOf target) := by
  obtain ⟨wire, isWire, eager, rfl, listed, scope, _, wired⟩ :=
    exists_wire_of_needs wellFormed needs
  have sourceKnown := wellFormed.providerModule_known (wellFormed.offers_requirer wired.known)
  have suits := wired.suits target listed
  have targetKnown := wellFormed.providerModule_known suits.offered
  obtain ⟨within, isRoot⟩ := wellFormed.rootOf_spec sourceKnown
  obtain ⟨scopeWithin, unit, found⟩ := exists_unit_of_scope wellFormed isRoot wired within
  cases inside : model.isWithin (model.providerModule target)
      (model.treeOf (model.requirer wire.socket)) with
  | true => exact .inl ((wellFormed.rootOf_eq_iff targetKnown isRoot).mpr inside)
  | false =>
      obtain ⟨plan, planned⟩ := survives.planned wellFormed
      cases target with
      | socket socket =>
          rw [show model.providerModule (.socket socket) = scope from input_of_scope wired listed]
            at inside
          exact Bool.noConfusion (scopeWithin.symm.trans inside)
      | bean bean =>
          have edge := wellFormed.mem_edges.mpr ⟨wire, isWire, _, listed, rfl⟩
          have imported := mem_imports_of_edge wellFormed planned edge eager found rfl
            suits.offered inside
          obtain ⟨isTree, targetSurvives⟩ :=
            root_import_tree wellFormed survives isRoot planned imported
          exact .inr ⟨mem_importedFrom.mpr ⟨plan, planned.found, bean, imported, rfl⟩,
            isTree ▸ targetSurvives⟩

/-- A chain of needs stays in its tree, or the tree imports from the last one, perhaps
through others. -/
theorem chain_between_trees {source target : Provider}
    (chain : Relation.TransGen model.graph.Needs source target)
    (survives : model.Survives (model.treeOf source)) :
    (model.treeOf target = model.treeOf source ∧
      Relation.TransGen (model.NeedsInside (model.treeOf source)) source target) ∨
    Relation.TransGen (fun left right => right ∈ model.importedFrom left)
      (model.treeOf source) (model.treeOf target) := by
  have inside : ∀ {left right : Provider}, model.graph.Needs left right →
      model.treeOf right = model.treeOf left → model.NeedsInside (model.treeOf left) left right := by
    intro left right needs same
    obtain ⟨leftOffered, rightOffered, _⟩ := needs_iff.mp needs
    have left := wellFormed.providerModule_known (wellFormed.mem_graphNodes.mp leftOffered)
    have right := wellFormed.providerModule_known (wellFormed.mem_graphNodes.mp rightOffered)
    exact ⟨needs, (wellFormed.rootOf_spec left).1, same ▸ (wellFormed.rootOf_spec right).1⟩
  induction chain using Relation.TransGen.head_induction_on with
  | single needs =>
      rcases needs_between_trees wellFormed needs survives with same | ⟨imported, _⟩
      · exact .inl ⟨same, .single (inside needs same)⟩
      · exact .inr (.single imported)
  | head needs _ induction =>
      rcases needs_between_trees wellFormed needs survives with same | ⟨imported, middleSurvives⟩
      · rcases induction (same ▸ survives) with ⟨sameTarget, rest⟩ | rest
        · exact .inl ⟨sameTarget.trans same, .head (inside needs same) (same ▸ rest)⟩
        · exact .inr (same ▸ rest)
      · rcases induction middleSurvives with ⟨sameTarget, _⟩ | rest
        · exact .inr (.single (sameTarget ▸ imported))
        · exact .inr (.head imported rest)

/-- Where no circle of imports leads through a root, needs between two beans of its tree
stay in the tree. -/
theorem needsInside_of_no_circle {root : ModuleId} (survives : model.Survives root)
    (noCircle : ¬ Relation.TransGen (fun left right => right ∈ model.importedFrom left) root root)
    {source target : Provider} (sourceTree : model.treeOf source = root)
    (targetTree : model.treeOf target = root)
    (chain : Relation.TransGen model.graph.Needs source target) :
    Relation.TransGen (model.NeedsInside root) source target := by
  subst sourceTree
  rcases chain_between_trees wellFormed chain survives with ⟨_, inside⟩ | circle
  · exact inside
  · exact absurd (targetTree ▸ circle) noCircle

/-! ## Builds without a report -/

/-- Where nothing is reported, every module survives. -/
theorem survives_of_silent {header : String} (silent : (Build.ofModel model header).diagnostics = [])
    {id : ModuleId} (known : id ∈ model.moduleIds) : model.Survives id := by
  refine ⟨known, fun failed => ?_⟩
  obtain ⟨_, ⟨_, member, _⟩, _⟩ := (reaches_blamed_iff wellFormed known).mpr failed
  rw [silent] at member
  cases member

end Model

/-- In an application that is accepted, every root has a plan and imports public beans
of roots that it is wired to. The roots can be put in an order in which each of them
comes after those whose subtrees it imports from exactly when no root imports from
itself, perhaps through others. So it is enough that they are wired in no circle. -/
theorem roots_build_in_order_iff (declarations : List ModuleDeclaration) (header : String)
    (accepted : (Build.ofDeclarations declarations header).diagnostics = []) :
    let model := Model.ofDeclarations declarations
    (∀ root ∈ model.roots, ∃ plan, model.finalPlan.module? root = some plan ∧
      ∀ bean ∈ plan.imports, model.isPublicBean (.bean bean) = true ∧
        (model.bean bean).module ∈ (model.module root).wiredModules) ∧
    ((∃ order : List ModuleId, order.Perm model.roots ∧ model.ImportsInOrder order) ↔
      ¬ Schedule.HasCircle model.importedFrom model.roots) ∧
    (¬ Schedule.HasCircle (fun root => (model.module root).wiredModules) model.roots →
      ∃ order : List ModuleId, order.Perm model.roots ∧ model.ImportsInOrder order) := by
  intro model
  have wellFormed := Model.ofDeclarations_wellFormed declarations
  have survive : ∀ root ∈ model.roots, model.Survives root := fun root member =>
    Model.survives_of_silent wellFormed accepted ((wellFormed.roots root).mp member).1
  have order := Model.exists_order_iff wellFormed (Model.roots_nodup declarations)
  refine ⟨fun root member => ?_, order, fun noCircle =>
    order.mpr (mt (Model.wired_circle wellFormed survive) noCircle)⟩
  have isRoot := ((wellFormed.roots root).mp member).2
  obtain ⟨plan, planned⟩ := (survive root member).planned wellFormed
  exact ⟨plan, planned.found, fun bean listed =>
    Model.root_import wellFormed (survive root member) isRoot planned listed⟩

/-- Two roots, of which the first is wired to the second. -/
def sampleRoots : List ModuleDeclaration :=
  let pool : BeanDeclaration :=
    { name := "pool", declaredType := .ofText "Pool", visibility := .isPublic }
  let server : BeanDeclaration :=
    { name := "server", declaredType := .ofText "Server"
      sockets := [{ name := "pool", requiredType := .ofText "Pool" }] }
  [{ name := "web", beans := [server], wiredModules := ["data"] },
    { name := "data", beans := [pool] }]

set_option maxRecDepth 100000 in
theorem sampleRoots_build_in_order :
    let model := Model.ofDeclarations sampleRoots
    (Build.ofDeclarations sampleRoots "").diagnostics = [] ∧
      model.importedFrom ⟨0⟩ = [⟨1⟩] ∧
      ∃ order : List ModuleId, order.Perm model.roots ∧ model.ImportsInOrder order := by
  intro model
  have accepted : (Build.ofDeclarations sampleRoots "").diagnostics = [] := by decide +kernel
  refine ⟨accepted, by decide +kernel,
    (roots_build_in_order_iff sampleRoots "" accepted).2.1.mpr ?_⟩
  have ordered : Schedule.InOrder model.importedFrom [] [⟨1⟩, ⟨0⟩] :=
    ⟨by decide +kernel, by decide +kernel, trivial⟩
  exact ordered.no_circle (by decide +kernel)

/-- Two roots that are wired to each other: a bean of the first needs one of the second,
which needs another one of the first. -/
def sampleMutualRoots : List ModuleDeclaration :=
  let front : BeanDeclaration :=
    { name := "front", declaredType := .ofText "Front", destroy := ["close"]
      sockets := [{ name := "middle", requiredType := .ofText "Middle" }] }
  let base : BeanDeclaration :=
    { name := "base", declaredType := .ofText "Base", visibility := .isPublic
      destroy := ["close"] }
  let middle : BeanDeclaration :=
    { name := "middle", declaredType := .ofText "Middle", visibility := .isPublic
      sockets := [{ name := "base", requiredType := .ofText "Base" }] }
  [{ name := "a", beans := [front, base], wiredModules := ["b"] },
    { name := "b", beans := [middle], wiredModules := ["a"] }]

set_option maxRecDepth 100000 in
/-- They are accepted, and neither can be built before the other. -/
theorem sampleMutualRoots_no_order :
    let model := Model.ofDeclarations sampleMutualRoots
    (Build.ofDeclarations sampleMutualRoots "").diagnostics = [] ∧
      ¬ ∃ order : List ModuleId, order.Perm model.roots ∧ model.ImportsInOrder order := by
  intro model
  refine ⟨by decide +kernel, ?_⟩
  have wellFormed := Model.ofDeclarations_wellFormed sampleMutualRoots
  rw [Model.exists_order_iff wellFormed (Model.roots_nodup _), not_not]
  have there : (⟨1⟩ : ModuleId) ∈ model.importedFrom ⟨0⟩ := by decide +kernel
  have back : (⟨0⟩ : ModuleId) ∈ model.importedFrom ⟨1⟩ := by decide +kernel
  exact ⟨⟨0⟩, by decide +kernel, .head there (.single back)⟩

end StaticInjection
