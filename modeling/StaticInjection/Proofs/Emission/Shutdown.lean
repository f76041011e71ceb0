import StaticInjection.Proofs.Emission.Reference
import StaticInjection.Proofs.Plan.Roots

/-! # Shutting down

The shutdown of a module calls the hooks of its beans and the shutdown of its children,
from the last step of its plan to the first. With the calls of a child in place of the
call of its shutdown this comes to the hooks of all beans of the subtree, in the reverse
of the sequence that builds them. So a bean is destroyed before those that it needs
through a chain that stays in the subtree, and below a root also through any other
chain, unless the roots import from each other in a circle. -/

namespace StaticInjection

namespace Model

open Code

/-- The calls that shutdown steps of a module come to, each with the module that it is
made in. The shutdown of a child is called on the field with the name of the child. -/
inductive ShutsDown (model : Model) (header : String) :
    ModuleId → List ShutdownStep → List (ModuleId × ShutdownStep) → Prop
  | done {id : ModuleId} : ShutsDown model header id [] []
  | hook {id : ModuleId} {bean method : String} {steps : List ShutdownStep}
      {calls : List (ModuleId × ShutdownStep)} :
      ShutsDown model header id steps calls →
      ShutsDown model header id (.hook bean method :: steps) ((id, .hook bean method) :: calls)
  | issued {id : ModuleId} {bean : String} {methods : List String} {steps : List ShutdownStep}
      {calls : List (ModuleId × ShutdownStep)} :
      ShutsDown model header id steps calls →
      ShutsDown model header id (.issued bean methods :: steps)
        ((id, .issued bean methods) :: calls)
  | child {id child : ModuleId} {name : String} {code : ModuleCode} {steps : List ShutdownStep}
      {inner calls : List (ModuleId × ShutdownStep)} :
      child ∈ (model.module id).children → (model.module child).name = name →
      model.Emits header child code → ShutsDown model header child code.shutdown inner →
      ShutsDown model header id steps calls →
      ShutsDown model header id (.child name :: steps) (inner ++ calls)

/-- Whether there is anything to call when the bean, or a value of it, is destroyed. -/
def hasHooks (model : Model) (bean : BeanId) : Bool :=
  !(model.bean bean).destroy.isEmpty

/-- The hooks of a bean in their order, called on the bean or on each of its values that
have been given out. -/
def destruction (model : Model) (id : BeanId) : List (ModuleId × ShutdownStep) :=
  let bean := model.bean id
  match bean.lifetime with
  | .singleton => bean.destroy.map fun hook => (bean.module, .hook bean.name hook)
  | .perRequest => [(bean.module, .issued bean.name bean.destroy)]

/-- The beans with hooks, the one that is built last first. -/
def destroyed (model : Model) (beans : List BeanId) : List BeanId :=
  (beans.filter model.hasHooks).reverse

variable {model : Model} {header : String}

/-! ## Calls of steps -/

theorem Emits.unique {id : ModuleId} {left right : ModuleCode}
    (first : model.Emits header id left) (second : model.Emits header id right) : left = right := by
  obtain ⟨plan, found, rfl⟩ := first.planned
  obtain ⟨other, otherFound, rfl⟩ := second.planned
  cases found.symm.trans otherFound
  rfl

theorem Emits.survives (wellFormed : model.WellFormed) {id : ModuleId} {code : ModuleCode}
    (emits : model.Emits header id code) : model.Survives id := by
  obtain ⟨artifact, emitted, rfl, _⟩ := emits.emitted
  obtain ⟨_, survives, _⟩ := artifact_planned wellFormed emitted
  exact survives

namespace ShutsDown

/-- Steps come to one sequence of calls only: siblings that survive differ in their
names. -/
theorem unique (wellFormed : model.WellFormed) {id : ModuleId} (known : id ∈ model.moduleIds)
    {steps : List ShutdownStep} {left right : List (ModuleId × ShutdownStep)}
    (first : model.ShutsDown header id steps left)
    (second : model.ShutsDown header id steps right) : left = right := by
  induction first generalizing right with
  | done =>
      cases second
      rfl
  | hook _ induction =>
      cases second with
      | hook rest => rw [induction known rest]
  | issued _ induction =>
      cases second with
      | issued rest => rw [induction known rest]
  | child listed named emits _ _ innerInduction restInduction =>
      cases second with
      | child otherListed otherNamed otherEmits inner rest =>
          obtain ⟨childKnown, isChild⟩ := (wellFormed.children _ known _).mp listed
          obtain ⟨_, otherIsChild⟩ := (wellFormed.children _ known _).mp otherListed
          obtain rfl := (emits.survives wellFormed).eq_of_sibling_name wellFormed
            (otherEmits.survives wellFormed) (isChild.trans otherIsChild.symm)
            (named.trans otherNamed.symm)
          obtain rfl := emits.unique otherEmits
          rw [innerInduction childKnown inner, restInduction known rest]

theorem append {id : ModuleId} {left right : List ShutdownStep}
    {first second : List (ModuleId × ShutdownStep)} (before : model.ShutsDown header id left first)
    (after : model.ShutsDown header id right second) :
    model.ShutsDown header id (left ++ right) (first ++ second) := by
  induction before with
  | done => exact after
  | hook _ induction => exact .hook (induction after)
  | issued _ induction => exact .issued (induction after)
  | child listed named emits inner _ _ induction =>
      rw [List.append_assoc]
      exact .child listed named emits inner (induction after)

theorem hooks (id : ModuleId) (bean : String) (methods : List String) :
    model.ShutsDown header id (methods.map (.hook bean))
      (methods.map fun method => (id, .hook bean method)) := by
  induction methods with
  | nil => exact .done
  | cons method methods induction => exact .hook induction

/-- The step of a bean calls its hooks. -/
theorem bean (id : BeanId) : model.ShutsDown header (model.bean id).module
    (model.shutdownSteps (.bean id)) ((model.destroyed [id]).flatMap model.destruction) := by
  cases lifetime : (model.bean id).lifetime with
  | singleton =>
      have calls : (model.destroyed [id]).flatMap model.destruction =
          (model.bean id).destroy.map fun hook =>
            ((model.bean id).module, .hook (model.bean id).name hook) := by
        cases declared : (model.bean id).destroy <;>
          simp [destroyed, hasHooks, destruction, lifetime, declared]
      simp only [calls, shutdownSteps, lifetime]
      exact hooks _ _ _
  | perRequest =>
      cases declared : (model.bean id).destroy with
      | nil =>
          have calls : (model.destroyed [id]).flatMap model.destruction = [] := by
            simp [destroyed, hasHooks, declared]
          simp only [calls, shutdownSteps, Bean.isTracked, lifetime, declared]
          exact .done
      | cons method methods =>
          have calls : (model.destroyed [id]).flatMap model.destruction =
              [((model.bean id).module, .issued (model.bean id).name (method :: methods))] := by
            simp [destroyed, hasHooks, destruction, lifetime, declared]
          simp only [calls, shutdownSteps, Bean.isTracked, lifetime, declared]
          exact .issued .done

end ShutsDown

/-! ## Beans in reverse -/

theorem destroyed_append (left right : List BeanId) :
    model.destroyed (left ++ right) = model.destroyed right ++ model.destroyed left := by
  simp [destroyed]

theorem destroyed_cons (bean : BeanId) (beans : List BeanId) :
    model.destroyed (bean :: beans) = model.destroyed beans ++ model.destroyed [bean] :=
  destroyed_append [bean] beans

theorem mem_destroyed {beans : List BeanId} {bean : BeanId} :
    bean ∈ model.destroyed beans ↔ bean ∈ beans ∧ (model.bean bean).destroy ≠ [] := by
  simp [destroyed, hasHooks]

theorem destroyed_before {beans : List BeanId} {bean need : BeanId}
    (order : [need, bean].Sublist beans) (beanDestroyed : bean ∈ model.destroyed beans)
    (needDestroyed : need ∈ model.destroyed beans) :
    [bean, need].Sublist (model.destroyed beans) := by
  have kept : [need, bean].filter model.hasHooks = [need, bean] := by
    simp [hasHooks, (mem_destroyed.mp beanDestroyed).2, (mem_destroyed.mp needDestroyed).2]
  exact (kept ▸ order.filter model.hasHooks).reverse

variable (wellFormed : model.WellFormed)

include wellFormed

/-- Steps in reverse come to the calls for their beans in reverse. -/
theorem shutsDown_of_expands (header : String) {id : ModuleId} (survives : model.Survives id)
    {steps : List PlanStep} {beans : List BeanId} (expands : model.finalPlan.Expands steps beans)
    (inside : ∀ unit ∈ steps, unit ∈ model.units id) :
    model.ShutsDown header id (steps.reverse.flatMap model.shutdownSteps)
      ((model.destroyed beans).flatMap model.destruction) := by
  induction expands generalizing id with
  | done => exact .done
  | @bean own steps beans _ induction =>
      have rest := induction survives fun unit later => inside unit (List.mem_cons_of_mem _ later)
      have here := ((mem_units_bean wellFormed survives.known).mp (inside _ List.mem_cons_self)).2
      rw [List.reverse_cons, List.flatMap_append, destroyed_cons,
        List.flatMap_append, List.flatMap_singleton]
      exact rest.append (here ▸ .bean own)
  | @module child plan steps inner beans found _ _ innerInduction restInduction =>
      have rest := restInduction survives fun unit later =>
        inside unit (List.mem_cons_of_mem _ later)
      obtain ⟨known, isChild⟩ := (mem_units_module wellFormed survives.known).mp
        (inside _ List.mem_cons_self)
      have childSurvives := survives.child wellFormed known isChild
      obtain ⟨other, planned⟩ := childSurvives.planned wellFormed
      obtain rfl := Option.some.inj (planned.found.symm.trans found)
      have below := innerInduction childSurvives fun unit =>
        (mem_steps wellFormed childSurvives planned).mp
      have listed := (wellFormed.children id survives.known child).mpr ⟨known, isChild⟩
      rw [List.reverse_cons, List.flatMap_append, destroyed_append, List.flatMap_append,
        List.flatMap_singleton]
      refine rest.append ?_
      have call := ShutsDown.child listed rfl (childSurvives.emits wellFormed planned header)
        below .done
      rwa [List.append_nil] at call

end Model

/-- The calls that the shutdown of an emitted module comes to are the hooks of the beans
of its subtree, each bean once with all of its hooks in their order, in the reverse of the
sequence in which the beans are built. A bean comes before every other one that it needs
through a chain of needs that stays in the subtree, and in a root through any chain of
needs, as long as no circle of imports leads through the root. -/
theorem emitted_shutdown_reverses (declarations : List ModuleDeclaration) (header : String)
    (artifact : Artifact)
    (emitted : artifact ∈ (Build.ofDeclarations declarations header).artifacts) :
    let model := Model.ofDeclarations declarations
    let id := artifact.module
    ∃ plan beans calls,
      model.finalPlan.module? id = some plan ∧
      artifact.source = (model.codeFor plan header).text ∧
      (∀ others, model.finalPlan.Expands plan.steps others ↔ others = beans) ∧
      (∀ others, model.ShutsDown header id (model.codeFor plan header).shutdown others ↔
        others = calls) ∧
      let destroyed := (beans.filter model.hasHooks).reverse
      calls = destroyed.flatMap model.destruction ∧
      destroyed.Nodup ∧
      (∀ bean, bean ∈ destroyed ↔ bean ∈ model.beanIds ∧
        model.isWithin (model.bean bean).module id = true ∧ (model.bean bean).destroy ≠ []) ∧
      ∀ bean ∈ destroyed, ∀ need ∈ destroyed,
        (Relation.TransGen (model.NeedsInside id) (.bean bean) (.bean need) →
          [bean, need].Sublist destroyed) ∧
        (model.parent id = none →
          ¬ Relation.TransGen (fun left right => right ∈ model.importedFrom left) id id →
          Relation.TransGen model.graph.Needs (.bean bean) (.bean need) →
          [bean, need].Sublist destroyed) := by
  intro model id
  have wellFormed := Model.ofDeclarations_wellFormed declarations
  obtain ⟨plan, survives, planned, source⟩ := Model.artifact_planned wellFormed emitted
  obtain ⟨beans, expands, builds⟩ := Model.exists_buildsAll wellFormed survives planned
  have shutsDown : model.ShutsDown header id (model.codeFor plan header).shutdown
      ((model.destroyed beans).flatMap model.destruction) :=
    Model.shutsDown_of_expands wellFormed header survives expands fun unit =>
      (Model.mem_steps wellFormed survives planned).mp
  have member : ∀ bean, bean ∈ model.destroyed beans ↔ bean ∈ model.beanIds ∧
      model.isWithin (model.bean bean).module id = true ∧ (model.bean bean).destroy ≠ [] := by
    intro bean
    rw [Model.mem_destroyed, builds.complete, and_assoc]
  refine ⟨plan, beans, _, planned.found, source, fun others => ⟨fun other => other.unique expands,
    fun equal => equal ▸ expands⟩, fun others => ⟨fun other => other.unique wellFormed
      survives.known shutsDown, fun equal => equal ▸ shutsDown⟩, rfl, ?_, member,
    fun bean beanDestroyed need needDestroyed => ?_⟩
  · exact List.nodup_reverse.mpr (builds.nodup.filter _)
  · obtain ⟨beanKnown, beanWithin, _⟩ := (member bean).mp beanDestroyed
    obtain ⟨needKnown, needWithin, _⟩ := (member need).mp needDestroyed
    have inside : Relation.TransGen (model.NeedsInside id) (.bean bean) (.bean need) →
        [bean, need].Sublist (model.destroyed beans) := fun chain =>
      Model.destroyed_before (builds.respects_chain wellFormed chain bean beanKnown
        ⟨rfl, beanWithin⟩) beanDestroyed needDestroyed
    refine ⟨inside, fun isRoot noCircle chain => inside ?_⟩
    have tree : ∀ bean ∈ model.beanIds, model.isWithin (model.bean bean).module id = true →
        model.treeOf (.bean bean) = id := fun bean known within =>
      (wellFormed.rootOf_eq_iff (wellFormed.bean_module bean known) isRoot).mpr within
    exact Model.needsInside_of_no_circle wellFormed survives noCircle
      (tree bean beanKnown beanWithin) (tree need needKnown needWithin) chain

/-- A store for each request, in a module that takes the log as an input. -/
def sampleHooks : List ModuleDeclaration :=
  let log : BeanDeclaration :=
    { name := "log", declaredType := .ofText "Log", visibility := .isPublic
      destroy := ["flush", "close"] }
  let store : BeanDeclaration :=
    { name := "store", declaredType := .ofText "Store", lifetime := .perRequest
      destroy := ["release"]
      sockets := [{ name := "log", requiredType := .ofText "Log" }] }
  [{ name := "app"
     modules := [
      { name := "data"
        sockets := [{ name := "log", requiredType := .ofText "Log" }]
        beans := [store] },
      { name := "logging", beans := [log] }] }]

set_option maxRecDepth 100000 in
/-- The store goes first, though it needs the log only through the input. -/
theorem sampleHooks_shutdown_reverses :
    let model := Model.ofDeclarations sampleHooks
    ∃ plan calls, model.finalPlan.module? ⟨0⟩ = some plan ∧
      (∀ others, model.ShutsDown "" ⟨0⟩ (model.codeFor plan "").shutdown others ↔
        others = calls) ∧
      [(⟨1⟩, .issued "store" ["release"]), (⟨2⟩, .hook "log" "flush")].Sublist calls := by
  intro model
  obtain ⟨artifact, emitted, isRoot⟩ : ∃ artifact ∈ (Build.ofDeclarations sampleHooks "").artifacts,
      artifact.module = ⟨0⟩ := List.mem_map.mp (by decide +kernel)
  obtain ⟨plan, beans, calls, found, _, _, shutsDown, rfl, _, member, order⟩ :=
    emitted_shutdown_reverses sampleHooks "" artifact emitted
  rw [isRoot] at found shutsDown member order
  have store := (member ⟨0⟩).mpr (by decide +kernel)
  have log := (member ⟨1⟩).mpr (by decide +kernel)
  have noCircle : ¬ Relation.TransGen (fun left right => right ∈ model.importedFrom left)
      (⟨0⟩ : ModuleId) ⟨0⟩ := by
    have none : model.importedFrom ⟨0⟩ = [] := by decide +kernel
    intro circle
    obtain ⟨next, imported, _⟩ := Relation.TransGen.head'_iff.mp circle
    rw [none] at imported
    cases imported
  have takes : model.graph.Needs (.bean ⟨0⟩) (.socket ⟨0⟩) :=
    Model.needs_iff.mpr (by decide +kernel)
  have given : model.graph.Needs (.socket ⟨0⟩) (.bean ⟨1⟩) :=
    Model.needs_iff.mpr (by decide +kernel)
  have before := (order ⟨0⟩ store ⟨1⟩ log).2 (by decide +kernel) noCircle
    (.head takes (.single given))
  have inCalls : [(⟨1⟩, .issued "store" ["release"]), (⟨2⟩, .hook "log" "flush")].Sublist
      ([⟨0⟩, ⟨1⟩].flatMap model.destruction) := by decide +kernel
  exact ⟨plan, _, found, shutsDown, inCalls.trans (List.Sublist.flatMap before _)⟩

set_option maxRecDepth 100000 in
/-- Where roots are wired to each other, the base is closed before the front that needs
it through the other root. -/
theorem sampleMutualRoots_shut_down_early :
    let model := Model.ofDeclarations sampleMutualRoots
    Relation.TransGen model.graph.Needs (.bean ⟨0⟩) (.bean ⟨1⟩) ∧
      ∃ artifact ∈ (Build.ofDeclarations sampleMutualRoots "").artifacts, ∃ plan,
        artifact.module = ⟨0⟩ ∧ model.finalPlan.module? ⟨0⟩ = some plan ∧
        artifact.source = (model.codeFor plan "").text ∧
        ∀ calls, model.ShutsDown "" ⟨0⟩ (model.codeFor plan "").shutdown calls ↔
          calls = [(⟨0⟩, .hook "base" "close"), (⟨0⟩, .hook "front" "close")] := by
  intro model
  have wellFormed := Model.ofDeclarations_wellFormed sampleMutualRoots
  have out : model.graph.Needs (.bean ⟨0⟩) (.bean ⟨2⟩) := Model.needs_iff.mpr (by decide +kernel)
  have back : model.graph.Needs (.bean ⟨2⟩) (.bean ⟨1⟩) := Model.needs_iff.mpr (by decide +kernel)
  obtain ⟨artifact, emitted, isRoot⟩ : ∃ artifact ∈
      (Build.ofDeclarations sampleMutualRoots "").artifacts, artifact.module = ⟨0⟩ :=
    List.mem_map.mp (by decide +kernel)
  obtain ⟨plan, survives, planned, source⟩ := Model.artifact_planned wellFormed emitted
  rw [isRoot] at survives planned
  have shutdown : ((model.finalPlan.module? ⟨0⟩).map fun plan => (model.codeFor plan "").shutdown) =
      some [.hook "base" "close", .hook "front" "close"] := by decide +kernel
  rw [planned.found, Option.map_some, Option.some.injEq] at shutdown
  have run : model.ShutsDown "" ⟨0⟩ (model.codeFor plan "").shutdown
      [(⟨0⟩, .hook "base" "close"), (⟨0⟩, .hook "front" "close")] :=
    shutdown ▸ .hook (.hook .done)
  exact ⟨.head out (.single back), artifact, emitted, plan, isRoot, planned.found, source,
    fun calls => ⟨fun other => other.unique wellFormed survives.known run,
      fun equal => equal ▸ run⟩⟩

end StaticInjection
