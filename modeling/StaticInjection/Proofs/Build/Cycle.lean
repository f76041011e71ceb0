import StaticInjection.Proofs.Build.Survival
import StaticInjection.Proofs.Graph.Cycle

/-! # Reported cycles

A cycle is reported once to each module that owns one of its members, with all of
them. So no module is built that owns a part of a cycle. -/

namespace StaticInjection

theorem DependencyGraph.IsCycle.ordered_perm {graph : DependencyGraph} {cycle : DependencyCycle}
    (isCycle : graph.IsCycle cycle) : cycle.ordered.Perm cycle.members := by
  have membersNodup : cycle.members.Nodup := isCycle.component.ascending.imp Provider.Before.ne
  have orderedNodup : cycle.ordered.Nodup := by
    refine List.nodup_append.mpr ⟨isCycle.simple.nodup, membersNodup.filter _, ?_⟩
    rintro left onCycle right other rfl
    simp [onCycle] at other
  refine (List.perm_ext_iff_of_nodup orderedNodup membersNodup).mpr fun node => ?_
  rw [DependencyCycle.ordered, List.mem_append, List.mem_filter]
  constructor
  · rintro (onCycle | ⟨member, _⟩)
    · exact isCycle.inside node onCycle
    · exact member
  · intro member
    by_cases onCycle : node ∈ cycle.nodes
    · exact .inl onCycle
    · exact .inr ⟨member, by simpa using onCycle⟩

namespace Model

/-- A diagnostic about a cycle for a module that owns one of its members. -/
structure ReportsCycle (model : Model) (cycle : DependencyCycle) (module : ModuleId)
    (diagnostic : Diagnostic) : Prop where
  kind : diagnostic.kind = .cyclicDependency
  scope : diagnostic.scope = some module
  implicated : diagnostic.implicated.Perm (cycle.members.map model.qualifiedName)
  location : ∃ node ∈ cycle.members, model.providerModule node = module ∧
    diagnostic.location = model.providerLocation node

theorem ReportsCycle.blames {model : Model} {cycle : DependencyCycle} {module : ModuleId}
    {diagnostic : Diagnostic} (report : model.ReportsCycle cycle module diagnostic) :
    diagnostic.Blames module :=
  ⟨by rw [report.kind]; decide, report.scope⟩

/-- The cycles with the modules that own members of them. -/
def cycleOwners (model : Model) (cycles : List DependencyCycle) :
    List (DependencyCycle × ModuleId) :=
  cycles.flatMap fun cycle => (model.cycleModules cycle).map (cycle, ·)

variable {model : Model}

namespace WellFormed

variable (wellFormed : model.WellFormed) {wires : WireSet} {cycle : DependencyCycle}

include wellFormed

theorem mem_cycleModules (isCycle : (model.dependencyGraph wires).IsCycle cycle)
    {id : ModuleId} : id ∈ model.cycleModules cycle ↔
      ∃ node ∈ cycle.members, model.providerModule node = id := by
  simp only [cycleModules, List.mem_filter, List.any_eq_true, beq_iff_eq,
    isCycle.ordered_perm.mem_iff]
  constructor
  · exact And.right
  · rintro ⟨node, member, owned⟩
    refine ⟨?_, node, member, owned⟩
    have inGraph : node ∈ model.graphNodes :=
      ((isCycle.component.whole node member node).mp member).1
    exact owned ▸ wellFormed.providerModule_known (wellFormed.mem_graphNodes.mp inGraph)

theorem mem_cycleOwners {cycles : List DependencyCycle}
    (areCycles : ∀ cycle ∈ cycles, (model.dependencyGraph wires).IsCycle cycle)
    {module : ModuleId} : (cycle, module) ∈ model.cycleOwners cycles ↔
      cycle ∈ cycles ∧ ∃ node ∈ cycle.members, model.providerModule node = module := by
  simp only [cycleOwners, List.mem_flatMap, List.mem_map, Prod.mk.injEq]
  constructor
  · rintro ⟨other, listed, id, owner, rfl, rfl⟩
    exact ⟨listed, (wellFormed.mem_cycleModules (areCycles other listed)).mp owner⟩
  · rintro ⟨listed, owner⟩
    exact ⟨cycle, listed, module,
      (wellFormed.mem_cycleModules (areCycles cycle listed)).mpr owner, rfl, rfl⟩

theorem cycleOwners_nodup {cycles : List DependencyCycle} (nodup : cycles.Nodup) :
    (model.cycleOwners cycles).Nodup := by
  refine List.nodup_flatMap.mpr ⟨fun cycle _ => ?_, nodup.imp fun {left right} different => ?_⟩
  · exact (wellFormed.moduleIds_nodup.filter _).map fun _ _ equal => (Prod.mk.inj equal).2
  · intro pair inLeft inRight
    obtain ⟨_, _, rfl⟩ := List.mem_map.mp inLeft
    obtain ⟨_, _, equal⟩ := List.mem_map.mp inRight
    exact different (Prod.mk.inj equal).1.symm

theorem cycleReport (isCycle : (model.dependencyGraph wires).IsCycle cycle) {module : ModuleId}
    (owner : module ∈ model.cycleModules cycle) :
    model.ReportsCycle cycle module
      { kind := .cyclicDependency
        location := model.cycleLocation cycle module
        message := model.cycleMessage cycle
        implicated := cycle.ordered.map model.qualifiedName
        scope := some module } where
  kind := rfl
  scope := rfl
  implicated := isCycle.ordered_perm.map _
  location := by
    obtain ⟨node, member, owned⟩ := (wellFormed.mem_cycleModules isCycle).mp owner
    unfold cycleLocation
    split
    · rename_i anchor found
      have inside := isCycle.ordered_perm.mem_iff.mp (List.mem_of_find?_eq_some found)
      exact ⟨anchor, inside, by simpa using List.find?_some found, rfl⟩
    · rename_i missing
      have missed := List.find?_eq_none.mp missing node (isCycle.ordered_perm.mem_iff.mpr member)
      simp [owned] at missed

/-- One diagnostic for each cycle and each module that owns one of its members. -/
theorem cycleDiagnostics_forall₂ {cycles : List DependencyCycle}
    (areCycles : ∀ cycle ∈ cycles, (model.dependencyGraph wires).IsCycle cycle) :
    List.Forall₂ (fun pair => model.ReportsCycle pair.1 pair.2) (model.cycleOwners cycles)
      (model.cycleDiagnostics cycles) := by
  induction cycles with
  | nil => exact .nil
  | cons cycle rest induction =>
      have isCycle := areCycles cycle List.mem_cons_self
      have others := induction fun other listed => areCycles other (List.mem_cons_of_mem _ listed)
      refine List.rel_append ?_ others
      rw [cycleReports, List.forall₂_map_left_iff, List.forall₂_map_right_iff,
        List.forall₂_same]
      exact fun module owner => wellFormed.cycleReport isCycle owner

end WellFormed

end Model

/-- The graph of any declarations under any wires: its cycles are its circular
components, each once and in order, and each module that owns a part of one is told.
No module that is built owns a part of one. -/
theorem cycles_reported (declarations : List ModuleDeclaration) :
    let model := Model.ofDeclarations declarations
    (∀ wires : WireSet,
      let graph := model.dependencyGraph wires
      (∀ source target, graph.Needs source target ↔
        source ∈ model.graphNodes ∧ target ∈ model.graphNodes ∧
          ∃ wire ∈ wires.wires, wire.isLazy = false ∧ model.requirer wire.socket = source ∧
            target ∈ wire.targets) ∧
      (∀ members, members ∈ graph.cycles.map (·.members) ↔
        graph.IsComponent members ∧ graph.IsCircular members) ∧
      (graph.cycles.map (·.members)).Nodup ∧
      (graph.cycles = [] ↔ ∀ node, ¬ Relation.TransGen graph.Needs node node) ∧
      (∀ cycle ∈ graph.cycles, SimpleCycle graph.Needs cycle.nodes ∧
        (∀ node ∈ cycle.nodes, node ∈ cycle.members) ∧
        cycle.nodes.head? = cycle.members.head?) ∧
      (graph.cycles.Pairwise fun left right =>
        ∀ first ∈ left.members.head?, ∀ second ∈ right.members.head?, first.Before second) ∧
      ∃ owners : List (DependencyCycle × ModuleId), owners.Nodup ∧
        (∀ cycle module, (cycle, module) ∈ owners ↔
          cycle ∈ graph.cycles ∧ ∃ node ∈ cycle.members, model.providerModule node = module) ∧
        List.Forall₂ (fun pair => model.ReportsCycle pair.1 pair.2) owners
          (model.cycleDiagnostics graph.cycles)) ∧
    ∀ header, ∀ artifact ∈ (Build.ofDeclarations declarations header).artifacts,
      ∀ node, model.providerModule node = artifact.module →
        ¬ Relation.TransGen model.graph.Needs node node := by
  intro model
  have wellFormed : model.WellFormed := Model.ofDeclarations_wellFormed declarations
  have laid (wires : WireSet) := Model.dependencyGraph_laid declarations wires
  constructor
  · intro wires graph
    have areCycles : ∀ cycle ∈ graph.cycles, graph.IsCycle cycle :=
      fun cycle member => (laid wires).isCycle_of_mem member
    refine ⟨fun _ _ => Model.needs_iff, fun _ => (laid wires).mem_cycles_members,
      (laid wires).members_nodup, (laid wires).cycles_eq_nil_iff, fun cycle member => ?_,
      (laid wires).cycles_ascending, model.cycleOwners graph.cycles, ?_, fun cycle module => ?_, ?_⟩
    · have isCycle := areCycles cycle member
      exact ⟨isCycle.simple, isCycle.inside, isCycle.first⟩
    · exact wellFormed.cycleOwners_nodup (List.Nodup.of_map _ (laid wires).members_nodup)
    · exact wellFormed.mem_cycleOwners areCycles
    · exact wellFormed.cycleDiagnostics_forall₂ areCycles
  · intro header artifact emitted node owned circle
    obtain ⟨_, survives, _⟩ := Model.artifact_planned wellFormed emitted
    obtain ⟨cycle, member, inCycle⟩ := (laid model.wires).exists_cycle_of_transGen circle
    have isCycle := (laid model.wires).isCycle_of_mem member
    have owner := (wellFormed.mem_cycleModules isCycle).mpr ⟨node, inCycle, owned⟩
    refine survives.silent wellFormed ?_ (wellFormed.cycleReport isCycle owner).blames
    exact List.mem_append_left _ (List.mem_append_left _ (List.mem_append_right _
      (List.mem_flatMap.mpr ⟨cycle, member, List.mem_map_of_mem owner⟩)))

end StaticInjection
