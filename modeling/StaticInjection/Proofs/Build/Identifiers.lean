import StaticInjection.Proofs.Build.Outcome
import StaticInjection.Proofs.Model.QualifiedName
import StaticInjection.Proofs.Wire.Selection

/-! # Identifiers

Diagnostics and declarations name providers by their qualified names. Where declarations
have no faults, what is named is one provider, or a bean together with the input of its
module that has its name. -/

namespace StaticInjection

namespace Model

/-- A diagnostic names providers of the model only, by their qualified names. -/
def Identifies (model : Model) (diagnostic : Diagnostic) : Prop :=
  ∃ nodes : List Provider, (∀ node ∈ nodes, model.Offers node) ∧
    diagnostic.implicated = nodes.map model.qualifiedName

variable {model : Model}

theorem identifies_of_none {diagnostic : Diagnostic} (none : diagnostic.implicated = []) :
    model.Identifies diagnostic :=
  ⟨[], by simp, none⟩

theorem offers_of_mem_nodes (wellFormed : model.WellFormed) {wires : WireSet} {node : Provider}
    (member : node ∈ (model.dependencyGraph wires).nodes) : model.Offers node :=
  wellFormed.mem_graphNodes.mp member

theorem mem_of_mem_providersAt {graph : DependencyGraph} {positions : List Nat} {node : Provider}
    (member : node ∈ graph.providersAt positions) : node ∈ graph.nodes := by
  rcases List.mem_filterMap.mp member with ⟨position, _, found⟩
  exact List.mem_of_getElem? found

theorem mem_of_mem_ordered {graph : DependencyGraph} {cycle : DependencyCycle}
    (listed : cycle ∈ graph.cycles) {node : Provider} (member : node ∈ cycle.ordered) :
    node ∈ graph.nodes := by
  rcases List.mem_map.mp listed with ⟨component, _, rfl⟩
  rcases List.mem_append.mp member with onCycle | other
  · exact mem_of_mem_providersAt onCycle
  · exact mem_of_mem_providersAt (List.mem_of_mem_filter other)

namespace WellFormed

variable (wellFormed : model.WellFormed)

include wellFormed

theorem offers_of_visible {scope : ModuleId} {provider : Provider}
    (visible : provider ∈ model.visible scope) : model.Offers provider := by
  by_cases known : scope ∈ model.moduleIds
  · exact ((wellFormed.mem_visible known).mp visible).1
  · rw [wellFormed.visible_unknown known] at visible
    cases visible

/-! ## Diagnostics -/

theorem duplicateReports_identify {scope : ModuleId} (known : scope ∈ model.moduleIds)
    {diagnostic : Diagnostic} (member : diagnostic ∈ model.duplicateReports scope) :
    model.Identifies diagnostic := by
  rcases List.mem_map.mp member with ⟨refused, listed, rfl⟩
  rcases wellFormed.scopeEntries_refused known with ⟨duplicates, refusals⟩
  have follows : refused.duplicate ∈ (model.scopeEntries scope).2.map (·.duplicate) :=
    List.mem_map_of_mem listed
  rw [duplicates] at follows
  refine ⟨[refused.existing, refused.duplicate], ?_, rfl⟩
  simp only [List.mem_cons, List.not_mem_nil, or_false, forall_eq_or_imp, forall_eq]
  exact ⟨wellFormed.offers_of_visible (refusals refused listed).existing_mem,
    wellFormed.offers_of_visible (List.mem_of_mem_filter follows)⟩

theorem resolveModule_identifies {scope : ModuleId} {diagnostic : Diagnostic}
    (member : diagnostic ∈ (model.resolveModule scope).diagnostics) :
    model.Identifies diagnostic := by
  rcases mem_resolveModule_diagnostics.mp member with
    ⟨⟨socket, excluded⟩, _, failure, failed, rfl⟩
  rcases resolve_error failed with ⟨entry, _, rfl⟩ | rfl | ⟨several, candidates, rfl⟩
  · exact identifies_of_none rfl
  · exact identifies_of_none rfl
  · exact ⟨several, fun target listed => wellFormed.offers_of_visible
      (wellFormed.visible_of_mem_candidates (candidates target listed)), rfl⟩

theorem cycleDiagnostics_identify {wires : WireSet} {diagnostic : Diagnostic}
    (member : diagnostic ∈ model.wireDiagnostics wires) : model.Identifies diagnostic := by
  rcases List.mem_flatMap.mp member with ⟨cycle, listed, report⟩
  rcases List.mem_map.mp report with ⟨module, _, rfl⟩
  exact ⟨cycle.ordered, fun node inside =>
    offers_of_mem_nodes wellFormed (mem_of_mem_ordered listed inside), rfl⟩

theorem planAll_identifies {wires : WireSet} {failed : List ModuleId} {diagnostic : Diagnostic}
    (member : diagnostic ∈
      (model.planAll wires (model.dependencyGraph wires) failed).diagnostics) :
    model.Identifies diagnostic := by
  rcases mem_planAll_diagnostics.mp member with ⟨id, _, _, cycle, listed, rfl⟩
  rcases List.mem_map.mp listed with ⟨component, _, rfl⟩
  exact ⟨_, fun node inside =>
    offers_of_mem_nodes wellFormed (List.mem_of_mem_filter inside), rfl⟩

theorem reported_identifies (faultless : model.faults = []) {diagnostic : Diagnostic}
    (member : diagnostic ∈ model.reported) : model.Identifies diagnostic := by
  simp only [reported, reportedBeforePlan, structureDiagnostics, faultless, List.nil_append,
    duplicates, resolutions, List.mem_append, List.mem_flatMap, List.mem_map] at member
  rcases member with (((⟨module, listed, report⟩ | ⟨_, ⟨scope, _, rfl⟩, report⟩) | cycle) |
    round) | ⟨plan, planned, report⟩
  · exact wellFormed.duplicateReports_identify (List.mem_map_of_mem listed) report
  · exact wellFormed.resolveModule_identifies report
  · exact wellFormed.cycleDiagnostics_identify cycle
  · rcases List.mem_flatMap.mp round with ⟨round, listed, report⟩
    rcases exists_seen_of_mem_planRounds listed with ⟨seen, rfl⟩
    exact wellFormed.planAll_identifies report
  · rcases Survives.emissionFaults_invalid wellFormed (finalPlan_known planned) report with
      ⟨place, message, rfl⟩
    exact identifies_of_none rfl

/-- Where declarations have no faults, what a build reports names providers only. -/
theorem diagnostics_identify (faultless : model.faults = []) {header : String}
    {diagnostic : Diagnostic} (member : diagnostic ∈ (Build.ofModel model header).diagnostics) :
    model.Identifies diagnostic := by
  rw [ofModel_diagnostics, Diagnostic.mem_sort, List.mem_append] at member
  rcases member with reported | derived
  · exact wellFormed.reported_identifies faultless reported
  · rcases List.mem_map.mp derived with ⟨⟨module, causes⟩, _, rfl⟩
    exact identifies_of_none rfl

end WellFormed

/-! ## Entries of declarations -/

/-- A bean comes before the input of its module. -/
theorem Namesakes.bean_socket {left right : Provider} (namesakes : model.Namesakes left right)
    (before : model.precedes left right = true) :
    ∃ bean socket, left = .bean bean ∧ right = .socket socket := by
  rcases namesakes with ⟨kinds, modules, _⟩
  rw [precedes, PlacedProvider.isBefore_iff, modules] at before
  cases left with
  | bean bean =>
      cases right with
      | bean other => simp [Provider.bean?] at kinds
      | socket socket => exact ⟨bean, socket, rfl, rfl⟩
  | socket socket =>
      cases right with
      | bean bean => simp [Provider.key] at before
      | socket other => simp [Provider.bean?] at kinds

/-- Namesakes in order are a bean and a socket, and no more. -/
theorem namesakes_in_order {providers : List Provider}
    (namesakes : providers.Pairwise fun left right =>
      model.precedes left right = true ∧ model.Namesakes left right) :
    providers.length ≤ 1 ∨ ∃ bean socket, providers = [.bean bean, .socket socket] ∧
      model.Namesakes (.bean bean) (.socket socket) := by
  match providers with
  | [] => exact .inl (by simp)
  | [_] => exact .inl (by simp)
  | first :: second :: rest =>
      rcases List.pairwise_cons.mp namesakes with ⟨afterFirst, others⟩
      rcases afterFirst second List.mem_cons_self with ⟨before, same⟩
      rcases same.bean_socket before with ⟨bean, socket, rfl, rfl⟩
      cases rest with
      | nil => exact .inr ⟨bean, socket, rfl, same⟩
      | cons third later =>
          -- The second one is a socket, so no namesake comes after it.
          rcases (List.pairwise_cons.mp others).1 third List.mem_cons_self with ⟨after, again⟩
          rcases again.bean_socket after with ⟨_, _, isBean, _⟩
          cases isBean

section

variable (wellFormed : model.WellFormed) (faultless : model.Faultless)

include wellFormed faultless

theorem qualifiedName_of_isNamed {provider : Provider} (offered : model.Offers provider)
    {path name : String} (named : model.isNamed (path ++ ":" ++ name) provider = true) :
    model.qualifiedName provider = path ++ ":" ++ name := by
  simp only [isNamed, Bool.or_eq_true, beq_iff_eq] at named
  rcases named with short | qualified
  · refine absurd ?_ (wellFormed.colon_not_mem_providerName faultless offered)
    rw [← short]
    simp
  · exact qualified.symm

/-- Of the candidates that a declaration keeps, a qualified name selects one, or a bean and the
input named like it. -/
theorem selected_by_qualifiedName {scope : ModuleId} {excluded : Option ModuleId}
    {socket : Socket} {entries : List String} {kept : List Provider}
    (restricted : model.restrict entries
      (model.candidates (model.index scope) excluded socket) = .ok kept) (path name : String) :
    let selected := kept.filter (model.isNamed (path ++ ":" ++ name))
    selected.length ≤ 1 ∨ ∃ bean socket, selected = [.bean bean, .socket socket] ∧
      model.Namesakes (.bean bean) (.socket socket) := by
  intro selected
  have named : ∀ target ∈ selected, model.Offers target ∧
      model.qualifiedName target = path ++ ":" ++ name := by
    intro target member
    rcases List.mem_filter.mp member with ⟨isKept, isNamed⟩
    have offered := wellFormed.offers_of_visible
      (wellFormed.visible_of_mem_candidates (restrict_ok restricted target isKept))
    exact ⟨offered, qualifiedName_of_isNamed wellFormed faultless offered isNamed⟩
  have ascending : selected.Pairwise (model.precedes · ·) :=
    ((wellFormed.candidates_ascending scope excluded socket).sublist
      (restrict_sublist restricted)).filter _
  refine namesakes_in_order (ascending.imp_of_mem fun {left right} isLeft isRight before => ?_)
  rcases named left isLeft with ⟨leftOffered, leftName⟩
  rcases named right isRight with ⟨rightOffered, rightName⟩
  have shared := (wellFormed.qualifiedName_inj_iff faultless leftOffered rightOffered).mp
    (leftName.trans rightName.symm)
  exact ⟨before, shared.resolve_left (ne_of_precedes before)⟩

end

end Model

/-- In declarations without faults, two providers share a qualified name only if they are
namesakes. So each identifier in a diagnostic names one provider and its namesakes, and of the
candidates that a socket keeps an entry `module:name` selects one at most, or two namesakes. -/
theorem identifiers_shared_by_namesakes_only (declarations : List ModuleDeclaration)
    (faultless : (Model.ofDeclarations declarations).faults = []) :
    let model := Model.ofDeclarations declarations
    (∀ left right, model.Offers left → model.Offers right →
      (model.qualifiedName left = model.qualifiedName right ↔
        left = right ∨ model.Namesakes left right)) ∧
    (∀ header, ∀ diagnostic ∈ (Build.ofDeclarations declarations header).diagnostics,
      ∀ identifier ∈ diagnostic.implicated, ∃ node, model.Offers node ∧
        ∀ other, model.Offers other →
          (model.qualifiedName other = identifier ↔ other = node ∨ model.Namesakes other node)) ∧
    ∀ (scope : ModuleId) (id : SocketId) (entries : List String) (kept : List Provider),
      model.restrict entries (model.candidates (model.index scope) (model.excludedFor id)
        (model.socket id)) = .ok kept →
      ∀ path name : String, let selected := kept.filter (model.isNamed (path ++ ":" ++ name))
        selected.length ≤ 1 ∨ ∃ bean socket, selected = [.bean bean, .socket socket] ∧
          model.Namesakes (.bean bean) (.socket socket) := by
  have wellFormed := Model.ofDeclarations_wellFormed declarations
  unfold Build.ofDeclarations
  generalize Model.ofDeclarations declarations = model at *
  have clean := (Model.faults_eq_nil_iff wellFormed).mp faultless
  refine ⟨fun left right => wellFormed.qualifiedName_inj_iff clean, ?_,
    fun _ _ _ _ => Model.selected_by_qualifiedName wellFormed clean⟩
  intro header diagnostic reported identifier listed
  rcases wellFormed.diagnostics_identify faultless reported with ⟨nodes, offered, implicated⟩
  rw [implicated] at listed
  rcases List.mem_map.mp listed with ⟨node, member, rfl⟩
  exact ⟨node, offered node member, fun other otherOffered =>
    wellFormed.qualifiedName_inj_iff clean otherOffered (offered node member)⟩

/-- A bean that is a clock, and an input of its module that is one too and has its name. -/
def sampleNamesakes : List ModuleDeclaration :=
  let clock : BeanDeclaration :=
    { name := "clock", declaredType := .ofText "Quartz", provides := [.ofText "Clock"] }
  let desk : BeanDeclaration :=
    { name := "desk", declaredType := .ofText "Desk"
      sockets := [{ name := "clocks", requiredType := .ofText "Clock", multiplicity := .collection
                    wiredTo := ["app:clock"] }] }
  [{ name := "app", sockets := [{ name := "clock", requiredType := .ofText "Clock" }]
     beans := [clock, desk] }]

set_option maxRecDepth 100000 in
/-- The entry of the desk keeps both of them. -/
theorem sampleNamesakes_selected :
    let model := Model.ofDeclarations sampleNamesakes
    let kept : List Provider := [.bean ⟨0⟩, .socket ⟨0⟩]
    model.faults = [] ∧
      model.restrict (model.socket ⟨1⟩).wiredTo (model.candidates (model.index ⟨0⟩)
        (model.excludedFor ⟨1⟩) (model.socket ⟨1⟩)) = .ok kept ∧
      ∃ bean socket, kept.filter (model.isNamed ("app" ++ ":" ++ "clock")) =
          [.bean bean, .socket socket] ∧
        model.Namesakes (.bean bean) (.socket socket) := by
  intro model kept
  have faultless : model.faults = [] := by decide +kernel
  have restricted : model.restrict (model.socket ⟨1⟩).wiredTo (model.candidates (model.index ⟨0⟩)
      (model.excludedFor ⟨1⟩) (model.socket ⟨1⟩)) = .ok kept := by decide +kernel
  have two : ¬ (kept.filter (model.isNamed ("app" ++ ":" ++ "clock"))).length ≤ 1 := by
    decide +kernel
  rcases identifiers_shared_by_namesakes_only sampleNamesakes faultless with ⟨_, _, selected⟩
  exact ⟨faultless, restricted,
    (selected ⟨0⟩ ⟨1⟩ _ kept restricted "app" "clock").resolve_left two⟩

set_option maxRecDepth 100000 in
/-- Nothing is reported about a bean and an input that share their qualified name, and an
entry with that name selects both. -/
theorem qualifiedName_shared :
    let model := Model.ofDeclarations sampleNamesakes
    model.faults = [] ∧ (Build.ofDeclarations sampleNamesakes "").diagnostics = [] ∧
      model.Offers (.bean ⟨0⟩) ∧ model.Offers (.socket ⟨0⟩) ∧
      model.qualifiedName (.bean ⟨0⟩) = "app:clock" ∧
      model.qualifiedName (.socket ⟨0⟩) = "app:clock" ∧
      (model.socket ⟨1⟩).wiredTo = ["app:clock"] ∧
      (model.wires.get? ⟨1⟩).map (·.targets) = some [.bean ⟨0⟩, .socket ⟨0⟩] := by
  decide +kernel

end StaticInjection
