import StaticInjection.Build.Report
import StaticInjection.Proofs.Build.FaultLine
import StaticInjection.Proofs.Build.Outcome

/-! # Reports that are read line by line

A report has one line for its summary and one for each diagnostic exactly when no
diagnostic has a text with a line break. Diagnostics quote declarations, and nothing that
is quoted is escaped; but whatever stage of a build reports something, a line break in it
comes from the declarations. -/

namespace StaticInjection

open Text

namespace Model

variable {model : Model}

theorem cycleText_line {names : List String} (lines : AreLines names) :
    IsLine (cycleText names) := by
  rw [cycleText, isLine_intercalate (by decide), areLines_append]
  exact ⟨lines, fun name first => lines name (List.mem_of_mem_take first)⟩

theorem qualifierNote_line {socket : Socket} (own : AreLines socket.declared.texts) :
    IsLine (qualifierNote socket) := by
  unfold qualifierNote
  split
  · decide
  · rename_i qualifier given
    have line : IsLine qualifier :=
      own _ (by simp [SocketDeclaration.texts, Socket.declared, given])
    simp +decide [line]

namespace Unbroken

variable (unbroken : model.Unbroken)

include unbroken

theorem qualifiedNames (providers : List Provider) :
    AreLines (providers.map model.qualifiedName) :=
  areLines_map.mpr fun provider _ => unbroken.qualifiedName provider

/-! ## Single stages -/

theorem duplicateReports (wellFormed : model.WellFormed) {scope : ModuleId}
    (known : scope ∈ model.moduleIds) :
    ∀ diagnostic ∈ model.duplicateReports scope, AreLines diagnostic.texts := by
  refine List.forall_mem_map.mpr fun refused listed => ?_
  have isKey := ((wellFormed.scopeEntries_refused known).2 refused listed).key
  have place : AreLines (model.duplicateDiagnostic scope refused).location.texts := by
    unfold duplicateDiagnostic
    dsimp only
    split
    · exact unbroken.providerLocation _
    · simp [Location.texts, SourcePosition.filesOf, unbroken.path]
  have message : IsLine (model.duplicateDiagnostic scope refused).message := by
    have qualifier := unbroken.qualifier refused.duplicate
    rw [show model.providerQualifier refused.duplicate = refused.key.2 by rw [isKey]; rfl]
      at qualifier
    unfold duplicateDiagnostic
    cases given : refused.key.2 with
    | none =>
        simp +decide [unbroken.path, unbroken.qualifiedName]
    | some name =>
        simp +decide [unbroken.path, unbroken.qualifiedName, qualifier name given]
  simp only [Diagnostic.texts, areLines_append, areLines_cons]
  exact ⟨⟨⟨place, message, areLines_nil⟩, unbroken.qualifiedNames [_, _]⟩, areLines_nil⟩

theorem resolveModule (scope : ModuleId) :
    ∀ diagnostic ∈ (model.resolveModule scope).diagnostics, AreLines diagnostic.texts := by
  intro diagnostic member
  obtain ⟨⟨socket, excluded⟩, _, failure, failed, rfl⟩ := mem_resolveModule_diagnostics.mp member
  have own := unbroken.socket socket
  have place := unbroken.socketLocation socket
  have note := qualifierNote_line own
  rcases resolve_error failed with ⟨entry, listed, rfl⟩ | rfl | ⟨several, _, rfl⟩
  · have line : IsLine entry := own _ (by simp [SocketDeclaration.texts, Socket.declared, listed])
    simp +decide [resolutionDiagnostic, Diagnostic.texts_invalid, place, line]
  · simp +decide [resolutionDiagnostic, Diagnostic.texts, place, note]
  · simp +decide [resolutionDiagnostic, Diagnostic.texts, place, note,
      unbroken.qualifiedNames several]

theorem cycleReports (cycle : DependencyCycle) :
    ∀ diagnostic ∈ model.cycleReports cycle, AreLines diagnostic.texts := by
  refine List.forall_mem_map.mpr fun id _ => ?_
  have place : AreLines (model.cycleLocation cycle id).texts := by
    unfold cycleLocation
    split
    · exact unbroken.providerLocation _
    · simp [Location.texts, SourcePosition.filesOf, unbroken.path]
  have message : IsLine (model.cycleMessage cycle) := by
    have chain := cycleText_line (unbroken.qualifiedNames cycle.nodes)
    have names := unbroken.qualifiedNames
    unfold cycleMessage
    dsimp only
    split <;> simp +decide [chain, names]
  simp only [Diagnostic.texts, areLines_append, areLines_cons]
  exact ⟨⟨⟨place, message, areLines_nil⟩, unbroken.qualifiedNames _⟩, areLines_nil⟩

theorem unitName (unit : PlanStep) : IsLine (model.unitName unit) := by
  cases unit with
  | bean id => exact unbroken.qualifiedName (.bean id)
  | module id => simp +decide [Model.unitName, unbroken.path]

theorem planAll (wires : WireSet) (graph : DependencyGraph) (failed : List ModuleId) :
    ∀ diagnostic ∈ (model.planAll wires graph failed).diagnostics, AreLines diagnostic.texts := by
  intro diagnostic member
  obtain ⟨id, _, _, cycle, _, rfl⟩ := mem_planAll_diagnostics.mp member
  have place := Module.location_lines (unbroken.module id)
  have chain := cycleText_line (areLines_map.mpr fun unit (_ : unit ∈ cycle.walk) =>
    unbroken.unitName unit)
  simp +decide [unitCycleDiagnostic, Diagnostic.texts, place, chain, unbroken.path,
    unbroken.qualifiedNames]

theorem derivedDiagnostic {module : Module} (own : AreLines module.texts)
    (causes : List ModuleId) : AreLines (model.derivedDiagnostic module causes).texts := by
  have place := Module.location_lines own
  have paths : AreLines (causes.map model.path) := areLines_map.mpr fun id _ => unbroken.path id
  simp +decide [Model.derivedDiagnostic, Diagnostic.texts, place, paths]

/-! ## Whole builds -/

theorem reported (wellFormed : model.WellFormed) :
    ∀ diagnostic ∈ model.reported, AreLines diagnostic.texts := by
  simp only [Model.reported, reportedBeforePlan, structureDiagnostics, duplicates, resolutions,
    wireDiagnostics, cycleDiagnostics, List.forall_mem_append, List.forall_mem_flatMap,
    List.forall_mem_map]
  refine ⟨⟨⟨⟨⟨unbroken.faults, ?duplicates⟩, ?resolutions⟩, ?cycles⟩, ?rounds⟩, ?emissions⟩
  case duplicates =>
    exact fun module listed => unbroken.duplicateReports wellFormed (List.mem_map_of_mem listed)
  case resolutions => exact fun id _ => unbroken.resolveModule id
  case cycles => exact fun cycle _ => unbroken.cycleReports cycle
  case rounds =>
    refine List.forall_mem_flatMap.mpr fun round listed => ?_
    obtain ⟨seen, rfl⟩ := exists_seen_of_mem_planRounds listed
    exact unbroken.planAll _ _ _
  case emissions => exact fun plan _ => unbroken.emissionFaults plan.module

theorem diagnostics (wellFormed : model.WellFormed) (header : String) :
    ∀ diagnostic ∈ (Build.ofModel model header).diagnostics, AreLines diagnostic.texts := by
  intro diagnostic member
  rw [ofModel_diagnostics, Diagnostic.mem_sort, List.mem_append] at member
  rcases member with reported | derived
  · exact unbroken.reported wellFormed diagnostic reported
  · rw [failure, propagate_derived] at derived
    obtain ⟨module, fallen, rfl⟩ := List.mem_map.mp derived
    exact unbroken.derivedDiagnostic (unbroken.modules module (List.mem_of_mem_filter fallen)) _

end Unbroken

end Model

/-- A module whose name is no identifier. -/
def sampleOrdinal : List ModuleDeclaration :=
  [{ name := "1st" }]

end StaticInjection
