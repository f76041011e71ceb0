import StaticInjection.Emission.Check
import StaticInjection.Proofs.Build.Blame
import StaticInjection.Proofs.Model.Line

/-! # Faults on one line

What is said about a fault of a declaration, and about what keeps a module from being
generated, is a line where all texts of the model are. -/

namespace StaticInjection

open Text

/-! ## Messages -/

namespace DeclarationFault

def texts : DeclarationFault → List String
  | moduleName name | beanName name | socketName name | hookName name => [name]
  | repeatedModule name | repeatedBean name | repeatedSocket name => [name]
  | repeatedModuleSocket name | unknownSibling name => [name]
  | beanWithoutType | socketWithoutType | lazyModuleSocket | lazyCollection => []
  | typeClash generated other | fileClash generated other => [generated, other]
  | importClash key other | deferredClash key other => [key, other]

theorem isLine_message (fault : DeclarationFault) :
    IsLine fault.message ↔ AreLines fault.texts := by
  unfold message texts
  cases fault <;> simp +decide

end DeclarationFault

namespace EmissionFault

def texts : EmissionFault → List String
  | noPlan | inferredType | neverType => []
  | unreadableType type | implType type | objectType type => [type]
  | unreadableFactory path => [path]
  | memberClash name | temporaryClash name => [name]

theorem isLine_message (fault : EmissionFault) :
    IsLine fault.message ↔ AreLines fault.texts := by
  unfold message texts
  cases fault <;> simp +decide

end EmissionFault

theorem Diagnostic.texts_invalid (scope : ModuleId) (location : Location) (message : String) :
    (Diagnostic.invalid scope location message).texts = location.texts ++ [message] := by
  simp [invalid, texts]

theorem faultIf_lines {condition : Bool} {fault : DeclarationFault} (own : AreLines fault.texts) :
    ∀ reported ∈ faultIf condition fault, AreLines reported.texts := by
  intro reported member
  obtain ⟨_, rfl⟩ := mem_faultIf.mp member
  exact own

theorem eq_generated_of_mem_nameClashes [BEq β] {generated : α → String} {identity : α → β}
    {taken : List (String × α)} {items : List α} {clash : α × String × α}
    (member : clash ∈ nameClashes generated identity taken items) :
    clash.2.1 = generated clash.1 := by
  fun_induction nameClashes generated identity taken items with
  | case1 => cases member
  | case2 taken item rest name free induction => exact induction member
  | case3 taken item rest name holder held agree induction => exact induction member
  | case4 taken item rest name holder held differ induction =>
      rcases List.mem_cons.mp member with rfl | later
      · rfl
      · exact induction later

namespace Model

variable {model : Model}

theorem reportAt_lines {id : ModuleId} {location : Location} {faults : List DeclarationFault}
    (place : AreLines location.texts) (each : ∀ fault ∈ faults, AreLines fault.texts) :
    ∀ diagnostic ∈ reportAt id location faults, AreLines diagnostic.texts := by
  intro diagnostic member
  obtain ⟨fault, reported, rfl⟩ := List.mem_map.mp member
  simp [Diagnostic.texts_invalid, place, fault.isLine_message.mpr (each fault reported)]

theorem socketFaults_lines {socket : Socket} (named : IsLine socket.name) :
    ∀ fault ∈ socketFaults socket, AreLines fault.texts := by
  simp only [socketFaults, List.forall_mem_append]
  exact ⟨faultIf_lines (by simpa [DeclarationFault.texts]),
    faultIf_lines (by simp [DeclarationFault.texts])⟩

/-- The paths that hold generated names are lines. -/
def HoldLines (taken : List (String × String)) : Prop :=
  ∀ entry ∈ taken, IsLine entry.2

theorem HoldLines.otherHolder {taken : List (String × String)} (held : HoldLines taken)
    {name path other : String} (found : Model.otherHolder taken name path = some other) :
    IsLine other := by
  have holder := (Option.filter_eq_some_iff.mp found).1
  obtain ⟨before, after, split, _⟩ := List.lookup_eq_some_iff.mp holder
  exact held (name, other) (by simp [split])

theorem HoldLines.takeName {taken : List (String × String)} (held : HoldLines taken)
    {path : String} (line : IsLine path) (name : String) :
    HoldLines (Model.takeName taken name path) := by
  unfold Model.takeName
  split
  · exact held
  · exact List.forall_mem_cons.mpr ⟨line, held⟩

theorem moduleClashes_lines {types files : List (String × String)} {modules : List Module}
    (typesHeld : HoldLines types) (filesHeld : HoldLines files)
    (own : ∀ module ∈ modules, AreLines module.texts) :
    ∀ diagnostic ∈ moduleClashes types files modules, AreLines diagnostic.texts := by
  induction modules generalizing types files with
  | nil => simp [moduleClashes]
  | cons module rest induction =>
      obtain ⟨head, later⟩ := List.forall_mem_cons.mp own
      have path : IsLine module.path := head _ (by simp [Module.texts])
      have place := Module.location_lines head
      simp only [moduleClashes]
      split
      · rename_i held
        refine List.forall_mem_append.mpr
          ⟨reportAt_lines place ?_, induction typesHeld filesHeld later⟩
        simpa [DeclarationFault.texts] using
          ⟨Naming.isLine_moduleType path, typesHeld.otherHolder held⟩
      · rename_i held
        refine List.forall_mem_append.mpr
          ⟨reportAt_lines place ?_, induction typesHeld filesHeld later⟩
        simpa [DeclarationFault.texts] using
          ⟨Naming.isLine_sourceFile path, filesHeld.otherHolder held⟩
      · exact induction (typesHeld.takeName path _) (filesHeld.takeName path _) later

theorem emissionReports_lines {id : ModuleId} {location : Location} {faults : List EmissionFault}
    (place : AreLines location.texts) (each : ∀ fault ∈ faults, AreLines fault.texts) :
    ∀ diagnostic ∈ emissionReports id location faults, AreLines diagnostic.texts := by
  intro diagnostic member
  obtain ⟨fault, reported, rfl⟩ := List.mem_map.mp member
  simp [Diagnostic.texts_invalid, place, fault.isLine_message.mpr (each fault reported)]

theorem typeFault_lines {concrete : Bool} {type : TypeName} {fault : EmissionFault}
    (found : typeFault? concrete type = some fault) : AreLines fault.texts := by
  unfold typeFault? at found
  split at found
  · obtain rfl := Option.some.inj found
    simp [EmissionFault.texts]
  · obtain rfl := Option.some.inj found
    simp [EmissionFault.texts]
  · obtain rfl := Option.some.inj found
    simp [EmissionFault.texts]
  · obtain rfl := Option.some.inj found
    simp [EmissionFault.texts]
  · split at found
    · obtain rfl := Option.some.inj found
      simp [EmissionFault.texts]
    · cases found

theorem factoryFault_lines {path : String} (line : IsLine path) {fault : EmissionFault}
    (found : factoryFault? path = some fault) : AreLines fault.texts := by
  unfold factoryFault? at found
  split at found
  · cases found
  · obtain rfl := Option.some.inj found
    simpa [EmissionFault.texts] using line

namespace Unbroken

variable (unbroken : model.Unbroken)

include unbroken

/-! ## Declarations -/

/-- The sockets of beans and of modules have the same faults but for the last one. -/
theorem socketReports (scope : ModuleId) (id : SocketId) (again wrong : Bool)
    {repeated misplaced : DeclarationFault} (repeatedLines : AreLines repeated.texts)
    (misplacedLines : AreLines misplaced.texts) :
    ∀ diagnostic ∈ reportAt scope (model.socketLocation id)
      (socketFaults (model.socket id) ++ faultIf again repeated ++ faultIf wrong misplaced),
      AreLines diagnostic.texts := by
  refine reportAt_lines (unbroken.socketLocation id) ?_
  simp only [List.forall_mem_append]
  exact ⟨⟨socketFaults_lines (unbroken.socketName id), faultIf_lines repeatedLines⟩,
    faultIf_lines misplacedLines⟩

theorem ownBeanFaults (id : BeanId) :
    ∀ fault ∈ Model.ownBeanFaults (model.bean id), AreLines fault.texts := by
  have own := unbroken.bean id
  simp only [BeanDeclaration.ownTexts, declaredBean, areLines_append, areLines_cons] at own
  obtain ⟨⟨⟨⟨⟨named, _⟩, _⟩, init⟩, destroy⟩, _⟩ := own
  simp only [Model.ownBeanFaults, List.forall_mem_append, List.forall_mem_flatMap]
  refine ⟨⟨faultIf_lines (by simpa [DeclarationFault.texts]),
    faultIf_lines (by simp [DeclarationFault.texts])⟩, ?_⟩
  have hook : ∀ name, IsLine name →
      ∀ fault ∈ faultIf (!Naming.isIdentifier name) (.hookName name), AreLines fault.texts :=
    fun name line => faultIf_lines (by simpa [DeclarationFault.texts])
  exact ⟨fun name listed => hook name (init name listed),
    fun name listed => hook name (destroy name listed)⟩

theorem beanReports (module : Module) (id : BeanId) :
    ∀ diagnostic ∈ model.beanReports module id, AreLines diagnostic.texts := by
  simp only [Model.beanReports, List.forall_mem_append, List.forall_mem_flatMap]
  refine ⟨⟨reportAt_lines (unbroken.beanLocation id) (unbroken.ownBeanFaults id), ?_⟩,
    reportAt_lines (unbroken.beanLocation id) (faultIf_lines ?_)⟩
  · exact fun socket _ => unbroken.socketReports _ _ _ _
      ((areLines_cons _ _).mpr ⟨unbroken.socketName socket, areLines_nil⟩) areLines_nil
  · exact (areLines_cons _ _).mpr ⟨unbroken.beanName id, areLines_nil⟩

theorem declarationReports {module : Module} (own : AreLines module.texts) :
    ∀ diagnostic ∈ model.declarationReports module, AreLines diagnostic.texts := by
  simp only [Model.declarationReports, List.forall_mem_append, List.forall_mem_flatMap]
  refine ⟨⟨reportAt_lines (Module.location_lines own) (faultIf_lines ?_), ?_⟩,
    fun bean _ => unbroken.beanReports module bean⟩
  · exact (areLines_cons _ _).mpr ⟨own _ (by simp [Module.texts]), areLines_nil⟩
  · exact fun socket _ => unbroken.socketReports _ _ _ _
      ((areLines_cons _ _).mpr ⟨unbroken.socketName socket, areLines_nil⟩) areLines_nil

omit unbroken in
theorem wiringReports {module : Module} (own : AreLines module.texts) :
    ∀ diagnostic ∈ model.wiringReports module, AreLines diagnostic.texts := by
  refine reportAt_lines (Module.location_lines own) ?_
  intro fault member
  obtain ⟨name, unknown, rfl⟩ := List.mem_map.mp member
  have listed := List.mem_of_mem_filter unknown
  simpa [DeclarationFault.texts] using own name (by simp [Module.texts, listed])

theorem siblingReports (group : List ModuleId) :
    ∀ diagnostic ∈ model.siblingReports group, AreLines diagnostic.texts := by
  refine List.forall_mem_flatMap.mpr fun module repeated => ?_
  obtain ⟨id, _, rfl⟩ := List.mem_map.mp (mem_of_mem_repeatedItems repeated)
  refine reportAt_lines (Module.location_lines (unbroken.module id)) ?_
  simpa [DeclarationFault.texts] using unbroken.moduleName id

theorem beanClashes : ∀ diagnostic ∈ model.beanClashes, AreLines diagnostic.texts := by
  refine List.forall_mem_flatMap.mpr fun clash found => ?_
  have isKey := eq_generated_of_mem_nameClashes found
  have own := unbroken.beans clash.1 (mem_of_mem_nameClashes found)
  have key : IsLine clash.2.1 := by
    rw [isKey]
    exact Naming.isLine_beanKey (unbroken.path _)
      (own _ (by simp [BeanDeclaration.ownTexts, declaredBean]))
  refine reportAt_lines (unbroken.beanLocation clash.1.id) ?_
  simpa [DeclarationFault.texts] using ⟨key, unbroken.qualifiedName (.bean clash.2.2.id)⟩

theorem socketClashes : ∀ diagnostic ∈ model.socketClashes, AreLines diagnostic.texts := by
  refine List.forall_mem_flatMap.mpr fun clash found => ?_
  have isKey := eq_generated_of_mem_nameClashes found
  have own := unbroken.sockets clash.1 (List.mem_of_mem_filter (mem_of_mem_nameClashes found))
  have key : IsLine clash.2.1 := by
    rw [isKey]
    exact Naming.isLine_socketKey (unbroken.path _) (unbroken.ownerName clash.1)
      (own _ (by simp [SocketDeclaration.texts, Socket.declared]))
  have holder := (Location.isLine_text _).mpr (unbroken.socketLocation clash.2.2.id)
  refine reportAt_lines (unbroken.socketLocation clash.1.id) ?_
  simpa [DeclarationFault.texts] using ⟨key, holder⟩

theorem faults : ∀ diagnostic ∈ model.faults, AreLines diagnostic.texts := by
  have none : HoldLines [] := by simp [HoldLines]
  simp only [Model.faults, List.forall_mem_append, List.forall_mem_flatMap]
  refine ⟨⟨⟨⟨⟨⟨?declarations, ?wirings⟩, ?roots⟩, ?children⟩, ?modules⟩, ?beans⟩, ?sockets⟩
  case declarations =>
    exact fun module listed => unbroken.declarationReports (unbroken.modules module listed)
  case wirings => exact fun module listed => wiringReports (unbroken.modules module listed)
  case roots => exact unbroken.siblingReports model.roots
  case children => exact fun module _ => unbroken.siblingReports module.children
  case modules => exact moduleClashes_lines none none unbroken.modules
  case beans => exact unbroken.beanClashes
  case sockets => exact unbroken.socketClashes

/-! ## Code that cannot be generated -/

theorem socketTypeReports (id : ModuleId) (socket : SocketId) :
    ∀ diagnostic ∈ model.socketTypeReports id socket, AreLines diagnostic.texts := by
  refine emissionReports_lines (unbroken.socketLocation socket) fun fault found => ?_
  exact typeFault_lines (Option.mem_toList.mp found)

theorem beanTypeReports (id : ModuleId) (bean : BeanId) :
    ∀ diagnostic ∈ model.beanTypeReports id bean, AreLines diagnostic.texts := by
  have own := unbroken.bean bean
  simp only [BeanDeclaration.ownTexts, declaredBean, areLines_append, areLines_toList] at own
  simp only [Model.beanTypeReports, List.forall_mem_append, List.forall_mem_flatMap]
  refine ⟨emissionReports_lines (unbroken.beanLocation bean) ?_,
    fun socket _ => unbroken.socketTypeReports id socket⟩
  simp only [List.forall_mem_append]
  refine ⟨⟨fun fault found => typeFault_lines (Option.mem_toList.mp found), ?_⟩, ?_⟩
  · intro fault found
    obtain ⟨type, _, found⟩ := List.mem_filterMap.mp found
    exact typeFault_lines found
  · intro fault found
    obtain ⟨path, given, found⟩ := Option.bind_eq_some_iff.mp (Option.mem_toList.mp found)
    exact factoryFault_lines (own.1.1.1.2 path given) found

theorem memberNames (module : Module) : AreLines (model.memberNames module) := by
  simp only [Model.memberNames, areLines_append, areLines_flatMap, areLines_map]
  constructor
  · intro id _
    have named := unbroken.beanName id
    simp only [Bean.memberNames, areLines_append, areLines_cons]
    refine ⟨⟨⟨named, areLines_nil⟩, ?_⟩, ?_⟩ <;> split <;> simp +decide [named]
  · intro id _
    simp +decide [unbroken.moduleName]

theorem memberReports {module : Module} (own : AreLines module.texts) :
    ∀ diagnostic ∈ model.memberReports module, AreLines diagnostic.texts := by
  refine List.forall_mem_flatMap.mpr fun name repeated => ?_
  have line := unbroken.memberNames module name (mem_of_mem_repeatedItems repeated)
  exact emissionReports_lines (Module.location_lines own) (by simpa [EmissionFault.texts])

theorem gatheredLocals (module : Module) :
    ∀ entry ∈ model.gatheredLocals module, IsLine entry.1.text := by
  intro entry member
  rcases List.mem_append.mp (List.mem_of_mem_filter member) with ofBean | ofChild
  · obtain ⟨bean, _, member⟩ := List.mem_flatMap.mp ofBean
    obtain ⟨socket, _, rfl⟩ := List.mem_map.mp member
    simp +decide [Code.Local.text, gatheredLocal, unbroken.beanName, unbroken.socketName]
  · obtain ⟨child, _, member⟩ := List.mem_flatMap.mp ofChild
    obtain ⟨socket, _, rfl⟩ := List.mem_map.mp member
    simp +decide [Code.Local.text, childGatheredLocal, unbroken.moduleName, unbroken.socketName]

theorem gatheredReports {module : Module} :
    ∀ diagnostic ∈ model.gatheredReports module, AreLines diagnostic.texts := by
  refine List.forall_mem_flatMap.mpr fun entry repeated => ?_
  have line := unbroken.gatheredLocals module entry (mem_of_mem_repeatedItems repeated)
  exact emissionReports_lines (unbroken.socketLocation entry.2) (by simpa [EmissionFault.texts])

theorem emissionFaults (id : ModuleId) :
    ∀ diagnostic ∈ model.emissionFaults id, AreLines diagnostic.texts := by
  simp only [Model.emissionFaults, List.forall_mem_append, List.forall_mem_flatMap]
  refine ⟨⟨⟨?sockets, ?beans⟩, ?members⟩, ?gathered⟩
  case sockets => exact fun socket _ => unbroken.socketTypeReports id socket
  case beans => exact fun bean _ => unbroken.beanTypeReports id bean
  case members => exact unbroken.memberReports (unbroken.module id)
  case gathered => exact unbroken.gatheredReports

end Unbroken

end Model

end StaticInjection
