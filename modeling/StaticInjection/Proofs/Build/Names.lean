import StaticInjection.Proofs.Build.Survival
import StaticInjection.Proofs.Model.Path

/-! # Names among survivors

Names that generated code tells modules, beans and sockets apart by are different
wherever they stand together: siblings, the beans of a module, the sockets of an
owner, the beans handed in from outside a module, and the cells below it. -/

namespace StaticInjection

namespace Model

/-- What the checks of a module's own declarations ensure. -/
structure Sound (model : Model) (id : ModuleId) : Prop where
  name : Naming.isIdentifier (model.module id).name = true
  beanNames : ((model.module id).beans.map fun bean => (model.bean bean).name).Nodup
  inputNames : ((model.module id).sockets.map fun socket => (model.socket socket).name).Nodup
  inputNotLazy : ∀ socket ∈ (model.module id).sockets, (model.socket socket).isLazy = false
  socketNames : ∀ bean ∈ (model.module id).beans,
    ((model.bean bean).sockets.map fun socket => (model.socket socket).name).Nodup
  lazyNotSeveral : ∀ bean ∈ (model.module id).beans, ∀ socket ∈ (model.bean bean).sockets,
    (model.socket socket).isLazy = true → (model.socket socket).multiplicity ≠ .collection

/-- A module is reported for its name, which is no identifier. -/
def NameInvalid (model : Model) (diagnostics : List Diagnostic) (id : ModuleId) : Prop :=
  Diagnostic.invalid id (model.module id).location
    (DeclarationFault.moduleName (model.module id).name).message ∈ diagnostics

/-! ## Where faults come from -/

variable {model : Model}

theorem fault_reported {diagnostic : Diagnostic} (fault : diagnostic ∈ model.faults) :
    diagnostic ∈ model.reported :=
  List.mem_append_left _ (List.mem_append_left _ (List.mem_append_left _
    (List.mem_append_left _ (List.mem_append_left _ fault))))

theorem moduleClash_fault {diagnostic : Diagnostic}
    (report : diagnostic ∈ moduleClashes [] [] model.modules) : diagnostic ∈ model.faults := by
  simp only [faults, List.mem_append]
  exact .inl (.inl (.inr report))

namespace WellFormed

variable (wellFormed : model.WellFormed)

include wellFormed

theorem declaration_fault {id : ModuleId} (known : id ∈ model.moduleIds) {diagnostic : Diagnostic}
    (report : diagnostic ∈ model.declarationReports (model.module id)) :
    diagnostic ∈ model.faults := by
  obtain ⟨member, _⟩ := wellFormed.module_mem known
  simp only [faults, List.mem_append]
  exact .inl (.inl (.inl (.inl (.inl (.inl (List.mem_flatMap.mpr ⟨_, member, report⟩))))))

theorem isIdentifier_or_invalid {id : ModuleId} (known : id ∈ model.moduleIds) :
    Naming.isIdentifier (model.module id).name = true ∨ model.NameInvalid model.faults id := by
  by_cases valid : Naming.isIdentifier (model.module id).name = true
  · exact .inl valid
  · apply Or.inr
    apply wellFormed.declaration_fault known
    simp only [declarationReports, List.mem_append, (wellFormed.module_mem known).2]
    refine .inl (.inl (List.mem_map_of_mem ?_))
    simpa [moduleFaults, faultIf] using valid

/-- The modules of one parent, or the roots, are checked together. -/
theorem exists_siblingGroup {id : ModuleId} (known : id ∈ model.moduleIds) :
    ∃ group, (∀ diagnostic ∈ model.siblingReports group, diagnostic ∈ model.faults) ∧
      ∀ other, other ∈ group ↔ other ∈ model.moduleIds ∧ model.parent other = model.parent id := by
  cases isParent : model.parent id with
  | none =>
      refine ⟨model.roots, fun diagnostic report => ?_, wellFormed.roots⟩
      simp only [faults, List.mem_append]
      exact .inl (.inl (.inl (.inl (.inr report))))
  | some parent =>
      have parentKnown := wellFormed.parent_known known isParent
      refine ⟨(model.module parent).children, fun diagnostic report => ?_,
        wellFormed.children parent parentKnown⟩
      simp only [faults, List.mem_append]
      exact .inl (.inl (.inl (.inr
        (List.mem_flatMap.mpr ⟨_, (wellFormed.module_mem parentKnown).1, report⟩))))

/-- Of two siblings with one name, the later one is reported. -/
theorem repeatedSibling_reported {left right : ModuleId} (leftKnown : left ∈ model.moduleIds)
    (rightKnown : right ∈ model.moduleIds) (different : left ≠ right)
    (siblings : model.parent left = model.parent right)
    (same : (model.module left).name = (model.module right).name) :
    Diagnostic.invalid left (model.module left).location
        (DeclarationFault.repeatedModule (model.module left).name).message ∈ model.faults ∨
      Diagnostic.invalid right (model.module right).location
        (DeclarationFault.repeatedModule (model.module right).name).message ∈ model.faults := by
  obtain ⟨group, reported, inGroup⟩ := wellFormed.exists_siblingGroup leftKnown
  have report : ∀ id ∈ model.moduleIds,
      model.module id ∈ repeatedItems (·.name) [] (group.map model.module) →
        Diagnostic.invalid id (model.module id).location
          (DeclarationFault.repeatedModule (model.module id).name).message ∈ model.faults := by
    intro id known repeated
    refine reported _ (List.mem_flatMap.mpr ⟨_, repeated, ?_⟩)
    rw [(wellFormed.module_mem known).2]
    exact List.mem_singleton_self _
  have apart : model.module left ≠ model.module right := by
    intro equal
    have ids := congrArg Module.id equal
    rw [(wellFormed.module_mem leftKnown).2, (wellFormed.module_mem rightKnown).2] at ids
    exact different ids
  exact (mem_repeatedItems_or []
    (List.mem_map_of_mem ((inGroup left).mpr ⟨leftKnown, rfl⟩))
    (List.mem_map_of_mem ((inGroup right).mpr ⟨rightKnown, siblings.symm⟩)) apart same).imp
    (report left leftKnown) (report right rightKnown)

end WellFormed

namespace Survives

variable (wellFormed : model.WellFormed)

include wellFormed

theorem no_fault {id : ModuleId} (survives : model.Survives id) {diagnostic : Diagnostic}
    (member : diagnostic ∈ model.faults) : ¬ diagnostic.Blames id :=
  survives.silent wellFormed (fault_reported member)

theorem no_reports {id : ModuleId} (survives : model.Survives id) (location : Location)
    {faults : List DeclarationFault}
    (reported : ∀ diagnostic ∈ reportAt id location faults, diagnostic ∈ model.faults) :
    faults = [] := by
  apply List.eq_nil_iff_forall_not_mem.mpr
  intro fault member
  exact survives.no_fault wellFormed (reported _ (List.mem_map_of_mem member))
    (Diagnostic.invalid_blames id location fault.message)

/-! ## Declarations -/

theorem moduleFaults_eq_nil {id : ModuleId} (survives : model.Survives id) :
    moduleFaults (model.module id) = [] := by
  have same := (wellFormed.module_mem survives.known).2
  apply survives.no_reports wellFormed (model.module id).location
  intro diagnostic report
  apply wellFormed.declaration_fault survives.known
  simp only [declarationReports, List.mem_append, same]
  exact .inl (.inl report)

theorem moduleSocketFaults_eq_nil {id : ModuleId} (survives : model.Survives id)
    {socket : SocketId} (listed : socket ∈ (model.module id).sockets) :
    model.moduleSocketFaults (model.module id) (model.socket socket) = [] := by
  have same := (wellFormed.module_mem survives.known).2
  apply survives.no_reports wellFormed (model.socketLocation socket)
  intro diagnostic report
  apply wellFormed.declaration_fault survives.known
  simp only [declarationReports, List.mem_append, List.mem_flatMap, moduleSocketReports, same]
  exact .inl (.inr ⟨socket, listed, report⟩)

theorem beanReport {id : ModuleId} (survives : model.Survives id) {bean : BeanId}
    (listed : bean ∈ (model.module id).beans) {diagnostic : Diagnostic}
    (report : diagnostic ∈ model.beanReports (model.module id) bean) :
    diagnostic ∈ model.faults := by
  apply wellFormed.declaration_fault survives.known
  simp only [declarationReports, List.mem_append, List.mem_flatMap]
  exact .inr ⟨bean, listed, report⟩

theorem beanSocketFaults_eq_nil {id : ModuleId} (survives : model.Survives id)
    {bean : BeanId} (listed : bean ∈ (model.module id).beans) {socket : SocketId}
    (owned : socket ∈ (model.bean bean).sockets) :
    model.beanSocketFaults (model.bean bean) (model.socket socket) = [] := by
  have same := (wellFormed.module_mem survives.known).2
  apply survives.no_reports wellFormed (model.socketLocation socket)
  intro diagnostic report
  apply survives.beanReport wellFormed listed
  simp only [beanReports, List.mem_append, List.mem_flatMap, same]
  exact .inl (.inr ⟨socket, owned, report⟩)

theorem repeatedBeanFaults_eq_nil {id : ModuleId} (survives : model.Survives id)
    {bean : BeanId} (listed : bean ∈ (model.module id).beans) :
    model.repeatedBeanFaults (model.module id) (model.bean bean) = [] := by
  have same := (wellFormed.module_mem survives.known).2
  apply survives.no_reports wellFormed (model.beanLocation bean)
  intro diagnostic report
  apply survives.beanReport wellFormed listed
  simp only [beanReports, List.mem_append, same]
  exact .inr report

theorem ownBeanFaults_eq_nil {id : ModuleId} (survives : model.Survives id)
    {bean : BeanId} (listed : bean ∈ (model.module id).beans) :
    ownBeanFaults (model.bean bean) = [] := by
  have same := (wellFormed.module_mem survives.known).2
  apply survives.no_reports wellFormed (model.beanLocation bean)
  intro diagnostic report
  apply survives.beanReport wellFormed listed
  simp only [beanReports, List.mem_append, same]
  exact .inl (.inl report)

theorem sound {id : ModuleId} (survives : model.Survives id) : model.Sound id := by
  refine ⟨?_, ?_, ?_, ?_, ?_, ?_⟩
  · simpa [moduleFaults] using survives.moduleFaults_eq_nil wellFormed
  · refine nodup_of_not_repeated (wellFormed.beans_placed id survives.known) fun bean listed => ?_
    have clean := survives.repeatedBeanFaults_eq_nil wellFormed listed
    simp only [repeatedBeanFaults, faultIf_eq_nil, repeatsBean] at clean
    exact clean
  · refine nodup_of_not_repeated (wellFormed.moduleSockets_placed id survives.known)
      fun socket listed => ?_
    have clean := survives.moduleSocketFaults_eq_nil wellFormed listed
    simp only [moduleSocketFaults, List.append_eq_nil_iff, faultIf_eq_nil] at clean
    exact clean.1.2
  · intro socket listed
    have clean := survives.moduleSocketFaults_eq_nil wellFormed listed
    simp only [moduleSocketFaults, List.append_eq_nil_iff, faultIf_eq_nil] at clean
    exact clean.2
  · intro bean listed
    have beanKnown := ((wellFormed.beans id survives.known bean).mp listed).1
    refine nodup_of_not_repeated (wellFormed.beanSockets_placed bean beanKnown)
      fun socket owned => ?_
    have clean := survives.beanSocketFaults_eq_nil wellFormed listed owned
    simp only [beanSocketFaults, List.append_eq_nil_iff, faultIf_eq_nil] at clean
    exact clean.1.2
  · intro bean listed socket owned isLazy
    have clean := survives.beanSocketFaults_eq_nil wellFormed listed owned
    simp only [beanSocketFaults, List.append_eq_nil_iff, faultIf_eq_nil, isLazy,
      Bool.true_and] at clean
    simpa using clean.2

theorem bean_isIdentifier {id : ModuleId} (survives : model.Survives id) {bean : BeanId}
    (listed : bean ∈ (model.module id).beans) :
    Naming.isIdentifier (model.bean bean).name = true := by
  have clean := survives.ownBeanFaults_eq_nil wellFormed listed
  simp only [ownBeanFaults, List.append_eq_nil_iff, faultIf_eq_nil, Bool.not_eq_false'] at clean
  exact clean.1.1

theorem child_isIdentifier {id child : ModuleId} (survives : model.Survives id)
    (listed : child ∈ (model.module id).children) :
    Naming.isIdentifier (model.module child).name = true := by
  obtain ⟨known, isChild⟩ := (wellFormed.children id survives.known child).mp listed
  exact ((survives.child wellFormed known isChild).sound wellFormed).name

/-! ## Siblings and paths -/

theorem eq_of_sibling_name {left right : ModuleId} (leftSurvives : model.Survives left)
    (rightSurvives : model.Survives right) (siblings : model.parent left = model.parent right)
    (same : (model.module left).name = (model.module right).name) : left = right := by
  by_contra different
  rcases wellFormed.repeatedSibling_reported leftSurvives.known rightSurvives.known different
    siblings same with reported | reported
  · exact leftSurvives.no_fault wellFormed reported (Diagnostic.invalid_blames _ _ _)
  · exact rightSurvives.no_fault wellFormed reported (Diagnostic.invalid_blames _ _ _)

end Survives

namespace WellFormed

variable (wellFormed : model.WellFormed)

include wellFormed

theorem path_length_lt {id root : ModuleId} (known : id ∈ model.moduleIds)
    (within : model.isWithin id root = true) (different : id ≠ root) :
    (model.path root).length < (model.path id).length := by
  revert within different
  refine wellFormed.descend (motive := fun id => model.isWithin id root = true →
    id ≠ root → (model.path root).length < (model.path id).length) ?_ known
  intro id known above within different
  cases isParent : model.parent id with
  | none => exact absurd ((isWithin_of_root isParent).mp within) different
  | some parent =>
      have longer : (model.path parent).length < (model.path id).length := by
        have dot : ".".length = 1 := rfl
        rw [wellFormed.path_child id known parent isParent, String.length_append,
          String.length_append]
        omega
      rcases (wellFormed.isWithin_of_parent known isParent).mp within with same | within
      · exact absurd same different
      · by_cases here : parent = root
        · exact here ▸ longer
        · exact Nat.lt_trans (above parent isParent within here) longer

end WellFormed

namespace Survives

variable (wellFormed : model.WellFormed)

include wellFormed

/-- Below a survivor, a path leads to one module only. -/
theorem eq_of_path {id left right : ModuleId} (survives : model.Survives id)
    (leftKnown : left ∈ model.moduleIds) (leftWithin : model.isWithin left id = true)
    (rightKnown : right ∈ model.moduleIds) (rightWithin : model.isWithin right id = true)
    (same : model.path left = model.path right) : left = right := by
  refine wellFormed.descend (motive := fun left => model.isWithin left id = true →
    ∀ right ∈ model.moduleIds, model.isWithin right id = true →
    model.path left = model.path right → left = right)
    ?_ leftKnown leftWithin right rightKnown rightWithin same
  intro left leftKnown above leftWithin right rightKnown rightWithin same
  by_cases leftTop : left = id
  · by_contra different
    have longer := wellFormed.path_length_lt rightKnown rightWithin
      fun rightTop => different (leftTop.trans rightTop.symm)
    rw [← same, leftTop] at longer
    omega
  by_cases rightTop : right = id
  · have longer := wellFormed.path_length_lt leftKnown leftWithin leftTop
    rw [same, rightTop] at longer
    omega
  -- Both are below, so the last names and the paths of the parents are the same.
  obtain ⟨leftParent, isLeft⟩ : ∃ parent, model.parent left = some parent := by
    cases isParent : model.parent left with
    | none => exact absurd ((WellFormed.isWithin_of_root isParent).mp leftWithin) leftTop
    | some parent => exact ⟨parent, rfl⟩
  obtain ⟨rightParent, isRight⟩ : ∃ parent, model.parent right = some parent := by
    cases isParent : model.parent right with
    | none => exact absurd ((WellFormed.isWithin_of_root isParent).mp rightWithin) rightTop
    | some parent => exact ⟨parent, rfl⟩
  have leftInside := ((wellFormed.isWithin_of_parent leftKnown isLeft).mp leftWithin).resolve_left
    leftTop
  have rightInside :=
    ((wellFormed.isWithin_of_parent rightKnown isRight).mp rightWithin).resolve_left rightTop
  have leftSurvives := survives.within wellFormed leftKnown leftWithin
  have rightSurvives := survives.within wellFormed rightKnown rightWithin
  obtain ⟨paths, names⟩ := wellFormed.path_child_inj leftKnown rightKnown isLeft isRight
    (leftSurvives.sound wellFormed).name (rightSurvives.sound wellFormed).name same
  have parents := above leftParent isLeft leftInside rightParent
    (wellFormed.parent_known rightKnown isRight) rightInside paths
  exact leftSurvives.eq_of_sibling_name wellFormed rightSurvives
    (by rw [isLeft, isRight, parents]) names

/-- A module above another one has not the path of one of its siblings. -/
theorem path_above_ne {id above sibling : ModuleId} (known : id ∈ model.moduleIds)
    (different : above ≠ id) (within : model.isWithin id above = true)
    (listed : sibling ∈ (model.module id).wiredModules) :
    model.path above ≠ model.path sibling := by
  obtain ⟨siblingKnown, _, siblings⟩ := wellFormed.wired id known sibling listed
  cases isParent : model.parent id with
  | none => exact absurd ((WellFormed.isWithin_of_root isParent).mp within).symm different
  | some parent =>
      rw [isParent] at siblings
      have parentWithin := ((wellFormed.isWithin_of_parent known isParent).mp within).resolve_left
        (fun same => different same.symm)
      have siblingWithin := (wellFormed.isWithin_of_parent siblingKnown siblings).mpr
        (.inr parentWithin)
      have apart : sibling ≠ above := by
        intro same
        rw [← same] at parentWithin
        rw [wellFormed.not_isWithin_child siblingKnown siblings] at parentWithin
        cases parentWithin
      have longer := wellFormed.path_length_lt siblingKnown siblingWithin apart
      intro same
      rw [same] at longer
      omega

/-- Survivors outside a module have different paths. -/
theorem eq_of_outside_path {id left right : ModuleId} (known : id ∈ model.moduleIds)
    (leftSurvives : model.Survives left) (leftOutside : model.Outside id left)
    (rightSurvives : model.Survives right) (rightOutside : model.Outside id right)
    (same : model.path left = model.path right) : left = right := by
  rcases leftOutside with ⟨leftApart, leftAbove⟩ | leftWired
  · rcases rightOutside with ⟨rightApart, rightAbove⟩ | rightWired
    · by_contra different
      rcases wellFormed.isWithin_total known leftAbove rightAbove with within | within
      · have longer := wellFormed.path_length_lt leftSurvives.known within different
        rw [same] at longer
        omega
      · have longer := wellFormed.path_length_lt rightSurvives.known within
          fun equal => different equal.symm
        rw [same] at longer
        omega
    · exact absurd same (path_above_ne wellFormed known leftApart leftAbove rightWired)
  · rcases rightOutside with ⟨rightApart, rightAbove⟩ | rightWired
    · exact absurd same.symm (path_above_ne wellFormed known rightApart rightAbove leftWired)
    · have leftSibling := (wellFormed.wired id known left leftWired).2.2
      have rightSibling := (wellFormed.wired id known right rightWired).2.2
      have siblings := leftSibling.trans rightSibling.symm
      refine leftSurvives.eq_of_sibling_name wellFormed rightSurvives siblings ?_
      cases isParent : model.parent left with
      | none =>
          rw [wellFormed.path_root left leftSurvives.known isParent,
            wellFormed.path_root right rightSurvives.known (siblings ▸ isParent)] at same
          exact same
      | some parent =>
          rw [wellFormed.path_child left leftSurvives.known parent isParent,
            wellFormed.path_child right rightSurvives.known parent (siblings ▸ isParent)] at same
          exact (String.append_right_inj _).mp same

/-! ## Keys -/

theorem eq_of_bean_name {left right : BeanId} (leftKnown : left ∈ model.beanIds)
    (rightKnown : right ∈ model.beanIds) (survives : model.Survives (model.bean left).module)
    (modules : (model.bean left).module = (model.bean right).module)
    (names : (model.bean left).name = (model.bean right).name) : left = right := by
  have leftListed := (wellFormed.beans _ survives.known left).mpr ⟨leftKnown, rfl⟩
  have rightListed := (wellFormed.beans _ survives.known right).mpr ⟨rightKnown, modules.symm⟩
  exact List.inj_on_of_nodup_map (survives.sound wellFormed).beanNames leftListed rightListed names

theorem not_at_fault {id : ModuleId} (survives : model.Survives id) (location : Location)
    (fault : DeclarationFault)
    (reported : ∀ diagnostic ∈ reportAt id location [fault], diagnostic ∈ model.faults) :
    False := by
  have none := survives.no_reports wellFormed location reported
  cases none

/-- Beans of survivors that share a key have the same path and name. -/
theorem agree_of_beanKey {left right : BeanId} (leftKnown : left ∈ model.beanIds)
    (rightKnown : right ∈ model.beanIds)
    (leftSurvives : model.Survives (model.bean left).module)
    (rightSurvives : model.Survives (model.bean right).module)
    (same : model.beanKey (model.bean left) = model.beanKey (model.bean right)) :
    model.path (model.bean left).module = model.path (model.bean right).module ∧
      (model.bean left).name = (model.bean right).name := by
  have clear : ∀ bean ∈ model.beanIds, model.Survives (model.bean bean).module →
      ∀ clash ∈ nameClashes model.beanKey (fun bean => (model.path bean.module, bean.name)) []
        model.beans, clash.1 ≠ model.bean bean := by
    intro bean known survives clash inside equal
    refine survives.not_at_fault wellFormed (model.beanLocation (model.bean bean).id)
      (.importClash clash.2.1 (model.qualifiedName (.bean clash.2.2.id)))
      fun diagnostic report => ?_
    simp only [faults, List.mem_append]
    refine .inl (.inr (List.mem_flatMap.mpr ⟨clash, inside, ?_⟩))
    rw [← equal] at report
    exact report
  have agree := nameClashes_agree (wellFormed.bean_mem leftKnown).1
    (wellFormed.bean_mem rightKnown).1 same (clear left leftKnown leftSurvives)
    (clear right rightKnown rightSurvives)
  exact Prod.mk.inj agree

/-- Lazy sockets in survivors that share a key have the same path, owner and name. -/
theorem agree_of_socketKey {left right : SocketId} (leftKnown : left ∈ model.socketIds)
    (rightKnown : right ∈ model.socketIds) (leftLazy : (model.socket left).isLazy = true)
    (rightLazy : (model.socket right).isLazy = true)
    (leftSurvives : model.Survives (model.socket left).module)
    (rightSurvives : model.Survives (model.socket right).module)
    (same : model.socketKey (model.socket left) = model.socketKey (model.socket right)) :
    model.path (model.socket left).module = model.path (model.socket right).module ∧
      model.ownerName? (model.socket left) = model.ownerName? (model.socket right) ∧
      (model.socket left).name = (model.socket right).name := by
  have clear : ∀ socket ∈ model.socketIds, model.Survives (model.socket socket).module →
      ∀ clash ∈ nameClashes model.socketKey
        (fun socket => (model.path socket.module, model.ownerName? socket, socket.name)) []
        (model.sockets.filter (·.isLazy)), clash.1 ≠ model.socket socket := by
    intro socket known survives clash inside equal
    refine survives.not_at_fault wellFormed (model.socketLocation (model.socket socket).id)
      (.deferredClash clash.2.1 (model.socketLocation clash.2.2.id).text)
      fun diagnostic report => ?_
    simp only [faults, List.mem_append]
    refine .inr (List.mem_flatMap.mpr ⟨clash, inside, ?_⟩)
    rw [← equal] at report
    exact report
  have listed : ∀ socket ∈ model.socketIds, (model.socket socket).isLazy = true →
      model.socket socket ∈ model.sockets.filter (·.isLazy) := fun socket known isLazy =>
    List.mem_filter.mpr ⟨(wellFormed.socket_mem known).1, isLazy⟩
  have agree := nameClashes_agree (listed left leftKnown leftLazy)
    (listed right rightKnown rightLazy) same (clear left leftKnown leftSurvives)
    (clear right rightKnown rightSurvives)
  obtain ⟨paths, others⟩ := Prod.mk.inj agree
  exact ⟨paths, Prod.mk.inj others⟩

/-- The beans handed in from outside a module have different keys. -/
theorem eq_of_outside_beanKey {id : ModuleId} (known : id ∈ model.moduleIds)
    {left right : BeanId} (leftKnown : left ∈ model.beanIds) (rightKnown : right ∈ model.beanIds)
    (leftSurvives : model.Survives (model.bean left).module)
    (leftOutside : model.Outside id (model.bean left).module)
    (rightSurvives : model.Survives (model.bean right).module)
    (rightOutside : model.Outside id (model.bean right).module)
    (same : model.beanKey (model.bean left) = model.beanKey (model.bean right)) :
    left = right := by
  obtain ⟨paths, names⟩ := agree_of_beanKey wellFormed leftKnown rightKnown leftSurvives
    rightSurvives same
  have modules := eq_of_outside_path wellFormed known leftSurvives leftOutside rightSurvives
    rightOutside paths
  exact eq_of_bean_name wellFormed leftKnown rightKnown leftSurvives modules names

/-- The lazy sockets of the beans below a survivor have different keys. -/
theorem eq_of_socketKey {id : ModuleId} (survives : model.Survives id)
    {left right : SocketId} (leftKnown : left ∈ model.socketIds)
    (rightKnown : right ∈ model.socketIds) {leftBean rightBean : BeanId}
    (leftOwner : (model.socket left).owner = .bean leftBean)
    (rightOwner : (model.socket right).owner = .bean rightBean)
    (leftLazy : (model.socket left).isLazy = true)
    (rightLazy : (model.socket right).isLazy = true)
    (leftWithin : model.isWithin (model.bean leftBean).module id = true)
    (rightWithin : model.isWithin (model.bean rightBean).module id = true)
    (same : model.socketKey (model.socket left) = model.socketKey (model.socket right)) :
    left = right := by
  obtain ⟨leftBeanKnown, leftModule⟩ := wellFormed.owner_bean left leftKnown leftBean leftOwner
  obtain ⟨rightBeanKnown, rightModule⟩ :=
    wellFormed.owner_bean right rightKnown rightBean rightOwner
  have leftPlace := wellFormed.bean_module leftBean leftBeanKnown
  have rightPlace := wellFormed.bean_module rightBean rightBeanKnown
  have leftSurvives := survives.within wellFormed leftPlace leftWithin
  have rightSurvives := survives.within wellFormed rightPlace rightWithin
  obtain ⟨paths, owners, names⟩ := agree_of_socketKey wellFormed leftKnown rightKnown leftLazy
    rightLazy (leftModule ▸ leftSurvives) (rightModule ▸ rightSurvives) same
  rw [leftModule, rightModule] at paths
  have modules := survives.eq_of_path wellFormed leftPlace leftWithin rightPlace rightWithin paths
  simp only [ownerName?, leftOwner, rightOwner, Option.some.injEq] at owners
  have beans := eq_of_bean_name wellFormed leftBeanKnown rightBeanKnown leftSurvives modules owners
  subst beans
  have listed := (wellFormed.beans _ leftPlace leftBean).mpr ⟨leftBeanKnown, rfl⟩
  exact List.inj_on_of_nodup_map ((leftSurvives.sound wellFormed).socketNames leftBean listed)
    ((wellFormed.beanSockets leftBean leftBeanKnown left).mpr ⟨leftKnown, leftOwner⟩)
    ((wellFormed.beanSockets leftBean leftBeanKnown right).mpr ⟨rightKnown, rightOwner⟩) names

/-! ## Members -/

/-- Names that a survivor gives to its members are neither repeated nor taken before. -/
theorem repeatedMembers_eq_nil {id : ModuleId} (survives : model.Survives id) :
    repeatedItems (fun name => name) fixedMembers (model.memberNames (model.module id)) = [] := by
  have clean := survives.no_emissionFaults wellFormed
  simp only [emissionFaults, memberReports, List.append_eq_nil_iff] at clean
  refine List.eq_nil_iff_forall_not_mem.mpr fun name repeated => ?_
  cases List.flatMap_eq_nil_iff.mp clean.1.2 name repeated

theorem memberNames_nodup {id : ModuleId} (survives : model.Survives id) :
    (model.memberNames (model.module id)).Nodup := by
  have distinct := nodup_of_repeatedItems_eq_nil (survives.repeatedMembers_eq_nil wellFormed)
  rwa [List.map_id'] at distinct

theorem memberName_not_fixed {id : ModuleId} (survives : model.Survives id) {name : String}
    (listed : name ∈ model.memberNames (model.module id)) : name ∉ fixedMembers :=
  not_seen_of_repeatedItems_eq_nil (survives.repeatedMembers_eq_nil wellFormed) listed

/-- No two collections of a survivor are gathered in one local. -/
theorem gathered_nodup {id : ModuleId} (survives : model.Survives id) :
    ((model.gatheredLocals (model.module id)).map fun (name, _) => name.text).Nodup := by
  have clean := survives.no_emissionFaults wellFormed
  simp only [emissionFaults, List.append_eq_nil_iff] at clean
  obtain ⟨_, gathered⟩ := clean
  refine nodup_of_repeatedItems_eq_nil (List.eq_nil_iff_forall_not_mem.mpr ?_ :
    repeatedItems _ [] _ = [])
  rintro ⟨name, socket⟩ repeated
  have reports := List.flatMap_eq_nil_iff.mp gathered (name, socket) repeated
  cases reports

end Survives

end Model

end StaticInjection
