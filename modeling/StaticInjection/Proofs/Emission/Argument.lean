import StaticInjection.Emission.Assembly
import StaticInjection.Proofs.Code.Constructor
import StaticInjection.Proofs.Plan.Reach

/-! # What arguments mention

Every value rendered for a provider mentions one local, the one through which the
provider is reached, and an argument mentions those of the targets of its socket. -/

namespace StaticInjection.Model

open Code

variable {model : Model} {id : ModuleId}

/-! ## Values -/

/-- One value of a bean from the local that holds it or its factory. -/
def takenFrom (bean : Bean) (source : Local) : Value :=
  match bean.lifetime with
  | .singleton => .cloneOf source
  | .perRequest => .callOf source

theorem mem_throughChild_locals {bean : Bean} {reach : Local → List String → String → Value}
    (reached : ∀ child through name, (reach child through name).locals = [child]) {name : Local}
    (member : name ∈ (model.throughChild id bean reach).locals) :
    name = ⟨.child, (model.descent id bean.module).headD ""⟩ := by
  unfold throughChild at member
  split at member
  · cases member
  · rename_i child through found
    rw [reached, List.mem_singleton] at member
    rw [member, found]
    rfl

theorem mem_takenFrom_locals {bean : Bean} {source name : Local}
    (member : name ∈ (takenFrom bean source).locals) : name = source := by
  unfold takenFrom at member
  cases lifetime : bean.lifetime <;> simpa [lifetime, Value.locals] using member

theorem mem_beanValue_locals {bean : BeanId} {name : Local}
    (member : name ∈ (model.beanValue id bean).locals) :
    name = model.localOf id (.bean bean) := by
  simp only [beanValue] at member
  simp only [localOf]
  split at member
  · rename_i own
    rw [if_pos own]
    exact mem_takenFrom_locals member
  · rename_i notOwn
    rw [if_neg notOwn]
    split at member
    · rename_i within
      rw [if_pos within]
      exact mem_throughChild_locals (fun _ _ _ => rfl) member
    · rename_i apart
      rw [if_neg apart]
      exact mem_takenFrom_locals member

theorem mem_importValue_locals {bean : BeanId} {name : Local}
    (member : name ∈ (model.importValue id bean).locals) :
    name = model.localOf id (.bean bean) := by
  simp only [importValue] at member
  split at member
  · exact mem_beanValue_locals member
  · simp only [localOf]
    split at member
    · rename_i own
      rw [if_pos own]
      simpa [Value.locals] using member
    · rename_i notOwn
      rw [if_neg notOwn]
      split at member
      · rename_i within
        rw [if_pos within]
        exact mem_throughChild_locals (fun _ _ _ => rfl) member
      · rename_i apart
        rw [if_neg apart]
        simpa [Value.locals] using member

theorem mem_coercedValue_locals {required : TypeName} {bean : BeanId} {name : Local}
    (member : name ∈ (model.coercedValue id required bean).locals) :
    name = model.localOf id (.bean bean) := by
  simp only [coercedValue] at member
  split at member
  · exact mem_beanValue_locals member
  · exact mem_beanValue_locals (by simpa [Value.locals] using member)

theorem mem_gatherStep_locals {target : Provider} {name : Local}
    (member : name ∈ (model.gatherStep id target).locals) : name = model.localOf id target := by
  cases target with
  | bean bean => exact mem_beanValue_locals (by simpa [gatherStep, GatherStep.locals] using member)
  | socket socket =>
      simp only [gatherStep] at member
      split at member <;> simpa [GatherStep.locals, Value.locals, localOf] using member

theorem mem_singleValue_locals {targets : List Provider} {name : Local}
    (member : name ∈ (model.singleValue id targets).locals) :
    name ∈ (targets.take 1).map (model.localOf id) := by
  match targets with
  | [] => cases member
  | .bean bean :: _ => simpa using mem_beanValue_locals member
  | .socket socket :: _ => simpa [singleValue, Value.locals, localOf] using member

theorem mem_optionalValue_locals {required : TypeName} {targets : List Provider} {name : Local}
    (member : name ∈ (model.optionalValue id required targets).locals) :
    name ∈ (targets.take 1).map (model.localOf id) := by
  match targets with
  | [] => cases member
  | .bean bean :: _ =>
      simpa using mem_coercedValue_locals (by simpa [optionalValue, Value.locals] using member)
  | .socket socket :: _ =>
      simp only [optionalValue] at member
      split at member <;> simpa [Value.locals, localOf] using member

/-! ## Arguments -/

section Arguments

variable {wires : WireSet} {known : List Local}

theorem argument_gathered {target : Local} {socket : SocketId}
    (needs : ∀ name ∈ model.argumentLocals wires id socket, name ∈ known) {gathering : Gathering}
    (gathers : (model.argument wires id target socket).gathering = some gathering) :
    gathering.target = target ∧ ∀ name ∈ gathering.locals, name ∈ known := by
  simp only [argument] at gathers
  split at gathers
  · cases gathers
  · rename_i eager
    split at gathers
    · cases gathers
    · cases gathers
    · rename_i collects
      cases gathers
      refine ⟨rfl, fun name member => needs name ?_⟩
      obtain ⟨step, listed, mention⟩ := List.mem_flatMap.mp member
      obtain ⟨provider, isTarget, rfl⟩ := List.mem_map.mp listed
      simp only [argumentLocals, if_neg eager, if_pos collects]
      exact List.mem_map.mpr ⟨provider, isTarget, (mem_gatherStep_locals mention).symm⟩

theorem argument_value {target : Local} {socket : SocketId}
    (needs : ∀ name ∈ model.argumentLocals wires id socket, name ∈ known) {name : Local}
    (member : name ∈ (model.argument wires id target socket).value.locals) :
    name ∈ known ∨ ∃ gathering,
      (model.argument wires id target socket).gathering = some gathering ∧
        gathering.target = name := by
  simp only [argument] at member ⊢
  simp only [argumentLocals] at needs
  split at member
  · rename_i isLazy
    rw [if_pos isLazy] at needs
    exact .inl (needs name (by simpa [Value.locals] using member))
  · rename_i eager
    rw [if_neg eager] at needs
    split at member
    · rename_i isSingle
      rw [if_neg (by simp [isSingle])] at needs
      exact .inl (needs name (mem_singleValue_locals member))
    · rename_i isOptional
      rw [if_neg (by simp [isOptional])] at needs
      exact .inl (needs name (mem_optionalValue_locals member))
    · rename_i collects
      have equal : name = target := by simpa [Value.locals] using member
      exact .inr ⟨_, by rw [if_neg eager], equal.symm⟩

/-- The arguments of sockets need only the locals of their targets. -/
theorem arguments_scoped {sockets : List SocketId} (target : SocketId → Local)
    (needs : ∀ socket ∈ sockets, ∀ name ∈ model.argumentLocals wires id socket, name ∈ known) :
    ValuesScoped known
      (sockets.filterMap fun socket => (model.argument wires id (target socket) socket).gathering)
      (sockets.map fun socket => (model.argument wires id (target socket) socket).value) := by
  refine ⟨?_, ?_⟩
  · intro gathering member
    obtain ⟨socket, listed, gathers⟩ := List.mem_filterMap.mp member
    exact (argument_gathered (needs socket listed) gathers).2
  · intro value member name mention
    obtain ⟨socket, listed, rfl⟩ := List.mem_map.mp member
    refine (argument_value (needs socket listed) mention).imp_right ?_
    rintro ⟨gathering, gathers, rfl⟩
    exact List.mem_map_of_mem (List.mem_filterMap.mpr ⟨socket, listed, gathers⟩)

end Arguments

/-! ## The way to a child -/

theorem descent_child (wellFormed : model.WellFormed) {child : ModuleId}
    (known : child ∈ model.moduleIds) (isChild : model.parent child = some id) :
    model.descent id child = [(model.module child).name] := by
  have apart := wellFormed.ne_of_parent known isChild
  have way : (model.lineage child).takeWhile (· != id) = [child] := by
    rw [wellFormed.lineage_of_parent known isChild, lineage]
    simp [apart]
  rw [descent, way]
  rfl

/-- The local of a provider in reach: an own one, that of a child, or that of an
import. -/
theorem localOf_own {bean : BeanId} (here : (model.bean bean).module = id) :
    model.localOf id (.bean bean) = ownLocal (model.bean bean) := by
  simp [localOf, here]

theorem localOf_child (wellFormed : model.WellFormed) {bean : BeanId}
    (known : bean ∈ model.beanIds) (isChild : model.parent (model.bean bean).module = some id) :
    model.localOf id (.bean bean) = ⟨.child, (model.module (model.bean bean).module).name⟩ := by
  have place := wellFormed.bean_module bean known
  simp only [localOf]
  rw [if_neg (wellFormed.ne_of_parent place isChild),
    if_pos (wellFormed.isWithin_parent place isChild), descent_child wellFormed place isChild]
  rfl

theorem localOf_outside {bean : BeanId}
    (apart : model.isWithin (model.bean bean).module id = false) :
    model.localOf id (.bean bean) = model.importLocal bean := by
  simp only [localOf]
  rw [if_neg (WellFormed.ne_of_not_isWithin apart), if_neg (by simp [apart])]

/-! ## Values by place -/

theorem beanValue_own {bean : BeanId} (here : (model.bean bean).module = id) :
    model.beanValue id bean = takenFrom (model.bean bean) (ownLocal (model.bean bean)) := by
  simp only [beanValue]
  rw [if_pos here]
  rfl

theorem throughChild_child (wellFormed : model.WellFormed) {bean : BeanId}
    (known : bean ∈ model.beanIds) (isChild : model.parent (model.bean bean).module = some id)
    (reach : Local → List String → String → Value) :
    model.throughChild id (model.bean bean) reach =
      reach ⟨.child, (model.module (model.bean bean).module).name⟩ [] (model.bean bean).name := by
  rw [throughChild, descent_child wellFormed (wellFormed.bean_module bean known) isChild]

theorem beanValue_child (wellFormed : model.WellFormed) {bean : BeanId}
    (known : bean ∈ model.beanIds) (isChild : model.parent (model.bean bean).module = some id) :
    model.beanValue id bean =
      .beanOf ⟨.child, (model.module (model.bean bean).module).name⟩ [] (model.bean bean).name := by
  have place := wellFormed.bean_module bean known
  simp only [beanValue]
  rw [if_neg (wellFormed.ne_of_parent place isChild),
    if_pos (wellFormed.isWithin_parent place isChild), throughChild_child wellFormed known isChild]

theorem beanValue_outside {bean : BeanId}
    (apart : model.isWithin (model.bean bean).module id = false) :
    model.beanValue id bean = takenFrom (model.bean bean) (model.importLocal bean) := by
  simp only [beanValue]
  rw [if_neg (WellFormed.ne_of_not_isWithin apart), if_neg (by simp [apart])]
  rfl

theorem importValue_own {bean : BeanId} (here : (model.bean bean).module = id) :
    model.importValue id bean = .cloneOf (ownLocal (model.bean bean)) := by
  simp only [importValue, beanValue_own here, takenFrom]
  cases (model.bean bean).lifetime with
  | singleton => rfl
  | perRequest => exact if_pos here

theorem importValue_child (wellFormed : model.WellFormed) {bean : BeanId}
    (known : bean ∈ model.beanIds) (isChild : model.parent (model.bean bean).module = some id) :
    model.importValue id bean =
      match (model.bean bean).lifetime with
      | .singleton =>
        .beanOf ⟨.child, (model.module (model.bean bean).module).name⟩ [] (model.bean bean).name
      | .perRequest =>
        .factoryOf ⟨.child, (model.module (model.bean bean).module).name⟩ []
          (model.bean bean).name := by
  have place := wellFormed.bean_module bean known
  have apart := wellFormed.ne_of_parent place isChild
  have within := wellFormed.isWithin_parent place isChild
  cases lifetime : (model.bean bean).lifetime with
  | singleton =>
      simp only [importValue, lifetime]
      exact beanValue_child wellFormed known isChild
  | perRequest =>
      simp only [importValue, lifetime, apart, within, if_false, if_true]
      exact throughChild_child wellFormed known isChild _

theorem importValue_outside {bean : BeanId}
    (apart : model.isWithin (model.bean bean).module id = false) :
    model.importValue id bean = .cloneOf (model.importLocal bean) := by
  simp only [importValue, beanValue_outside apart, takenFrom]
  rw [if_neg (WellFormed.ne_of_not_isWithin apart), if_neg (by simp [apart])]
  cases (model.bean bean).lifetime <;> rfl

end StaticInjection.Model
