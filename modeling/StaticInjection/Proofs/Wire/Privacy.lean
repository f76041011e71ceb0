import Mathlib.Data.List.Find
import Mathlib.Data.List.Forall2
import StaticInjection.Proofs.Scope.Registration
import StaticInjection.Proofs.Wire.Resolution

/-! # Private beans

What a private bean is, is nobody's business but that of its own module. Two
applications that differ in private beans of one module look the same from every
other module: it sees the same providers, has the same duplicates, and resolves
its sockets in the same way. -/

namespace StaticInjection

/-! ## Declarations -/

/-- Two declarations of a private bean that differ at most in what the bean is. -/
structure BeanDeclaration.SameWhenHidden (left right : BeanDeclaration) : Prop where
  left_private : left.visibility = .isPrivate
  right_private : right.visibility = .isPrivate
  name : left.name = right.name
  sockets : left.sockets = right.sockets
  position : left.position = right.position

/-- Two forests that are equal but for private beans of one module, which is the one
at some position in the order of modules. -/
inductive DifferInside : Nat → List ModuleDeclaration → List ModuleDeclaration → Prop where
  | own {name sockets modules wiredModules position rest}
      {left right : List BeanDeclaration}
      (beans : List.Forall₂ (fun left right => left = right ∨ left.SameWhenHidden right)
        left right) :
      DifferInside 0
        (⟨name, left, sockets, modules, wiredModules, position⟩ :: rest)
        (⟨name, right, sockets, modules, wiredModules, position⟩ :: rest)
  | child {place name beans sockets wiredModules position rest}
      {left right : List ModuleDeclaration} (children : DifferInside place left right) :
      DifferInside (place + 1)
        (⟨name, beans, sockets, left, wiredModules, position⟩ :: rest)
        (⟨name, beans, sockets, right, wiredModules, position⟩ :: rest)
  | later {place} (module : ModuleDeclaration) {left right : List ModuleDeclaration}
      (others : DifferInside place left right) :
      DifferInside (module.extent.modules + place) (module :: left) (module :: right)

/-! ## Models -/

/-- Two beans at the same place of a module that differ at most in what they are. -/
structure Bean.SameWhenHidden (hidden : ModuleId) (left right : Bean) : Prop where
  left_private : left.isPublic = false
  right_private : right.isPublic = false
  left_module : left.module = hidden
  right_module : right.module = hidden
  name : left.name = right.name
  sockets : left.sockets = right.sockets
  position : left.position = right.position

def Bean.SameOutside (hidden : ModuleId) (left right : Bean) : Prop :=
  left = right ∨ left.SameWhenHidden hidden right

namespace Layout

structure SameOutside (hidden : ModuleId) (left right : Layout) : Prop where
  modules : left.modules = right.modules
  beans : List.Forall₂ (Bean.SameOutside hidden) left.beans right.beans
  sockets : left.sockets = right.sockets

namespace SameOutside

variable {hidden : ModuleId}

theorem refl (layout : Layout) : SameOutside hidden layout layout :=
  ⟨rfl, List.forall₂_same.mpr fun _ _ => .inl rfl, rfl⟩

theorem append {left right left' right' : Layout} (first : SameOutside hidden left right)
    (second : SameOutside hidden left' right') :
    SameOutside hidden (left ++ left') (right ++ right') where
  modules := congrArg₂ _ first.modules second.modules
  beans := List.rel_append first.beans second.beans
  sockets := congrArg₂ _ first.sockets second.sockets

end SameOutside

theorem ofBeans_sameOutside (module : ModuleId) {left right : List BeanDeclaration}
    (beans : List.Forall₂ (fun left right => left = right ∨ left.SameWhenHidden right)
      left right) (start : Extent) (index : Nat) :
    SameOutside module (ofBeans module start index left) (ofBeans module start index right) := by
  induction beans generalizing start index with
  | nil => exact .refl _
  | cons first _ induction =>
      rcases first with rfl | first
      · exact (SameOutside.refl _).append (induction _ _)
      · have sockets := first.sockets
        refine SameOutside.append ⟨rfl, ?_, ?_⟩ ?_
        · refine .cons (.inr ?_) .nil
          exact ⟨by simp [Bean.isPublic, ofBean, first.left_private],
            by simp [Bean.isPublic, ofBean, first.right_private], rfl, rfl, first.name,
            congrArg (fun sockets : List SocketDeclaration =>
              socketIds start.sockets sockets.length) sockets,
            first.position⟩
        · rw [sockets]
        · rw [sockets]
          exact induction _ _

end Layout

theorem beansExtent_eq {left right : List BeanDeclaration}
    (beans : List.Forall₂ (fun left right => left = right ∨ left.SameWhenHidden right)
      left right) : beansExtent left = beansExtent right := by
  induction beans with
  | nil => rfl
  | cons first _ induction =>
      rw [beansExtent, beansExtent, induction]
      rcases first with rfl | first
      · rfl
      · rw [first.sockets]

namespace DifferInside

variable {place : Nat} {left right : List ModuleDeclaration}

theorem forestExtent_eq (differ : DifferInside place left right) :
    forestExtent left = forestExtent right := by
  induction differ with
  | own beans =>
      simp only [forestExtent, ModuleDeclaration.extent, beansExtent_eq beans]
  | child _ induction => simp only [forestExtent, ModuleDeclaration.extent, induction]
  | later _ _ induction => simp only [forestExtent, induction]

theorem forestRoots_eq (differ : DifferInside place left right) (start : Nat) :
    Layout.forestRoots start left = Layout.forestRoots start right := by
  induction differ generalizing start with
  | own beans =>
      simp only [Layout.forestRoots, ModuleDeclaration.extent, beansExtent_eq beans]
  | child children _ =>
      simp only [Layout.forestRoots, ModuleDeclaration.extent, children.forestExtent_eq]
  | later _ _ induction => simp only [Layout.forestRoots, induction]

theorem ofForest (differ : DifferInside place left right) (around : Layout.Surroundings)
    (siblings : List (ModuleId × String)) (start : Extent) :
    Layout.SameOutside ⟨start.modules + place⟩ (Layout.ofForest around siblings start left)
      (Layout.ofForest around siblings start right) := by
  induction differ generalizing around siblings start with
  | @own name sockets modules wiredModules position rest left right beans =>
      have extent := beansExtent_eq beans
      rw [Layout.ofForest, Layout.ofForest, Layout.ofModule, Layout.ofModule,
        ModuleDeclaration.extent, ModuleDeclaration.extent, extent, beans.length_eq]
      exact (((Layout.SameOutside.refl _).append
        (Layout.ofBeans_sameOutside _ beans _ _)).append (.refl _)).append (.refl _)
  | @child place name beans sockets wiredModules position rest left right children induction =>
      rw [Layout.ofForest, Layout.ofForest, Layout.ofModule, Layout.ofModule,
        ModuleDeclaration.extent, ModuleDeclaration.extent, children.forestExtent_eq,
        children.forestRoots_eq]
      have place' : ((start.add ⟨1, 0, sockets.length⟩).add (beansExtent beans)).modules + place =
          start.modules + (place + 1) := by
        simp only [Extent.add_modules, beansExtent_modules]
        omega
      have inner := fun around siblings => induction around siblings
        ((start.add ⟨1, 0, sockets.length⟩).add (beansExtent beans))
      rw [place'] at inner
      exact ((Layout.SameOutside.refl _).append (inner _ _)).append (.refl _)
  | @later place module left right others induction =>
      rw [Layout.ofForest, Layout.ofForest]
      have rest := induction around siblings (start.add module.extent)
      rw [Extent.add_modules, Nat.add_assoc] at rest
      exact (Layout.SameOutside.refl _).append rest

end DifferInside

namespace Model

/-- Two models that are equal but for private beans of one module. -/
structure SameOutside (hidden : ModuleId) (left right : Model) : Prop where
  modules : left.modules = right.modules
  beans : List.Forall₂ (Bean.SameOutside hidden) left.beans right.beans
  sockets : left.sockets = right.sockets

end Model

theorem DifferInside.sameOutside {place : Nat} {left right : List ModuleDeclaration}
    (differ : DifferInside place left right) :
    (Model.ofDeclarations left).SameOutside ⟨place⟩ (Model.ofDeclarations right) := by
  have layout := differ.ofForest .none (Layout.forestRoots 0 right) .zero
  rw [show Extent.zero.modules + place = place from Nat.zero_add place] at layout
  rw [Model.ofDeclarations, Model.ofDeclarations, differ.forestRoots_eq]
  exact ⟨layout.modules, layout.beans, layout.sockets⟩

/-! ## What can be told apart -/

namespace Model

/-- A provider that is more than its own module's business. -/
def IsOpen (model : Model) (hidden : ModuleId) (provider : Provider) : Prop :=
  model.providerModule provider ≠ hidden ∨ model.isPublicBean provider = true

namespace SameOutside

variable {hidden : ModuleId} {left right : Model} (same : left.SameOutside hidden right)

include same

theorem module_eq (id : ModuleId) : left.module id = right.module id := by
  rw [module, module, same.modules]

theorem socket_eq (id : SocketId) : left.socket id = right.socket id := by
  rw [socket, socket, same.sockets]

theorem bean_same (id : BeanId) : (left.bean id).SameOutside hidden (right.bean id) := by
  obtain ⟨length, each⟩ := List.forall₂_iff_get.mp same.beans
  simp only [bean, List.getD_eq_getElem?_getD]
  by_cases inside : id.index < left.beans.length
  · have inside' : id.index < right.beans.length := length ▸ inside
    simpa [inside, inside'] using each id.index inside inside'
  · have outside : ¬ id.index < right.beans.length := length ▸ inside
    simp [outside, inside, Bean.SameOutside]

theorem bean_module (id : BeanId) : (left.bean id).module = (right.bean id).module := by
  rcases same.bean_same id with equal | hidden
  · rw [equal]
  · rw [hidden.left_module, hidden.right_module]

theorem bean_isPublic (id : BeanId) : (left.bean id).isPublic = (right.bean id).isPublic := by
  rcases same.bean_same id with equal | hidden
  · rw [equal]
  · rw [hidden.left_private, hidden.right_private]

theorem bean_name (id : BeanId) : (left.bean id).name = (right.bean id).name := by
  rcases same.bean_same id with equal | hidden
  · rw [equal]
  · exact hidden.name

theorem bean_sockets (id : BeanId) : (left.bean id).sockets = (right.bean id).sockets := by
  rcases same.bean_same id with equal | hidden
  · rw [equal]
  · exact hidden.sockets

theorem bean_position (id : BeanId) : (left.bean id).position = (right.bean id).position := by
  rcases same.bean_same id with equal | hidden
  · rw [equal]
  · exact hidden.position

theorem path_eq (id : ModuleId) : left.path id = right.path id := by
  rw [path, path, same.module_eq]

theorem providerModule_eq (provider : Provider) :
    left.providerModule provider = right.providerModule provider := by
  cases provider with
  | bean id => exact same.bean_module id
  | socket id => rw [providerModule, providerModule, same.socket_eq]

theorem providerName_eq (provider : Provider) :
    left.providerName provider = right.providerName provider := by
  cases provider with
  | bean id => exact same.bean_name id
  | socket id => rw [providerName, providerName, same.socket_eq]

theorem qualifiedName_eq (provider : Provider) :
    left.qualifiedName provider = right.qualifiedName provider := by
  rw [qualifiedName, qualifiedName, same.providerModule_eq, same.providerName_eq, same.path_eq]

theorem isPublicBean_eq (provider : Provider) :
    left.isPublicBean provider = right.isPublicBean provider := by
  cases provider with
  | bean id => exact same.bean_isPublic id
  | socket id => rfl

theorem providerCardinality_eq (provider : Provider) :
    left.providerCardinality provider = right.providerCardinality provider := by
  cases provider with
  | bean id => rfl
  | socket id => rw [providerCardinality, providerCardinality, same.socket_eq]

theorem socketLocation_eq (id : SocketId) :
    left.socketLocation id = right.socketLocation id := by
  simp only [socketLocation, ownerName?, same.socket_eq, same.path_eq, same.bean_name]

theorem providerLocation_eq (provider : Provider) :
    left.providerLocation provider = right.providerLocation provider := by
  cases provider with
  | bean id =>
      simp only [providerLocation, beanLocation, same.bean_module, same.path_eq,
        same.bean_name, same.bean_position]
  | socket id => exact same.socketLocation_eq id

theorem precedes_eq : left.precedes = right.precedes := by
  funext first second
  simp only [precedes, same.providerModule_eq]

theorem isNamed_eq : left.isNamed = right.isNamed := by
  funext name provider
  simp only [isNamed, same.providerName_eq, same.qualifiedName_eq]

theorem isOutside_eq : left.isOutside = right.isOutside := by
  funext excluded provider
  simp only [isOutside, isWithin, lineage, same.module_eq, same.providerModule_eq]

/-! ## Open providers -/

theorem bean_eq {id : BeanId} (isOpen : left.IsOpen hidden (.bean id)) :
    left.bean id = right.bean id := by
  rcases same.bean_same id with equal | private'
  · exact equal
  · rcases isOpen with elsewhere | isPublic
    · exact absurd private'.left_module elsewhere
    · rw [isPublicBean, private'.left_private] at isPublic
      cases isPublic

variable {provider : Provider} (isOpen : left.IsOpen hidden provider)

include isOpen

theorem candidateKey_eq : left.candidateKey provider = right.candidateKey provider := by
  cases provider with
  | bean id => simp only [candidateKey, providerType, providerQualifier, same.bean_eq isOpen]
  | socket id => simp only [candidateKey, providerType, providerQualifier, same.socket_eq]

theorem providerQualifier_eq :
    left.providerQualifier provider = right.providerQualifier provider :=
  congrArg Prod.snd (same.candidateKey_eq isOpen)

theorem providedTypes_eq : left.providedTypes provider = right.providedTypes provider := by
  cases provider with
  | bean id => rw [providedTypes, providedTypes, same.bean_eq isOpen]
  | socket id => rw [providedTypes, providedTypes, same.socket_eq]

theorem providerIsDefault_eq :
    left.providerIsDefault provider = right.providerIsDefault provider := by
  cases provider with
  | bean id => rw [providerIsDefault, providerIsDefault, same.bean_eq isOpen]
  | socket id => rfl

omit isOpen

/-! ## Scopes -/

theorem visible_eq (scope : ModuleId) : left.visible scope = right.visible scope := by
  have isPublic : left.isPublicBean = right.isPublicBean := funext same.isPublicBean_eq
  simp only [visible, sightings, ownProviders, relatives, publicBeans, same.module_eq, isPublic]

omit same in
theorem isOpen_of_visible (leftFormed : left.WellFormed) {scope : ModuleId}
    (elsewhere : scope ≠ hidden) {provider : Provider} (member : provider ∈ left.visible scope) :
    left.IsOpen hidden provider := by
  by_cases known : scope ∈ left.moduleIds
  · rcases ((leftFormed.mem_visible known).mp member).2 with own | ⟨_, isPublic⟩
    · exact .inl fun hidden => elsewhere (own.symm.trans hidden)
    · exact .inr isPublic
  · rw [leftFormed.visible_unknown known] at member
    cases member

theorem register_eq {index : CandidateIndex} {provider : Provider}
    (isOpen : left.IsOpen hidden provider) :
    index.register left provider = index.register right provider := by
  have entered : CandidateIndex.enter left provider = CandidateIndex.enter right provider := by
    funext type byType
    induction byType with
    | nil => rfl
    | cons row rest induction =>
        simp only [CandidateIndex.enter, CandidateIndex.insertCandidate, same.precedes_eq, induction]
  simp only [CandidateIndex.register, CandidateIndex.add, entered, same.candidateKey_eq isOpen,
    same.providedTypes_eq isOpen]

theorem registerAll_eq {index : CandidateIndex} {providers : List Provider}
    (offered : ∀ provider ∈ providers, left.IsOpen hidden provider) :
    index.registerAll left providers = index.registerAll right providers := by
  induction providers generalizing index with
  | nil => rfl
  | cons provider rest induction =>
      obtain ⟨isOpen, others⟩ := List.forall_mem_cons.mp offered
      simp only [CandidateIndex.registerAll, ← same.register_eq isOpen, induction others]

theorem select_eq (multiplicity : Multiplicity) {candidates : List Provider}
    (allOpen : ∀ provider ∈ candidates, left.IsOpen hidden provider) :
    left.select multiplicity candidates = right.select multiplicity candidates := by
  have defaults : candidates.filter left.providerIsDefault =
      candidates.filter right.providerIsDefault :=
    List.filter_congr fun provider member => same.providerIsDefault_eq (allOpen provider member)
  have chosen : left.selectOne candidates = right.selectOne candidates := by
    match candidates with
    | [] => rfl
    | [_] => rfl
    | _ :: _ :: _ => simp only [selectOne, defaults]
  cases multiplicity <;> simp only [select, chosen]

section Elsewhere

variable (leftFormed : left.WellFormed) {scope : ModuleId} (elsewhere : scope ≠ hidden)

include leftFormed elsewhere

theorem scopeEntries_eq : left.scopeEntries scope = right.scopeEntries scope := by
  rw [scopeEntries, scopeEntries, ← same.visible_eq]
  exact same.registerAll_eq fun _ member => isOpen_of_visible leftFormed elsewhere member

theorem duplicateReports_eq : left.duplicateReports scope = right.duplicateReports scope := by
  have diagnostic : left.duplicateDiagnostic scope = right.duplicateDiagnostic scope := by
    funext refused
    simp only [duplicateDiagnostic, same.path_eq, same.qualifiedName_eq, same.providerModule_eq,
      same.providerLocation_eq]
  rw [duplicateReports, duplicateReports, same.scopeEntries_eq leftFormed elsewhere, diagnostic]

/-! ## Sockets -/

theorem candidates_eq (excluded : Option ModuleId) (socket : Socket) :
    left.candidates (left.index scope) excluded socket =
      right.candidates (right.index scope) excluded socket := by
  have lookup : (left.index scope).lookup left socket.requiredType socket.qualifier =
      (right.index scope).lookup right socket.requiredType socket.qualifier := by
    rw [show right.index scope = left.index scope from
      congrArg Prod.fst (same.scopeEntries_eq leftFormed elsewhere).symm]
    refine List.filter_congr fun provider member => ?_
    have accepted := ((leftFormed.index_consistent scope).mem_entries _ provider).mp member
    have isOpen := isOpen_of_visible leftFormed elsewhere (visible_of_mem_index accepted.1)
    rw [same.providerQualifier_eq isOpen]
  simp only [candidates, lookup, same.isOutside_eq, same.providerCardinality_eq]

theorem resolve_eq (excluded : Option ModuleId) (id : SocketId) :
    left.resolve (left.index scope) excluded id =
      right.resolve (right.index scope) excluded id := by
  have allOpen : ∀ provider ∈ left.candidates (left.index scope) excluded (left.socket id),
      left.IsOpen hidden provider := by
    intro provider member
    have found := (leftFormed.index_consistent scope).mem_lookup.mp (List.mem_of_mem_filter member)
    exact isOpen_of_visible leftFormed elsewhere (visible_of_mem_index found.1)
  rw [resolve, resolve, ← same.candidates_eq leftFormed elsewhere, ← same.socket_eq,
    show right.restrict = left.restrict by
      funext names candidates
      simp only [restrict, same.isNamed_eq]]
  cases allowed : left.restrict (left.socket id).wiredTo
      (left.candidates (left.index scope) excluded (left.socket id)) with
  | error failure => rfl
  | ok kept =>
      have keptOpen : ∀ provider ∈ kept, left.IsOpen hidden provider :=
        fun provider member => allOpen provider (restrict_ok allowed provider member)
      have selected := same.select_eq (left.socket id).multiplicity keptOpen
      simp only [bind, Except.bind, selected]

theorem resolveModule_eq : left.resolveModule scope = right.resolveModule scope := by
  have sockets : left.socketsResolvedIn scope = right.socketsResolvedIn scope := by
    simp only [socketsResolvedIn, same.module_eq, same.bean_sockets]
  have results : left.resolveScope scope = right.resolveScope scope := by
    simp only [resolveScope, sockets, same.resolve_eq leftFormed elsewhere]
  have diagnostic : left.resolutionDiagnostic scope = right.resolutionDiagnostic scope := by
    funext id failure
    have names : left.qualifiedName = right.qualifiedName := funext same.qualifiedName_eq
    simp only [resolutionDiagnostic, same.socket_eq, same.socketLocation_eq, names]
  rw [resolveModule, resolveModule, results, diagnostic]

end Elsewhere

end SameOutside

end Model

/-! ## Privacy -/

/-- What the private beans of a module are makes no difference to any other module. -/
theorem private_beans_unseen {place : Nat} {left right : List ModuleDeclaration}
    (differ : DifferInside place left right) {scope : ModuleId} (elsewhere : scope ≠ ⟨place⟩) :
    let first := Model.ofDeclarations left
    let second := Model.ofDeclarations right
    first.visible scope = second.visible scope ∧
      first.duplicates.filter (·.scope == some scope) =
        second.duplicates.filter (·.scope == some scope) ∧
      first.resolveModule scope = second.resolveModule scope := by
  have same := differ.sameOutside
  have leftFormed := Model.ofDeclarations_wellFormed left
  refine ⟨same.visible_eq scope, ?_, same.resolveModule_eq leftFormed elsewhere⟩
  rw [Model.filter_duplicates, Model.filter_duplicates, same.modules,
    same.duplicateReports_eq leftFormed elsewhere]

/-- A bank with a private bean, and a branch with a bean of the type that the private
one may have. -/
def sampleBank (secret : TypeName) : List ModuleDeclaration :=
  let vault : BeanDeclaration := { name := "vault", declaredType := secret }
  let board : BeanDeclaration :=
    { name := "board", declaredType := .ofText "Board", visibility := .isPublic
      sockets := [{ name := "vault", requiredType := .ofText "Vault" }] }
  let safe : BeanDeclaration :=
    { name := "safe", declaredType := .ofText "Vault", visibility := .isPublic }
  let clerk : BeanDeclaration :=
    { name := "clerk", declaredType := .ofText "Clerk"
      sockets := [{ name := "safe", requiredType := .ofText "Vault" }] }
  [{ name := "bank", beans := [vault, board]
     modules := [{ name := "branch", beans := [safe, clerk] }] }]

theorem sampleBank_differs :
    DifferInside 0 (sampleBank (.ofText "Vault")) (sampleBank (.ofText "Paper")) :=
  .own (.cons (.inr ⟨rfl, rfl, rfl, rfl, rfl⟩) (.cons (.inl rfl) .nil))

set_option maxRecDepth 100000 in
/-- The bank itself has a duplicate or none, and the branch cannot tell. -/
theorem sampleBank_vault_unseen :
    let first := Model.ofDeclarations (sampleBank (.ofText "Vault"))
    let second := Model.ofDeclarations (sampleBank (.ofText "Paper"))
    DifferInside 0 (sampleBank (.ofText "Vault")) (sampleBank (.ofText "Paper")) ∧
      (first.duplicateReports ⟨0⟩).length = 1 ∧ second.duplicateReports ⟨0⟩ = [] ∧
      first.visible ⟨1⟩ = second.visible ⟨1⟩ ∧
      first.duplicates.filter (·.scope == some ⟨1⟩) =
        second.duplicates.filter (·.scope == some ⟨1⟩) ∧
      first.resolveModule ⟨1⟩ = second.resolveModule ⟨1⟩ :=
  ⟨sampleBank_differs, by decide +kernel, by decide +kernel,
    private_beans_unseen sampleBank_differs (by decide)⟩

end StaticInjection
