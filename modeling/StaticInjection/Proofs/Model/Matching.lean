import StaticInjection.Propagation
import StaticInjection.Proofs.Model.Faultless
import StaticInjection.Proofs.Model.Relabelling
import StaticInjection.Proofs.Scope.Visibility
import StaticInjection.Scope.CandidateIndex

/-! # What matching models share

Rows under other labels say the same, so everything that is read off them is the same
for counterparts: names and paths, the tree, the siblings of a module, and what a
provider gives. -/

namespace StaticInjection.Relabelling

namespace Matches

open Model

variable {labels : Relabelling} {left right : Model} (matched : labels.Matches left right)

include matched

/-! ## Rows -/

/-- What does not depend on the labels of a bean, nor on its index, is the same. -/
theorem read_bean {id : BeanId} (known : id ∈ left.beanIds) (read : Bean → α)
    (plain : ∀ bean index, read { labels.beanRow bean with index } = read bean) :
    read (right.bean (labels.bean id)) = read (left.bean id) := by
  obtain ⟨index, row⟩ := matched.beanRows id known
  rw [row, plain]

/-- What does not depend on the labels of a socket is the same. -/
theorem read_socket {id : SocketId} (known : id ∈ left.socketIds) (read : Socket → α)
    (plain : ∀ socket, read (labels.socketRow socket) = read socket) :
    read (right.socket (labels.socket id)) = read (left.socket id) := by
  rw [matched.socketRows id known, plain]

/-! ## Modules -/

section Modules

variable {id : ModuleId} (known : id ∈ left.moduleIds)

include known

/-- What does not depend on the lists that have no order is read off the same row. -/
theorem read_module (read : Module → α) (plain : ∀ module children beans wiredModules,
      read { module with children, beans, wiredModules } = read module) :
    read (right.module (labels.module id)) = read (labels.moduleRow (left.module id)) := by
  obtain ⟨_, _, _, _, _, _, row⟩ := matched.moduleRows id known
  rw [row, plain]

theorem name_label : (right.module (labels.module id)).name = (left.module id).name :=
  matched.read_module known (·.name) fun _ _ _ _ => rfl

theorem path_label : right.path (labels.module id) = left.path id :=
  matched.read_module known (·.path) fun _ _ _ _ => rfl

theorem sockets_label : (right.module (labels.module id)).sockets =
    (left.module id).sockets.map labels.socket :=
  matched.read_module known (·.sockets) fun _ _ _ _ => rfl

theorem wiredNames_label :
    (right.module (labels.module id)).wiredNames = (left.module id).wiredNames :=
  matched.read_module known (·.wiredNames) fun _ _ _ _ => rfl

theorem ancestors_label : (right.module (labels.module id)).ancestors =
    (left.module id).ancestors.map labels.module :=
  matched.read_module known (·.ancestors) fun _ _ _ _ => rfl

theorem children_label : (right.module (labels.module id)).children.Perm
    ((left.module id).children.map labels.module) := by
  obtain ⟨_, _, _, children, _, _, row⟩ := matched.moduleRows id known
  rw [row]
  exact children

theorem beans_label : (right.module (labels.module id)).beans.Perm
    ((left.module id).beans.map labels.bean) := by
  obtain ⟨_, _, _, _, beans, _, row⟩ := matched.moduleRows id known
  rw [row]
  exact beans

theorem wiredModules_label : (right.module (labels.module id)).wiredModules.Perm
    ((left.module id).wiredModules.map labels.module) := by
  obtain ⟨_, _, _, _, _, wired, row⟩ := matched.moduleRows id known
  rw [row]
  exact wired

theorem parent_label :
    right.parent (labels.module id) = (left.parent id).map labels.module := by
  rw [parent, parent, Module.parent, Module.parent, matched.ancestors_label known, List.head?_map]

theorem lineage_label :
    right.lineage (labels.module id) = (left.lineage id).map labels.module := by
  rw [lineage, lineage, matched.ancestors_label known]
  rfl

end Modules

/-! ## Beans and sockets -/

theorem beanModule_label {id : BeanId} (known : id ∈ left.beanIds) :
    (right.bean (labels.bean id)).module = labels.module (left.bean id).module := by
  obtain ⟨index, row⟩ := matched.beanRows id known
  rw [row]
  rfl

theorem beanName_label {id : BeanId} (known : id ∈ left.beanIds) :
    (right.bean (labels.bean id)).name = (left.bean id).name :=
  matched.read_bean known (·.name) fun _ _ => rfl

theorem beanSockets_label {id : BeanId} (known : id ∈ left.beanIds) :
    (right.bean (labels.bean id)).sockets = (left.bean id).sockets.map labels.socket := by
  obtain ⟨index, row⟩ := matched.beanRows id known
  rw [row]
  rfl

theorem owner_label {id : SocketId} (known : id ∈ left.socketIds) :
    (right.socket (labels.socket id)).owner = labels.owner (left.socket id).owner := by
  rw [matched.socketRows id known]
  rfl

theorem requirer_label {id : SocketId} (known : id ∈ left.socketIds) :
    right.requirer (labels.socket id) = labels.provider (left.requirer id) := by
  rw [requirer, requirer, matched.owner_label known]
  cases (left.socket id).owner <;> rfl

variable (leftFormed : left.WellFormed) (rightFormed : right.WellFormed)

include leftFormed

theorem wiringModule?_label {id : SocketId} (known : id ∈ left.socketIds) :
    right.wiringModule? (labels.socket id) = (left.wiringModule? id).map labels.module := by
  rw [wiringModule?, wiringModule?, matched.owner_label known]
  cases owned : (left.socket id).owner with
  | bean bean =>
      exact congrArg some (matched.beanModule_label (leftFormed.owner_bean id known bean owned).1)
  | module module => exact matched.parent_label (leftFormed.owner_module id known module owned).1

/-! ## Providers -/

theorem exists_provider {other : Provider} (offered : right.Offers other) :
    ∃ provider, left.Offers provider ∧ labels.provider provider = other := by
  cases other with
  | bean other =>
      obtain ⟨id, known, rfl⟩ := matched.exists_bean offered
      exact ⟨.bean id, known, rfl⟩
  | socket other =>
      obtain ⟨id, known, rfl⟩ := matched.exists_socket offered.1
      refine ⟨.socket id, ⟨known, ?_⟩, rfl⟩
      have owner := offered.2
      rw [matched.owner_label known] at owner
      cases owned : (left.socket id).owner with
      | bean bean =>
          rw [owned] at owner
          cases owner
      | module module =>
          rw [(leftFormed.owner_module id known module owned).2]

omit leftFormed in
theorem offers_label {provider : Provider} (offered : left.Offers provider) :
    right.Offers (labels.provider provider) := by
  cases provider with
  | bean id => exact matched.bean_known offered
  | socket id =>
      refine ⟨matched.socket_known offered.1, ?_⟩
      rw [matched.owner_label offered.1, offered.2, matched.socketRows id offered.1]
      rfl

omit leftFormed in
include rightFormed in
theorem provider_injective {first second : Provider} (firstOffered : left.Offers first)
    (secondOffered : left.Offers second)
    (same : labels.provider first = labels.provider second) : first = second := by
  cases first with
  | bean first =>
      cases second with
      | bean second =>
          rw [matched.bean_injective rightFormed firstOffered secondOffered
            (Provider.bean.inj same)]
      | socket second => cases same
  | socket first =>
      cases second with
      | bean second => cases same
      | socket second =>
          rw [matched.socket_injective rightFormed firstOffered.1 secondOffered.1
            (Provider.socket.inj same)]

section Provider

variable {provider : Provider} (offered : left.Offers provider)

include offered

omit leftFormed

theorem providerModule_label : right.providerModule (labels.provider provider) =
    labels.module (left.providerModule provider) := by
  cases provider with
  | bean id => exact matched.beanModule_label offered
  | socket id => exact congrArg Socket.module (matched.socketRows id offered.1)

theorem providerName_label :
    right.providerName (labels.provider provider) = left.providerName provider := by
  cases provider with
  | bean id => exact matched.beanName_label offered
  | socket id => exact matched.read_socket offered.1 (·.name) fun _ => rfl

theorem providerQualifier_label :
    right.providerQualifier (labels.provider provider) = left.providerQualifier provider := by
  cases provider with
  | bean id => exact matched.read_bean offered (·.qualifier) fun _ _ => rfl
  | socket id => exact matched.read_socket offered.1 (·.qualifier) fun _ => rfl

theorem providerCardinality_label :
    right.providerCardinality (labels.provider provider) = left.providerCardinality provider := by
  cases provider with
  | bean id => rfl
  | socket id => exact matched.read_socket offered.1 (·.multiplicity.cardinality) fun _ => rfl

theorem providerIsDefault_label :
    right.providerIsDefault (labels.provider provider) = left.providerIsDefault provider := by
  cases provider with
  | bean id => exact matched.read_bean offered (·.isDefault) fun _ _ => rfl
  | socket id => rfl

theorem candidateKey_label :
    right.candidateKey (labels.provider provider) = left.candidateKey provider := by
  refine Prod.ext ?_ (matched.providerQualifier_label offered)
  cases provider with
  | bean id => exact matched.read_bean offered (·.declaredType) fun _ _ => rfl
  | socket id => exact matched.read_socket offered.1 (·.requiredType) fun _ => rfl

theorem providedTypes_label :
    right.providedTypes (labels.provider provider) = left.providedTypes provider := by
  cases provider with
  | bean id => exact matched.read_bean offered (·.provides) fun _ _ => rfl
  | socket id => exact matched.read_socket offered.1 (fun row => [row.requiredType]) fun _ => rfl

theorem isPublicBean_label :
    right.isPublicBean (labels.provider provider) = left.isPublicBean provider := by
  cases provider with
  | bean id => exact matched.read_bean offered (·.isPublic) fun _ _ => rfl
  | socket id => rfl

include leftFormed in
theorem qualifiedName_label :
    right.qualifiedName (labels.provider provider) = left.qualifiedName provider := by
  rw [qualifiedName, qualifiedName, matched.providerModule_label offered,
    matched.path_label (leftFormed.providerModule_known offered),
    matched.providerName_label offered]

end Provider

/-! ## The tree -/

theorem siblings_label {id : ModuleId} (known : id ∈ left.moduleIds) :
    (right.siblings (right.module (labels.module id))).Perm
      ((left.siblings (left.module id)).map labels.module) := by
  have parent := matched.parent_label known
  rw [Model.parent, Model.parent] at parent
  rw [siblings, siblings, parent]
  cases isParent : (left.module id).parent with
  | none => exact matched.roots
  | some above => exact matched.children_label (leftFormed.parent_known known isParent)

include rightFormed

omit leftFormed in
theorem contains_label {items : List ModuleId} (inside : ∀ item ∈ items, item ∈ left.moduleIds)
    {id : ModuleId} (known : id ∈ left.moduleIds) :
    (items.map labels.module).contains (labels.module id) = items.contains id := by
  rw [Bool.eq_iff_iff, List.contains_iff_mem, List.contains_iff_mem, List.mem_map]
  constructor
  · rintro ⟨item, member, same⟩
    exact matched.module_injective rightFormed (inside item member) known same ▸ member
  · exact fun member => ⟨id, member, rfl⟩

theorem isWithin_label {id root : ModuleId} (known : id ∈ left.moduleIds)
    (rootKnown : root ∈ left.moduleIds) :
    right.isWithin (labels.module id) (labels.module root) = left.isWithin id root := by
  rw [isWithin, isWithin, matched.lineage_label known]
  exact matched.contains_label rightFormed
    (fun above listed => leftFormed.isWithin_known known (WellFormed.mem_lineage.mp listed)) rootKnown

/-! ## Declarations -/

omit leftFormed rightFormed in
theorem repeatsSocket_label {sockets : List SocketId}
    (known : ∀ socket ∈ sockets, socket ∈ left.socketIds) {id : SocketId}
    (idKnown : id ∈ left.socketIds) :
    right.repeatsSocket (sockets.map labels.socket) (right.socket (labels.socket id)) =
      left.repeatsSocket sockets (left.socket id) := by
  have name : ∀ socket ∈ left.socketIds,
      (right.socket (labels.socket socket)).name = (left.socket socket).name :=
    fun socket inside => matched.read_socket inside (·.name) fun _ => rfl
  have index : (right.socket (labels.socket id)).index = (left.socket id).index :=
    matched.read_socket idKnown (·.index) fun _ => rfl
  rw [repeatsSocket, repeatsSocket, index, ← List.map_take, List.any_map, name id idKnown]
  rw [Bool.eq_iff_iff, List.any_eq_true, List.any_eq_true]
  refine exists_congr fun earlier => and_congr_right fun inside => ?_
  rw [Function.comp_apply, name earlier (known earlier (List.mem_of_mem_take inside))]

omit rightFormed in
theorem beanKey_label {id : BeanId} (known : id ∈ left.beanIds) :
    (right.path (right.bean (labels.bean id)).module, (right.bean (labels.bean id)).name) =
        (left.path (left.bean id).module, (left.bean id).name) ∧
      right.beanKey (right.bean (labels.bean id)) = left.beanKey (left.bean id) := by
  have path : right.path (right.bean (labels.bean id)).module = left.path (left.bean id).module := by
    rw [matched.beanModule_label known, matched.path_label (leftFormed.bean_module id known)]
  rw [beanKey, beanKey, path, matched.beanName_label known]
  exact ⟨rfl, rfl⟩

omit rightFormed in
theorem socketKey_label {id : SocketId} (known : id ∈ left.socketIds) :
    (right.path (right.socket (labels.socket id)).module,
        right.ownerName? (right.socket (labels.socket id)),
        (right.socket (labels.socket id)).name) =
      (left.path (left.socket id).module, left.ownerName? (left.socket id),
        (left.socket id).name) ∧
      right.socketKey (right.socket (labels.socket id)) = left.socketKey (left.socket id) := by
  have module : (left.socket id).module ∈ left.moduleIds := by
    cases owned : (left.socket id).owner with
    | bean bean =>
        obtain ⟨beanKnown, place⟩ := leftFormed.owner_bean id known bean owned
        exact place ▸ leftFormed.bean_module bean beanKnown
    | module holder =>
        obtain ⟨holderKnown, place⟩ := leftFormed.owner_module id known holder owned
        exact place ▸ holderKnown
  have owner : right.ownerName? (right.socket (labels.socket id)) =
      left.ownerName? (left.socket id) := by
    rw [ownerName?, ownerName?, matched.owner_label known]
    cases owned : (left.socket id).owner with
    | bean bean =>
        exact congrArg some
          (matched.beanName_label (leftFormed.owner_bean id known bean owned).1)
    | module holder => rfl
  have path : right.path (right.socket (labels.socket id)).module =
      left.path (left.socket id).module := by
    rw [matched.socketRows id known]
    exact matched.path_label module
  have name : (right.socket (labels.socket id)).name = (left.socket id).name :=
    matched.read_socket known (·.name) fun _ => rfl
  rw [socketKey, socketKey, path, owner, name]
  exact ⟨rfl, rfl⟩

omit leftFormed rightFormed in
/-- Modules that are listed together have names that are. -/
theorem names_label {others items : List ModuleId} (perm : others.Perm (items.map labels.module))
    (known : ∀ id ∈ items, id ∈ left.moduleIds) :
    (others.map fun id => (right.module id).name).Perm
      (items.map fun id => (left.module id).name) :=
  map_perm perm fun id listed => matched.name_label (known id listed)

theorem faultless (faultless : left.Faultless) : right.Faultless where
  module other otherKnown := by
    obtain ⟨id, known, rfl⟩ := matched.exists_module otherKnown
    rw [moduleFaults, matched.name_label known]
    exact faultless.module id known
  moduleSocket other otherKnown socket listed := by
    obtain ⟨id, known, rfl⟩ := matched.exists_module otherKnown
    rw [matched.sockets_label known] at listed
    obtain ⟨socket, held, rfl⟩ := List.mem_map.mp listed
    have inside : ∀ socket ∈ (left.module id).sockets, socket ∈ left.socketIds :=
      fun socket listed => ((leftFormed.moduleSockets id known socket).mp listed).1
    have clean := faultless.moduleSocket id known socket held
    rw [moduleSocketFaults, matched.sockets_label known,
      matched.repeatsSocket_label inside (inside socket held),
      matched.socketRows socket (inside socket held)]
    exact clean
  bean other otherKnown := by
    obtain ⟨id, known, rfl⟩ := matched.exists_bean otherKnown
    exact (matched.read_bean known ownBeanFaults fun _ _ => rfl).trans (faultless.bean id known)
  beanSocket other otherKnown socket listed := by
    obtain ⟨id, known, rfl⟩ := matched.exists_bean otherKnown
    rw [matched.beanSockets_label known] at listed
    obtain ⟨socket, held, rfl⟩ := List.mem_map.mp listed
    have inside : ∀ socket ∈ (left.bean id).sockets, socket ∈ left.socketIds :=
      fun socket listed => ((leftFormed.beanSockets id known socket).mp listed).1
    have clean := faultless.beanSocket id known socket held
    rw [beanSocketFaults, matched.beanSockets_label known,
      matched.repeatsSocket_label inside (inside socket held),
      matched.socketRows socket (inside socket held)]
    exact clean
  beanNames other otherKnown := by
    obtain ⟨id, known, rfl⟩ := matched.exists_module otherKnown
    exact (map_perm (matched.beans_label known) fun bean listed =>
      matched.beanName_label ((leftFormed.beans id known bean).mp listed).1).nodup_iff.mpr
        (faultless.beanNames id known)
  siblings other otherKnown name named := by
    obtain ⟨id, known, rfl⟩ := matched.exists_module otherKnown
    rw [matched.wiredNames_label known] at named
    obtain ⟨sibling, listed, different, rfl⟩ := faultless.siblings id known name named
    have siblingKnown : sibling ∈ left.moduleIds := by
      unfold siblings at listed
      split at listed
      · exact ((leftFormed.roots sibling).mp listed).1
      · rename_i parent isParent
        have parentKnown := leftFormed.parent_known known isParent
        exact ((leftFormed.children parent parentKnown sibling).mp listed).1
    refine ⟨labels.module sibling,
      (matched.siblings_label leftFormed known).mem_iff.mpr (List.mem_map_of_mem listed),
      fun same => different (matched.module_injective rightFormed siblingKnown known same),
      matched.name_label siblingKnown⟩
  rootNames := (matched.names_label matched.roots fun id listed =>
    ((leftFormed.roots id).mp listed).1).nodup_iff.mpr faultless.rootNames
  childNames other otherKnown := by
    obtain ⟨id, known, rfl⟩ := matched.exists_module otherKnown
    exact (matched.names_label (matched.children_label known) fun child listed =>
      ((leftFormed.children id known child).mp listed).1).nodup_iff.mpr
        (faultless.childNames id known)
  generated other otherKnown another anotherKnown := by
    obtain ⟨id, known, rfl⟩ := matched.exists_module otherKnown
    obtain ⟨second, secondKnown, rfl⟩ := matched.exists_module anotherKnown
    rw [matched.path_label known, matched.path_label secondKnown]
    exact faultless.generated id known second secondKnown
  beanKeys other otherKnown another anotherKnown := by
    obtain ⟨id, known, rfl⟩ := matched.exists_bean otherKnown
    obtain ⟨second, secondKnown, rfl⟩ := matched.exists_bean anotherKnown
    obtain ⟨names, key⟩ := matched.beanKey_label leftFormed known
    obtain ⟨secondNames, secondKey⟩ := matched.beanKey_label leftFormed secondKnown
    rw [names, key, secondNames, secondKey]
    exact faultless.beanKeys id known second secondKnown
  socketKeys other otherKnown isLazy another anotherKnown alsoLazy := by
    obtain ⟨id, known, rfl⟩ := matched.exists_socket otherKnown
    obtain ⟨second, secondKnown, rfl⟩ := matched.exists_socket anotherKnown
    obtain ⟨names, key⟩ := matched.socketKey_label leftFormed known
    obtain ⟨secondNames, secondKey⟩ := matched.socketKey_label leftFormed secondKnown
    rw [matched.socketRows id known] at isLazy
    rw [matched.socketRows second secondKnown] at alsoLazy
    rw [names, key, secondNames, secondKey]
    exact faultless.socketKeys id known isLazy second secondKnown alsoLazy

end Matches

end StaticInjection.Relabelling
