import StaticInjection.Proofs.Model.Relabelling

/-! # Counterparts

Two models that say the same of their modules match, as long as names tell modules and
beans apart. Modules are matched by what is said of them, beans by their modules and
declarations, and sockets by their owners and indices. -/

namespace StaticInjection

/-! ## Matching by keys -/

/-- Items are matched by their keys where no key comes twice. -/
theorem exists_matching [Inhabited β] {left : List α} {right : List β} {leftKey : α → γ}
    {rightKey : β → γ} (perm : (left.map leftKey).Perm (right.map rightKey))
    (nodup : (left.map leftKey).Nodup) :
    ∃ label : α → β, right.Perm (left.map label) ∧
      ∀ item ∈ left, rightKey (label item) = leftKey item := by
  classical
  have counterpart : ∀ item, ∃ other, item ∈ left → other ∈ right ∧
      rightKey other = leftKey item := by
    intro item
    by_cases member : item ∈ left
    · obtain ⟨other, inside, same⟩ :=
        List.mem_map.mp (perm.mem_iff.mp (List.mem_map_of_mem member))
      exact ⟨other, fun _ => ⟨inside, same⟩⟩
    · exact ⟨default, fun again => absurd again member⟩
  choose label labelled using counterpart
  have rightNodup := perm.nodup_iff.mp nodup
  have keys : (left.map label).map rightKey = left.map leftKey := by
    rw [List.map_map]
    exact List.map_congr_left fun item member => (labelled item member).2
  refine ⟨label, (List.perm_ext_iff_of_nodup (.of_map _ rightNodup)
    (.of_map _ (keys ▸ nodup))).mpr fun other => ?_, fun item member => (labelled item member).2⟩
  rw [List.mem_map]
  constructor
  · intro inside
    obtain ⟨item, member, same⟩ :=
      List.mem_map.mp (perm.mem_iff.mpr (List.mem_map_of_mem inside))
    obtain ⟨labelInside, labelKey⟩ := labelled item member
    exact ⟨item, member, List.inj_on_of_nodup_map rightNodup labelInside inside
      (labelKey.trans same)⟩
  · rintro ⟨item, member, rfl⟩
    exact (labelled item member).1

/-- Lists of the same items are equal when each item stands at its number. -/
theorem Numbered.eq_of_mem_iff {number : α → Nat} {left right : List α}
    (leftNumbered : Numbered number 0 left) (rightNumbered : Numbered number 0 right)
    (same : ∀ item, item ∈ left ↔ item ∈ right) : left = right :=
  eq_of_ordered (fun _ _ => Nat.lt_asymm) leftNumbered.ascending rightNumbered.ascending same

theorem Numbered.map_zipIdx {number : α → Nat} {items : List α}
    (numbered : Numbered number 0 items) (make : α → β) :
    items.map (fun item => (make item, number item)) = (items.map make).zipIdx := by
  refine List.ext_getElem (by simp) fun place inside _ => ?_
  rw [List.length_map] at inside
  simp [numbered.getElem inside]

namespace Model

namespace WellFormed

variable {model : Model} (wellFormed : model.WellFormed)

include wellFormed

/-! ## Rows by their owners -/

theorem owners_nodup : model.owners.Nodup := by
  refine List.nodup_append.mpr ⟨?_, ?_, ?_⟩
  · exact wellFormed.moduleIds_nodup.map fun _ _ same => SocketOwner.module.inj same
  · exact wellFormed.beanIds_nodup.map fun _ _ same => SocketOwner.bean.inj same
  · intro left isModule right isBean same
    obtain ⟨_, _, rfl⟩ := List.mem_map.mp isModule
    obtain ⟨_, _, rfl⟩ := List.mem_map.mp isBean
    cases same

theorem owner_known {id : SocketId} (known : id ∈ model.socketIds) :
    (model.socket id).owner ∈ model.owners ∧
      (model.socket id).module = model.moduleOf (model.socket id).owner :=
  wellFormed.socket_owner (wellFormed.socket_mem known).1

/-- The beans are those of the modules, each with its module. -/
theorem beanIds_perm (make : BeanId → γ) :
    (model.beanIds.map fun id => ((model.bean id).module, make id)).Perm
      (model.moduleIds.flatMap fun module =>
        ((model.module module).beans.map make).map (module, ·)) := by
  have listed : model.beanIds.Perm
      (model.moduleIds.flatMap fun module => (model.module module).beans) := by
    refine (List.perm_ext_iff_of_nodup wellFormed.beanIds_nodup ?_).mpr fun id => ?_
    · refine List.nodup_flatMap.mpr ⟨fun module known =>
        (wellFormed.beans_placed module known).nodup, ?_⟩
      refine wellFormed.moduleIds_nodup.imp_of_mem fun leftKnown rightKnown different id left right =>
        different ?_
      rw [← ((wellFormed.beans _ leftKnown id).mp left).2,
        ((wellFormed.beans _ rightKnown id).mp right).2]
    · rw [List.mem_flatMap]
      constructor
      · exact fun known => ⟨_, wellFormed.bean_module id known,
          (wellFormed.beans _ (wellFormed.bean_module id known) id).mpr ⟨known, rfl⟩⟩
      · rintro ⟨module, known, inside⟩
        exact ((wellFormed.beans module known id).mp inside).1
  refine (listed.map _).trans (.of_eq ?_)
  rw [List.map_flatMap]
  refine List.flatMap_congr fun module known => ?_
  rw [List.map_map]
  refine List.map_congr_left fun id inside => ?_
  rw [((wellFormed.beans module known id).mp inside).2]
  rfl

/-- The sockets are those of the owners, each with its owner and at its index. -/
theorem socketIds_perm :
    (model.socketIds.map fun id =>
        ((model.socket id).owner, (model.socket id).declared, (model.socket id).index)).Perm
      (model.owners.flatMap fun owner =>
        (model.declaredSockets (model.socketsOf owner)).zipIdx.map (owner, ·)) := by
  have listed : model.socketIds.Perm (model.owners.flatMap model.socketsOf) := by
    refine (List.perm_ext_iff_of_nodup wellFormed.socketIds_nodup ?_).mpr fun id => ?_
    · refine List.nodup_flatMap.mpr ⟨fun owner known =>
        (wellFormed.socketsOf_placed known).nodup, ?_⟩
      refine wellFormed.owners_nodup.imp_of_mem fun leftKnown rightKnown different id left right =>
        different ?_
      rw [← ((wellFormed.mem_socketsOf leftKnown).mp left).2,
        ((wellFormed.mem_socketsOf rightKnown).mp right).2]
    · rw [List.mem_flatMap]
      constructor
      · exact fun known => ⟨_, (wellFormed.owner_known known).1,
          (wellFormed.mem_socketsOf (wellFormed.owner_known known).1).mpr ⟨known, rfl⟩⟩
      · rintro ⟨owner, known, inside⟩
        exact ((wellFormed.mem_socketsOf known).mp inside).1
  refine (listed.map _).trans (.of_eq ?_)
  rw [List.map_flatMap]
  refine List.flatMap_congr fun owner known => ?_
  rw [declaredSockets, ← (wellFormed.socketsOf_placed known).map_zipIdx, List.map_map]
  refine List.map_congr_left fun id inside => ?_
  rw [((wellFormed.mem_socketsOf known).mp inside).2]
  rfl

end WellFormed

end Model

/-! ## Finding labels -/

namespace Relabelling

/-- Counterparts say the same and belong to counterparts. -/
structure Agrees (labels : Relabelling) (left right : Model) : Prop
    extends labels.Covers left right where
  views : ∀ id ∈ left.moduleIds, right.view (labels.module id) = left.view id
  beanKeys : ∀ id ∈ left.beanIds,
    (right.bean (labels.bean id)).module = labels.module (left.bean id).module ∧
      right.beanDeclaration (labels.bean id) = left.beanDeclaration id
  socketKeys : ∀ id ∈ left.socketIds,
    (right.socket (labels.socket id)).owner = labels.owner (left.socket id).owner ∧
      (right.socket (labels.socket id)).declared = (left.socket id).declared ∧
      (right.socket (labels.socket id)).index = (left.socket id).index

variable {left right : Model} (leftFormed : left.WellFormed) (rightFormed : right.WellFormed)
  (apart : left.NamesApart)

include leftFormed rightFormed apart

theorem exists_beanLabels {module : ModuleId → ModuleId}
    (modules : right.moduleIds.Perm (left.moduleIds.map module))
    (views : ∀ id ∈ left.moduleIds, right.view (module id) = left.view id) :
    ∃ bean : BeanId → BeanId, right.beanIds.Perm (left.beanIds.map bean) ∧
      ∀ id ∈ left.beanIds, ((right.bean (bean id)).module, right.beanDeclaration (bean id)) =
        (module (left.bean id).module, left.beanDeclaration id) := by
  have perm : (left.beanIds.map fun id =>
      (module (left.bean id).module, left.beanDeclaration id)).Perm
      (right.beanIds.map fun id => ((right.bean id).module, right.beanDeclaration id)) := by
    have leftKeys := (leftFormed.beanIds_perm left.beanDeclaration).map (Prod.map module id)
    rw [List.map_map, List.map_flatMap] at leftKeys
    refine leftKeys.trans (List.Perm.trans (flatMap_perm modules fun id known => ?_).symm
      (rightFormed.beanIds_perm right.beanDeclaration).symm)
    have beans := Multiset.coe_eq_coe.mp (congrArg ModuleView.beans (views id known))
    refine (beans.map (module id, ·)).trans (.of_eq ?_)
    simp only [List.map_map]
    rfl
  refine exists_matching perm (List.Nodup.map_on ?_ leftFormed.beanIds_nodup)
  intro first firstKnown second secondKnown same
  obtain ⟨modules, declarations⟩ := Prod.mk.inj same
  have firstModule := leftFormed.bean_module first firstKnown
  have secondModule := leftFormed.bean_module second secondKnown
  have path := congrArg (fun id => (right.view id).path) modules
  rw [views _ firstModule, views _ secondModule] at path
  have together := apart.eq_of_path firstModule secondModule path
  exact List.inj_on_of_nodup_map (apart.beans _ secondModule)
    ((leftFormed.beans _ secondModule first).mpr ⟨firstKnown, together⟩)
    ((leftFormed.beans _ secondModule second).mpr ⟨secondKnown, rfl⟩)
    (congrArg BeanDeclaration.name declarations)

omit apart in
theorem exists_socketLabels {owner : SocketOwner → SocketOwner}
    (owners : right.owners.Perm (left.owners.map owner))
    (sockets : ∀ holder ∈ left.owners, right.declaredSockets (right.socketsOf (owner holder)) =
      left.declaredSockets (left.socketsOf holder)) :
    ∃ socket : SocketId → SocketId, right.socketIds.Perm (left.socketIds.map socket) ∧
      ∀ id ∈ left.socketIds,
        ((right.socket (socket id)).owner, (right.socket (socket id)).declared,
          (right.socket (socket id)).index) =
        (owner (left.socket id).owner, (left.socket id).declared, (left.socket id).index) := by
  have perm : (left.socketIds.map fun id =>
      (owner (left.socket id).owner, (left.socket id).declared, (left.socket id).index)).Perm
      (right.socketIds.map fun id =>
        ((right.socket id).owner, (right.socket id).declared, (right.socket id).index)) := by
    have leftKeys := leftFormed.socketIds_perm.map (Prod.map owner id)
    rw [List.map_map, List.map_flatMap] at leftKeys
    refine leftKeys.trans (List.Perm.trans (flatMap_perm owners fun holder known => ?_).symm
      rightFormed.socketIds_perm.symm)
    rw [List.map_map, sockets holder known]
    rfl
  have injective : ∀ first ∈ left.owners, ∀ second ∈ left.owners,
      owner first = owner second → first = second :=
    fun first firstKnown second secondKnown same => List.inj_on_of_nodup_map
      (owners.nodup_iff.mp rightFormed.owners_nodup) firstKnown secondKnown same
  refine exists_matching perm (List.Nodup.map_on ?_ leftFormed.socketIds_nodup)
  intro first firstKnown second secondKnown same
  obtain ⟨owners, same⟩ := Prod.mk.inj same
  have firstOwner := (leftFormed.owner_known firstKnown).1
  have secondOwner := (leftFormed.owner_known secondKnown).1
  have together := injective _ firstOwner _ secondOwner owners
  have firstPlace := (leftFormed.socketsOf_placed firstOwner).getElem?_number
    ((leftFormed.mem_socketsOf firstOwner).mpr ⟨firstKnown, rfl⟩)
  have secondPlace := (leftFormed.socketsOf_placed secondOwner).getElem?_number
    ((leftFormed.mem_socketsOf secondOwner).mpr ⟨secondKnown, rfl⟩)
  rw [together, (Prod.mk.inj same).2, secondPlace] at firstPlace
  exact (Option.some.inj firstPlace).symm

/-- Models that say the same of their modules agree under some labels. -/
theorem exists_agrees
    (views : (left.moduleIds.map left.view).Perm (right.moduleIds.map right.view)) :
    ∃ labels : Relabelling, labels.Agrees left right := by
  -- Beans are found by the labels of their modules, and sockets by those of their owners.
  have viewsNodup : (left.moduleIds.map left.view).Nodup := by
    refine .of_map ModuleView.path ?_
    rw [List.map_map]
    exact apart.paths
  obtain ⟨module, modules, sameViews⟩ := exists_matching views viewsNodup
  obtain ⟨bean, beans, sameBeans⟩ :=
    exists_beanLabels leftFormed rightFormed apart modules sameViews
  let labels : Relabelling := ⟨module, bean, id⟩
  have owners : right.owners.Perm (left.owners.map labels.owner) := by
    rw [Model.owners, Model.owners, List.map_append, List.map_map, List.map_map]
    exact List.Perm.append (map_perm modules fun _ _ => rfl) (map_perm beans fun _ _ => rfl)
  have declared : ∀ holder ∈ left.owners,
      right.declaredSockets (right.socketsOf (labels.owner holder)) =
        left.declaredSockets (left.socketsOf holder) := by
    intro holder known
    rcases List.mem_append.mp known with ofModule | ofBean
    · obtain ⟨id, idKnown, rfl⟩ := List.mem_map.mp ofModule
      exact congrArg ModuleView.sockets (sameViews id idKnown)
    · obtain ⟨id, idKnown, rfl⟩ := List.mem_map.mp ofBean
      exact congrArg BeanDeclaration.sockets (Prod.mk.inj (sameBeans id idKnown)).2
  obtain ⟨socket, sockets, sameSockets⟩ :=
    exists_socketLabels leftFormed rightFormed owners declared
  refine ⟨⟨module, bean, socket⟩, ⟨⟨modules, beans, sockets⟩, sameViews,
    fun id known => Prod.mk.inj (sameBeans id known), fun id known => ?_⟩⟩
  obtain ⟨owner, same⟩ := Prod.mk.inj (sameSockets id known)
  obtain ⟨same, index⟩ := Prod.mk.inj same
  refine ⟨owner.trans ?_, same, index⟩
  cases (left.socket id).owner <;> rfl

omit leftFormed rightFormed apart

namespace Agrees

variable {labels : Relabelling} (agrees : labels.Agrees left right)
  (leftFormed : left.WellFormed) (rightFormed : right.WellFormed)

include agrees rightFormed

theorem owner_injective {first second : SocketOwner} (firstKnown : first ∈ left.owners)
    (secondKnown : second ∈ left.owners) (same : labels.owner first = labels.owner second) :
    first = second := by
  have known : ∀ id, .bean id ∈ left.owners → id ∈ left.beanIds := by
    simp [Model.owners]
  cases first with
  | module first =>
      cases second with
      | bean second => cases same
      | module second =>
          simp only [Model.owners, List.mem_append, List.mem_map, SocketOwner.module.injEq,
            exists_eq_right, reduceCtorEq, and_false, exists_false, or_false] at firstKnown secondKnown
          rw [agrees.module_injective rightFormed firstKnown secondKnown
            (SocketOwner.module.inj same)]
  | bean first =>
      cases second with
      | module second => cases same
      | bean second =>
          rw [agrees.bean_injective rightFormed (known _ firstKnown) (known _ secondKnown)
            (SocketOwner.bean.inj same)]

include leftFormed

theorem parent_label (apart : right.NamesApart) {id : ModuleId} (known : id ∈ left.moduleIds) :
    right.parent (labels.module id) = (left.parent id).map labels.module := by
  have above := congrArg ModuleView.above (agrees.views id known)
  change (right.parent (labels.module id)).map right.path = (left.parent id).map left.path at above
  cases isParent : left.parent id with
  | none =>
      rw [isParent] at above
      exact Option.map_eq_none_iff.mp above
  | some parent =>
      rw [isParent] at above
      obtain ⟨other, isOther, same⟩ := Option.map_eq_some_iff.mp above
      have parentKnown := leftFormed.parent_known known isParent
      have path := congrArg ModuleView.path (agrees.views parent parentKnown)
      rw [isOther, apart.eq_of_path (rightFormed.parent_known (agrees.module_known known) isOther)
        (agrees.module_known parentKnown) (Eq.trans same path.symm)]
      rfl

theorem ancestors_label (apart : right.NamesApart) {id : ModuleId} (known : id ∈ left.moduleIds) :
    (right.module (labels.module id)).ancestors =
      (left.module id).ancestors.map labels.module := by
  refine leftFormed.descend (motive := fun id =>
    (right.module (labels.module id)).ancestors = (left.module id).ancestors.map labels.module)
    ?_ known
  intro id known above
  have parent := agrees.parent_label leftFormed rightFormed apart known
  cases isParent : left.parent id with
  | none =>
      rw [isParent] at parent
      rw [List.head?_eq_none_iff.mp isParent, List.head?_eq_none_iff.mp parent]
      rfl
  | some upper =>
      rw [isParent] at parent
      rw [leftFormed.lineage_parent id known upper isParent,
        rightFormed.lineage_parent _ (agrees.module_known known) _ parent, Model.lineage,
        Model.lineage, above upper isParent]
      rfl

theorem socketsOf_label (owner : SocketOwner) (known : owner ∈ left.owners)
    (labelKnown : labels.owner owner ∈ right.owners) :
    right.socketsOf (labels.owner owner) = (left.socketsOf owner).map labels.socket := by
  refine (rightFormed.socketsOf_placed labelKnown).eq_of_mem_iff ?_ fun other => ?_
  · have placed := leftFormed.socketsOf_placed known
    unfold Numbered at placed ⊢
    rw [List.map_map, List.length_map, ← placed]
    refine List.map_congr_left fun id inside => ?_
    exact (agrees.socketKeys id ((leftFormed.mem_socketsOf known).mp inside).1).2.2
  · rw [rightFormed.mem_socketsOf labelKnown, List.mem_map, agrees.sockets.mem_iff, List.mem_map]
    constructor
    · rintro ⟨⟨id, idKnown, rfl⟩, owned⟩
      rw [(agrees.socketKeys id idKnown).1] at owned
      exact ⟨id, (leftFormed.mem_socketsOf known).mpr ⟨idKnown, agrees.owner_injective rightFormed
        (leftFormed.owner_known idKnown).1 known owned⟩, rfl⟩
    · rintro ⟨id, inside, rfl⟩
      obtain ⟨idKnown, rfl⟩ := (leftFormed.mem_socketsOf known).mp inside
      exact ⟨⟨id, idKnown, rfl⟩, (agrees.socketKeys id idKnown).1⟩

theorem socketRow_label {id : SocketId} (known : id ∈ left.socketIds) :
    right.socket (labels.socket id) = labels.socketRow (left.socket id) := by
  obtain ⟨owner, declared, index⟩ := agrees.socketKeys id known
  have isId := (rightFormed.socket_mem (agrees.socket_known known)).2
  have isLeft := (leftFormed.socket_mem known).2
  obtain ⟨ownerKnown, module⟩ := leftFormed.owner_known known
  have rightModule := (rightFormed.owner_known (agrees.socket_known known)).2
  have sameModule : right.moduleOf (labels.owner (left.socket id).owner) =
      labels.module (left.moduleOf (left.socket id).owner) := by
    rcases List.mem_append.mp ownerKnown with ofModule | ofBean
    · obtain ⟨holder, _, same⟩ := List.mem_map.mp ofModule
      rw [← same]
      rfl
    · obtain ⟨holder, holderKnown, same⟩ := List.mem_map.mp ofBean
      rw [← same]
      exact (agrees.beanKeys holder holderKnown).1
  rw [owner, sameModule, ← module] at rightModule
  generalize right.socket (labels.socket id) = row at *
  cases row
  simp only [Socket.declared, SocketDeclaration.mk.injEq] at declared
  simp_all [socketRow]

theorem beanRow_label {id : BeanId} (known : id ∈ left.beanIds) :
    ∃ index, right.bean (labels.bean id) = { labels.beanRow (left.bean id) with index } := by
  obtain ⟨module, declared⟩ := agrees.beanKeys id known
  have isId := (rightFormed.bean_mem (agrees.bean_known known)).2
  have isLeft := (leftFormed.bean_mem known).2
  have sockets := agrees.socketsOf_label leftFormed rightFormed (.bean id)
    (List.mem_append_right _ (List.mem_map_of_mem known))
    (List.mem_append_right _ (List.mem_map_of_mem (agrees.bean_known known)))
  change (right.bean (labels.bean id)).sockets = (left.bean id).sockets.map labels.socket at sockets
  refine ⟨(right.bean (labels.bean id)).index, ?_⟩
  simp only [Model.beanDeclaration, Model.declaredBean, BeanDeclaration.mk.injEq] at declared
  generalize right.bean (labels.bean id) = row at *
  cases row
  simp_all [beanRow]

theorem children_label (apart : right.NamesApart) {id : ModuleId} (known : id ∈ left.moduleIds) :
    (right.module (labels.module id)).children.Perm
      ((left.module id).children.map labels.module) := by
  have labelKnown := agrees.module_known known
  refine perm_of_mem_iff agrees.modules rightFormed.moduleIds_nodup (rightFormed.children_nodup _ labelKnown)
    (leftFormed.children_nodup id known)
    (fun child listed => ((leftFormed.children id known child).mp listed).1)
    (fun child listed => ((rightFormed.children _ labelKnown child).mp listed).1)
    fun child childKnown => ?_
  rw [rightFormed.children _ labelKnown, leftFormed.children id known,
    agrees.parent_label leftFormed rightFormed apart childKnown, Option.map_eq_some_iff]
  constructor
  · rintro ⟨_, parent, isParent, same⟩
    have parentKnown := leftFormed.parent_known childKnown isParent
    rw [agrees.module_injective rightFormed parentKnown known same] at isParent
    exact ⟨childKnown, isParent⟩
  · exact fun ⟨_, isParent⟩ => ⟨agrees.module_known childKnown, id, isParent, rfl⟩

theorem roots_label (apart : right.NamesApart) (leftRoots : left.roots.Nodup)
    (rightRoots : right.roots.Nodup) : right.roots.Perm (left.roots.map labels.module) := by
  refine perm_of_mem_iff agrees.modules rightFormed.moduleIds_nodup rightRoots leftRoots
    (fun root listed => ((leftFormed.roots root).mp listed).1)
    (fun root listed => ((rightFormed.roots root).mp listed).1) fun root known => ?_
  rw [rightFormed.roots, leftFormed.roots, agrees.parent_label leftFormed rightFormed apart known,
    Option.map_eq_none_iff]
  exact and_congr_left fun _ => ⟨fun _ => known, agrees.module_known⟩

theorem beans_label {id : ModuleId} (known : id ∈ left.moduleIds) :
    (right.module (labels.module id)).beans.Perm ((left.module id).beans.map labels.bean) := by
  have labelKnown := agrees.module_known known
  refine perm_of_mem_iff agrees.beans rightFormed.beanIds_nodup
    (rightFormed.beans_placed _ labelKnown).nodup (leftFormed.beans_placed id known).nodup
    (fun bean listed => ((leftFormed.beans id known bean).mp listed).1)
    (fun bean listed => ((rightFormed.beans _ labelKnown bean).mp listed).1)
    fun bean beanKnown => ?_
  rw [rightFormed.beans _ labelKnown, leftFormed.beans id known, (agrees.beanKeys bean beanKnown).1]
  constructor
  · exact fun ⟨_, same⟩ => ⟨beanKnown, agrees.module_injective rightFormed
      (leftFormed.bean_module bean beanKnown) known same⟩
  · exact fun ⟨_, same⟩ => ⟨agrees.bean_known beanKnown, congrArg _ same⟩

theorem wired_label (apart : right.NamesApart) (leftWired : left.WiredByName)
    (rightWired : right.WiredByName) {id : ModuleId} (known : id ∈ left.moduleIds) :
    (right.module (labels.module id)).wiredModules.Perm
      ((left.module id).wiredModules.map labels.module) := by
  have labelKnown := agrees.module_known known
  have view := agrees.views id known
  refine perm_of_mem_iff agrees.modules rightFormed.moduleIds_nodup (rightWired.nodup _ labelKnown)
    (leftWired.nodup id known)
    (fun sibling listed => ((leftWired.wired id known sibling).mp listed).1)
    (fun sibling listed => ((rightWired.wired _ labelKnown sibling).mp listed).1)
    fun sibling siblingKnown => ?_
  have parents : right.parent (labels.module sibling) = right.parent (labels.module id) ↔
      left.parent sibling = left.parent id := by
    rw [agrees.parent_label leftFormed rightFormed apart siblingKnown,
      agrees.parent_label leftFormed rightFormed apart known]
    constructor
    · intro same
      cases isParent : left.parent sibling with
      | none =>
          rw [isParent] at same
          exact (Option.map_eq_none_iff.mp same.symm).symm
      | some parent =>
          rw [isParent] at same
          obtain ⟨other, isOther, equal⟩ := Option.map_eq_some_iff.mp same.symm
          rw [isOther, agrees.module_injective rightFormed (leftFormed.parent_known known isOther)
            (leftFormed.parent_known siblingKnown isParent) equal]
    · exact fun same => by rw [same]
  have different : labels.module sibling ≠ labels.module id ↔ sibling ≠ id :=
    not_congr ⟨agrees.module_injective rightFormed siblingKnown known, congrArg _⟩
  have name : (right.module (labels.module sibling)).name = (left.module sibling).name :=
    congrArg ModuleView.name (agrees.views sibling siblingKnown)
  have names : (right.module (labels.module id)).wiredNames = (left.module id).wiredNames :=
    congrArg ModuleView.wiredNames view
  rw [rightWired.wired _ labelKnown, leftWired.wired id known, parents, different, name, names]
  exact and_congr_left fun _ => ⟨fun _ => siblingKnown, agrees.module_known⟩

theorem toMatches (apart : right.NamesApart) (leftWired : left.WiredByName)
    (rightWired : right.WiredByName) (leftRoots : left.roots.Nodup)
    (rightRoots : right.roots.Nodup) : labels.Matches left right where
  toCovers := agrees.toCovers
  roots := agrees.roots_label leftFormed rightFormed apart leftRoots rightRoots
  moduleRows id known := by
    refine ⟨_, _, _, agrees.children_label leftFormed rightFormed apart known,
      agrees.beans_label leftFormed rightFormed known,
      agrees.wired_label leftFormed rightFormed apart leftWired rightWired known, ?_⟩
    have isId := (rightFormed.module_mem (agrees.module_known known)).2
    have isLeft := (leftFormed.module_mem known).2
    have ancestors := agrees.ancestors_label leftFormed rightFormed apart known
    have sockets := agrees.socketsOf_label leftFormed rightFormed (.module id)
      (List.mem_append_left _ (List.mem_map_of_mem known))
      (List.mem_append_left _ (List.mem_map_of_mem (agrees.module_known known)))
    change (right.module (labels.module id)).sockets =
      (left.module id).sockets.map labels.socket at sockets
    have view := agrees.views id known
    simp only [Model.view, Model.path, ModuleView.mk.injEq] at view
    generalize right.module (labels.module id) = row at *
    cases row
    simp_all [moduleRow]
  beanRows _ := agrees.beanRow_label leftFormed rightFormed
  socketRows _ := agrees.socketRow_label leftFormed rightFormed

end Agrees

end Relabelling

/-- Reordered declarations have the same model under other labels. -/
theorem Reordered.exists_labels {left right : List ModuleDeclaration}
    (reordered : Reordered left right) (apart : (Model.ofDeclarations left).NamesApart) :
    ∃ labels : Relabelling,
      labels.Matches (Model.ofDeclarations left) (Model.ofDeclarations right) := by
  have leftFormed := Model.ofDeclarations_wellFormed left
  have rightFormed := Model.ofDeclarations_wellFormed right
  obtain ⟨labels, agrees⟩ :=
    Relabelling.exists_agrees leftFormed rightFormed apart reordered.model_views
  have rightApart := apart.of_views reordered.model_views
  exact ⟨labels, agrees.toMatches leftFormed rightFormed rightApart
    (Model.ofDeclarations_wiredByName apart) (Model.ofDeclarations_wiredByName rightApart)
    (forestRoots_nodup 0 left) (forestRoots_nodup 0 right)⟩

end StaticInjection
