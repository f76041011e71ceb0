import StaticInjection.Proofs.Graph.Cycle
import StaticInjection.Proofs.Plan.Flatten

/-! # Needs through others

A bean may need another one through further beans and through inputs of modules. While
such a chain stays in the subtree of a module, the sequence that builds the subtree
respects it: an input hands a need on to everything inside the module that has it. -/

namespace StaticInjection

/-- Standing one behind the other is transitive where nothing stands twice. -/
theorem pair_sublist_trans {α : Type} {items : List α} (nodup : items.Nodup)
    {left middle right : α} (first : [left, middle].Sublist items)
    (second : [middle, right].Sublist items) : [left, right].Sublist items := by
  obtain ⟨front, back, split, isLeft, isMiddle⟩ := List.cons_sublist_iff.mp first
  obtain ⟨before, after, rfl, middleBefore, isRight⟩ := List.cons_sublist_iff.mp second
  refine (List.singleton_sublist.mpr ?_).append isRight
  rcases List.append_eq_append_iff.mp split with ⟨more, rfl, _⟩ | ⟨more, rfl, _⟩
  · -- The middle one would stand in both halves.
    have apart := (List.nodup_append.mp (split ▸ nodup)).2.2
    exact absurd rfl (apart middle (List.mem_append_left _ middleBefore) middle
      (List.singleton_sublist.mp isMiddle))
  · exact List.mem_append_left _ isLeft

namespace Model

/-- A need between providers in the subtree of a module. -/
def NeedsInside (model : Model) (id : ModuleId) (source target : Provider) : Prop :=
  model.graph.Needs source target ∧
    model.isWithin (model.providerModule source) id = true ∧
    model.isWithin (model.providerModule target) id = true

variable {model : Model} (wellFormed : model.WellFormed)

include wellFormed

/-- A need comes from a wire, whose scope may use the target. -/
theorem exists_wire_of_needs {source target : Provider}
    (needs : model.graph.Needs source target) :
    ∃ wire ∈ model.wires.wires, wire.isLazy = false ∧ model.requirer wire.socket = source ∧
      target ∈ wire.targets ∧ ∃ scope ∈ model.moduleIds, model.Wired scope wire := by
  obtain ⟨_, _, wire, member, eager, isSource, listed⟩ := needs_iff.mp needs
  obtain ⟨scope, known, wired⟩ := wellFormed.wired_of_mem member
  exact ⟨wire, member, eager, isSource, listed, scope, known, wired⟩

/-- What an input of a module needs lies outside the module. -/
theorem input_needs_outside {socket : SocketId} {target : Provider}
    (needs : model.graph.Needs (.socket socket) target) :
    model.isWithin (model.providerModule target) (model.socket socket).module = false := by
  obtain ⟨wire, isWire, _, isSource, listed, _⟩ := exists_wire_of_needs wellFormed needs
  exact input_outside wellFormed isWire listed isSource

omit wellFormed in
/-- An input is used only by what is resolved in its own module. -/
theorem input_of_scope {scope : ModuleId} {wire : Wire} (wired : model.Wired scope wire)
    {socket : SocketId} (listed : .socket socket ∈ wire.targets) :
    (model.socket socket).module = scope := by
  by_contra elsewhere
  have isPublic := (wired.suits _ listed).isPublic elsewhere
  cases isPublic

/-- Beans that are built for the source of a need lie in the subtree of its scope. -/
theorem BuiltFor.within_scope {id scope : ModuleId} {bean : BeanId} (known : bean ∈ model.beanIds)
    {wire : Wire} (wired : model.Wired scope wire)
    (built : model.BuiltFor id bean (model.requirer wire.socket)) :
    model.isWithin (model.bean bean).module scope = true := by
  cases owned : (model.socket wire.socket).owner with
  | bean owner =>
      rw [requirer_of_bean owned] at built
      obtain ⟨rfl, _⟩ := built
      exact scope_of_bean owned wired.wiring ▸ WellFormed.isWithin_self _
  | module owner =>
      rw [requirer_of_module owned] at built
      obtain ⟨ownerKnown, place⟩ := wellFormed.owner_module _ wired.known owner owned
      have below := built.2.2
      rw [place] at below
      exact wellFormed.isWithin_trans (wellFormed.bean_module bean known) below
        (wellFormed.isWithin_parent ownerKnown (scope_of_module owned wired.wiring))

/-- A chain inside a subtree is respected by the sequence that builds it. -/
theorem BuildsAll.respects_chain {id : ModuleId} {beans : List BeanId}
    (builds : model.BuildsAll id beans) {source : Provider} {target : BeanId}
    (chain : Relation.TransGen (model.NeedsInside id) source (.bean target)) :
    ∀ bean ∈ model.beanIds, model.BuiltFor id bean source → [target, bean].Sublist beans := by
  have direct : ∀ {source : Provider} {middle : BeanId},
      model.NeedsInside id source (.bean middle) → ∀ bean ∈ model.beanIds,
        model.BuiltFor id bean source → [middle, bean].Sublist beans := by
    rintro source middle ⟨⟨edge, member, eager, rfl, isTarget⟩, _, within⟩ bean known built
    exact builds.ordered edge member eager middle isTarget within bean known built
  induction chain using Relation.TransGen.head_induction_on with
  | single needs => exact direct needs
  | @head source middle needs rest induction =>
      intro bean known built
      cases middle with
      | bean middle =>
          have middleKnown : middle ∈ model.beanIds :=
            wellFormed.mem_graphNodes.mp (needs_iff.mp needs.1).2.1
          exact pair_sublist_trans builds.nodup
            (induction middle middleKnown ⟨rfl, needs.2.2⟩) (direct needs bean known built)
      | socket socket =>
          refine induction bean known ⟨fun same => ?_, needs.2.2, ?_⟩
          · obtain ⟨next, ⟨onward, _, within⟩, _⟩ := Relation.TransGen.head'_iff.mp rest
            have outside := input_needs_outside wellFormed onward
            rw [same, within] at outside
            cases outside
          · obtain ⟨wire, _, _, isSource, listed, scope, _, wired⟩ :=
              exists_wire_of_needs wellFormed needs.1
            rw [input_of_scope wired listed]
            exact (isSource ▸ built).within_scope wellFormed known wired

end Model

end StaticInjection
