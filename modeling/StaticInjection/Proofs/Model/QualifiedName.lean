import StaticInjection.Proofs.Model.Named
import StaticInjection.Proofs.Scope.Visibility

/-! # Qualified names

Identifiers have no colons, so in a model without faults a qualified name is told apart
into the path of a module and a name. The beans of a module have names of their own, and
so have its inputs, but a bean may be named as an input. Only such a pair shares its
qualified name. -/

namespace StaticInjection

namespace Model

/-- A bean and an input of one module that have one name. -/
structure Namesakes (model : Model) (left right : Provider) : Prop where
  kinds : left.bean?.isSome ≠ right.bean?.isSome
  modules : model.providerModule left = model.providerModule right
  names : model.providerName left = model.providerName right

variable {model : Model}

theorem Namesakes.symm {left right : Provider} (namesakes : model.Namesakes left right) :
    model.Namesakes right left :=
  ⟨namesakes.kinds.symm, namesakes.modules.symm, namesakes.names.symm⟩

theorem Namesakes.qualifiedName_eq {left right : Provider}
    (namesakes : model.Namesakes left right) :
    model.qualifiedName left = model.qualifiedName right := by
  rw [qualifiedName, qualifiedName, namesakes.modules, namesakes.names]

namespace WellFormed

variable (wellFormed : model.WellFormed) (faultless : model.Faultless)

include wellFormed faultless

/-! ## Colons -/

theorem providerName_valid {provider : Provider} (offered : model.Offers provider) :
    Naming.isIdentifier (model.providerName provider) = true := by
  cases provider with
  | bean id =>
      have clean := faultless.bean id offered
      simp only [ownBeanFaults, List.append_eq_nil_iff, faultIf_eq_nil, Bool.not_eq_false'] at clean
      exact clean.1.1
  | socket id =>
      rcases wellFormed.owner_module id offered.1 _ offered.2 with ⟨known, _⟩
      have clean := faultless.moduleSocket _ known id
        ((wellFormed.moduleSockets _ known id).mpr offered)
      simp only [moduleSocketFaults, socketFaults, List.append_eq_nil_iff, faultIf_eq_nil,
        Bool.not_eq_false'] at clean
      exact clean.1.1.1

theorem colon_not_mem_path {id : ModuleId} (known : id ∈ model.moduleIds) :
    ':' ∉ (model.path id).toList := by
  rw [wellFormed.mem_path known (by decide)]
  rintro ⟨above, within, colon⟩
  have valid := faultless.moduleName_valid (wellFormed.isWithin_known known within)
  exact absurd (Naming.isLetterOrDigit_of_mem valid colon) (by decide)

theorem colon_not_mem_providerName {provider : Provider} (offered : model.Offers provider) :
    ':' ∉ (model.providerName provider).toList := by
  intro colon
  have valid := wellFormed.providerName_valid faultless offered
  exact absurd (Naming.isLetterOrDigit_of_mem valid colon) (by decide)

/-! ## Shared names -/

/-- A qualified name falls apart at its colon. -/
theorem qualifiedName_eq_iff {provider : Provider} (offered : model.Offers provider)
    {path name : String} : model.qualifiedName provider = path ++ ":" ++ name ↔
      model.path (model.providerModule provider) = path ∧ model.providerName provider = name := by
  have inPath := wellFormed.colon_not_mem_path faultless (wellFormed.providerModule_known offered)
  have inName := wellFormed.colon_not_mem_providerName faultless offered
  constructor
  · intro same
    have lists : (model.path (model.providerModule provider)).toList ++
        ':' :: (model.providerName provider).toList = path.toList ++ ':' :: name.toList := by
      simpa [qualifiedName] using congrArg String.toList same
    rcases (List.append_cons_inj_of_notMem inPath inName).mp lists with ⟨paths, _, names⟩
    exact ⟨String.toList_inj.mp paths, String.toList_inj.mp names⟩
  · rintro ⟨rfl, rfl⟩
    rfl

theorem qualifiedName_inj_iff {left right : Provider} (leftOffered : model.Offers left)
    (rightOffered : model.Offers right) : model.qualifiedName left = model.qualifiedName right ↔
      left = right ∨ model.Namesakes left right := by
  constructor
  · intro same
    rcases (wellFormed.qualifiedName_eq_iff faultless leftOffered).mp same with ⟨paths, names⟩
    have apart := faultless.toldApart wellFormed
    have modules := apart.eq_of_path (wellFormed.providerModule_known leftOffered)
      (wellFormed.providerModule_known rightOffered) paths
    cases left with
    | bean left =>
        cases right with
        | bean right =>
            exact .inl (congrArg Provider.bean
              (apart.eq_of_bean wellFormed leftOffered rightOffered paths names))
        | socket right => exact .inr ⟨by simp [Provider.bean?], modules, names⟩
    | socket left =>
        cases right with
        | bean right => exact .inr ⟨by simp [Provider.bean?], modules, names⟩
        | socket right =>
            have owners : model.ownerName? (model.socket left) =
                model.ownerName? (model.socket right) := by
              rw [ownerName?, ownerName?, leftOffered.2, rightOffered.2]
            exact .inl (congrArg Provider.socket
              (apart.eq_of_socket wellFormed leftOffered.1 rightOffered.1 paths owners names))
  · rintro (rfl | namesakes)
    · rfl
    · exact namesakes.qualifiedName_eq

end WellFormed

end Model

end StaticInjection
