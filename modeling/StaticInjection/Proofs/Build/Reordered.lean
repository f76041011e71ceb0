import StaticInjection.Proofs.Build.Matching
import StaticInjection.Proofs.Model.Counterpart
import StaticInjection.Proofs.Model.Named

/-! # Builds of declarations in another order

The order in which roots, children and beans are declared decides their numbers, which
candidate comes first, and what is reported first. Whether anything is reported, and
what the sockets are wired to when nothing is, does not depend on it. -/

namespace StaticInjection

namespace Reordered

variable {left right : List ModuleDeclaration} (reordered : Reordered left right)

include reordered

theorem exists_labels_of_silent (silent : (Model.ofDeclarations left).Silent) :
    ∃ labels : Relabelling,
      labels.Matches (Model.ofDeclarations left) (Model.ofDeclarations right) :=
  reordered.exists_labels
    (silent.faultless.toldApart (Model.ofDeclarations_wellFormed left)).toNamesApart

theorem silent (silent : (Model.ofDeclarations left).Silent) :
    (Model.ofDeclarations right).Silent := by
  obtain ⟨labels, matched⟩ := reordered.exists_labels_of_silent silent
  exact matched.silent_label (Model.ofDeclarations_wellFormed left)
    (Model.ofDeclarations_wellFormed right) (Model.dependencyGraph_laid left _)
    (Model.dependencyGraph_laid right _) silent

end Reordered

/-- Targets have one order where there is at most one. -/
theorem Multiplicity.Allows.eq_of_perm {multiplicity : Multiplicity} {targets others : List Provider}
    (allowed : multiplicity.Allows targets) (few : multiplicity ≠ .collection)
    {label : Provider → Provider} (perm : others.Perm (targets.map label)) :
    others = targets.map label := by
  have atMostOne : targets.length ≤ 1 := by
    cases multiplicity with
    | single =>
        obtain ⟨only, rfl⟩ := allowed
        exact Nat.le_refl 1
    | optional => exact allowed
    | collection => exact absurd rfl few
  match targets, atMostOne with
  | [], _ => exact List.perm_nil.mp perm
  | [only], _ => exact List.perm_singleton.mp perm

/-- The order of roots, children and beans makes no difference to whether anything is
reported. Where nothing is, modules, beans and sockets have counterparts, and sockets
are wired to the counterparts of the targets of their own: to the same one, or in a
collection to the same ones. -/
theorem reordered_builds_alike {left right : List ModuleDeclaration}
    (reordered : Reordered left right) (header : String) :
    let first := Model.ofDeclarations left
    let second := Model.ofDeclarations right
    ((Build.ofDeclarations left header).diagnostics = [] ↔
      (Build.ofDeclarations right header).diagnostics = []) ∧
    ((Build.ofDeclarations left header).diagnostics = [] →
      (∃ labels : Relabelling, labels.Matches first second) ∧
      ∀ labels : Relabelling, labels.Matches first second → ∀ id ∈ first.socketIds,
        (first.wiringModule? id = none ∧ first.wires.get? id = none ∧
          second.wires.get? (labels.socket id) = none) ∨
        ∃ wire other, first.wires.get? id = some wire ∧
          second.wires.get? (labels.socket id) = some other ∧ other.isLazy = wire.isLazy ∧
          ((first.socket id).multiplicity ≠ .collection →
            other.targets = wire.targets.map labels.provider) ∧
          other.targets.Perm (wire.targets.map labels.provider)) := by
  intro first second
  have leftFormed := Model.ofDeclarations_wellFormed left
  have rightFormed := Model.ofDeclarations_wellFormed right
  have leftSilent : (Build.ofDeclarations left header).diagnostics = [] ↔ first.Silent :=
    Model.diagnostics_eq_nil_iff leftFormed (Model.dependencyGraph_laid left _) header
  have rightSilent : (Build.ofDeclarations right header).diagnostics = [] ↔ second.Silent :=
    Model.diagnostics_eq_nil_iff rightFormed (Model.dependencyGraph_laid right _) header
  rw [leftSilent, rightSilent]
  refine ⟨⟨reordered.silent, reordered.symm.silent⟩, fun silent =>
    ⟨reordered.exists_labels_of_silent silent, fun labels matched id inside => ?_⟩⟩
  cases wiring : first.wiringModule? id with
  | none =>
      have other := matched.wiringModule?_label leftFormed inside
      rw [wiring, Option.map_none] at other
      exact .inl ⟨rfl, leftFormed.get?_of_unwired wiring, rightFormed.get?_of_unwired other⟩
  | some scope =>
      obtain ⟨wire, other, found, otherFound, same⟩ :=
        matched.wires_label leftFormed rightFormed silent inside wiring
      refine .inr ⟨wire, other, found, otherFound, same.isLazy, fun few => ?_, same.targets⟩
      obtain ⟨member, rfl⟩ := WireSet.get?_eq_some.mp found
      obtain ⟨_, _, wired⟩ := leftFormed.wired_of_mem member
      exact wired.allowed.eq_of_perm few same.targets

/-- Two roots in some order, of which the first has two beans and two children in some
order. -/
def sampleShop (roots modules : List ModuleDeclaration → List ModuleDeclaration)
    (beans : List BeanDeclaration → List BeanDeclaration) : List ModuleDeclaration :=
  let pool : BeanDeclaration :=
    { name := "pool", declaredType := .ofText "Pool", visibility := .isPublic }
  let orders : BeanDeclaration :=
    { name := "orders", declaredType := .ofText "Orders", visibility := .isPublic
      provides := [.ofText "dyn Route"] }
  let prices : BeanDeclaration :=
    { name := "prices", declaredType := .ofText "Prices", visibility := .isPublic
      provides := [.ofText "dyn Route"] }
  let server : BeanDeclaration :=
    { name := "server", declaredType := .ofText "Server"
      sockets := [{ name := "pool", requiredType := .ofText "Pool" },
        { name := "routes", requiredType := .ofText "dyn Route", multiplicity := .collection }] }
  let catalog : ModuleDeclaration := { name := "catalog", beans := [prices] }
  let web : ModuleDeclaration :=
    { name := "web", beans := beans [server, orders]
      modules := modules [catalog, { name := "cart" }], wiredModules := ["data"] }
  roots [web, { name := "data", beans := [pool] }]

theorem sampleShop_reordered :
    Reordered (sampleShop id id id) (sampleShop List.reverse List.reverse List.reverse) :=
  have beans := (List.reverse_perm _).symm
  have modules := Reordered.of_perm (List.reverse_perm _).symm
  .trans (.cons beans modules (.refl _)) (.of_perm (List.reverse_perm _).symm)

set_option maxRecDepth 100000 in
/-- The pool and the routes have other numbers, and the server has the same ones. -/
theorem sampleShop_builds_alike :
    let first := Model.ofDeclarations (sampleShop id id id)
    let second := Model.ofDeclarations (sampleShop List.reverse List.reverse List.reverse)
    Reordered (sampleShop id id id) (sampleShop List.reverse List.reverse List.reverse) ∧
      (Build.ofDeclarations (sampleShop List.reverse List.reverse List.reverse) "").diagnostics = [] ∧
      first.wires.wires.map (·.targets) = [[.bean ⟨3⟩], [.bean ⟨1⟩, .bean ⟨2⟩]] ∧
      second.wires.wires.map (·.targets) = [[.bean ⟨0⟩], [.bean ⟨1⟩, .bean ⟨3⟩]] ∧
      ∃ labels : Relabelling, labels.Matches first second ∧ ∃ wire other,
        first.wires.get? ⟨1⟩ = some wire ∧ second.wires.get? (labels.socket ⟨1⟩) = some other ∧
          other.targets.Perm (wire.targets.map labels.provider) := by
  intro first second
  have accepted : (Build.ofDeclarations (sampleShop id id id) "").diagnostics = [] := by
    decide +kernel
  obtain ⟨same, alike⟩ := reordered_builds_alike sampleShop_reordered ""
  obtain ⟨⟨labels, matched⟩, wired⟩ := alike accepted
  refine ⟨sampleShop_reordered, same.mp accepted, by decide +kernel, by decide +kernel, labels,
    matched, ?_⟩
  rcases wired labels matched ⟨1⟩ (by decide +kernel) with
    ⟨unwired, _⟩ | ⟨wire, other, found, otherFound, _, _, targets⟩
  · exact absurd unwired (by decide +kernel)
  · exact ⟨wire, other, found, otherFound, targets⟩

end StaticInjection
