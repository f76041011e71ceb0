import Mathlib.Data.List.Forall2
import StaticInjection.Code.ModuleCode

/-! # Shapes

What a value is, apart from the types of the application: one shared value, possibly
one, several, a factory, a cell. The shapes of locals are read off the types with which
code declares them, and rules say which shapes values have. A value that cannot occur
has none. -/

namespace StaticInjection.Code

inductive Shape where
  | one
  | optional
  | several
  | factory
  | cell
  | issued
deriving DecidableEq, Repr

def ValueType.shape : ValueType → Shape
  | one _ => .one
  | optional _ => .optional
  | several _ => .several
  | factory _ => .factory
  | cell _ => .cell
  | issued _ => .issued

/-! ## Locals -/

def Gathering.shape (gathering : Gathering) : Local × Shape :=
  (gathering.target, (ValueType.several gathering.type).shape)

namespace BuildStep

/-- The locals that a step declares, those inside of a factory too. -/
def shapes : BuildStep → List (Local × Shape)
  | singleton bean construction _ =>
    construction.gatherings.map (·.shape) ++ [(⟨.singleton, bean⟩, .one)]
  | perRequest bean type tracked _ construction _ =>
    construction.gatherings.map (·.shape) ++
      (if tracked then [(⟨.issued, bean⟩, (ValueType.issued type).shape)] else []) ++
      [(⟨.factory, bean⟩, (ValueType.factory type).shape)]
  | child name _ _ gatherings _ => gatherings.map (·.shape) ++ [(⟨.child, name⟩, .one)]

end BuildStep

namespace ModuleCode

/-- The locals of the constructor. An input has the shape of its field. -/
def shapes (code : ModuleCode) : List (Local × Shape) :=
  ((code.constructor.bindings.zip code.inputs).map fun (binding, field) =>
    (binding.2, field.type.shape)) ++
  (code.constructor.cells.map fun (cell, type) => (cell, (ValueType.cell type).shape)) ++
  code.constructor.steps.flatMap (·.shapes)

def shape? (code : ModuleCode) (name : Local) : Option Shape :=
  code.shapes.lookup name

theorem shape?_of_mem {code : ModuleCode} {name : Local} {shape : Shape}
    (member : (name, shape) ∈ code.shapes)
    (agree : ∀ other, (name, other) ∈ code.shapes → other = shape) :
    code.shape? name = some shape := by
  cases found : code.shape? name with
  | none =>
      have missed := List.lookup_eq_none_iff.mp found _ member
      simp at missed
  | some other =>
      obtain ⟨before, after, split, _⟩ := List.lookup_eq_some_iff.mp found
      exact congrArg some (agree other (by simp [split]))

end ModuleCode

/-! ## Values -/

/-- The shapes of values over the shapes of locals. -/
inductive Value.HasShape (locals : Local → Option Shape) : Value → Shape → Prop
  | cloneOf {source : Local} {shape : Shape} : locals source = some shape →
      HasShape locals (.cloneOf source) shape
  | callOf {source : Local} : locals source = some .factory → HasShape locals (.callOf source) .one
  | beanOf {child : Local} {through : List String} {bean : String} : locals child = some .one →
      HasShape locals (.beanOf child through bean) .one
  | factoryOf {child : Local} {through : List String} {bean : String} :
      locals child = some .one → HasShape locals (.factoryOf child through bean) .factory
  | coerced {value : Value} {type : String} : HasShape locals value .one →
      HasShape locals (.coerced value type) .one
  | present {value : Value} : HasShape locals value .one → HasShape locals (.present value) .optional
  | absent : HasShape locals .absent .optional
  | whole {source : Local} {shape : Shape} : locals source = some shape →
      HasShape locals (.whole source) shape

/-- The value and the values that it is made of. -/
def Value.parts : Value → List Value
  | coerced value type => .coerced value type :: value.parts
  | present value => .present value :: value.parts
  | value => [value]

theorem Value.HasShape.possible {locals : Local → Option Shape} {value : Value} {shape : Shape}
    (hasShape : value.HasShape locals shape) : .impossible ∉ value.parts := by
  induction hasShape with
  | coerced _ induction => simpa [parts] using induction
  | present _ induction => simpa [parts] using induction
  | _ => simp [parts]

theorem exists_of_forall₂ {related : α → β → Prop} {left : List α} {right : List β}
    (all : List.Forall₂ related left right) : ∀ item ∈ left, ∃ other, related item other := by
  induction all with
  | nil => exact fun _ member => by cases member
  | cons head _ induction =>
      intro item member
      rcases List.mem_cons.mp member with rfl | later
      · exact ⟨_, head⟩
      · exact induction item later

/-- What is added to a collection has the shape that its kind of addition takes. -/
def GatherStep.Fits (locals : Local → Option Shape) : GatherStep → Prop
  | push value => value.HasShape locals .one
  | extendOptional source => locals source = some .optional
  | extendAll source => locals source = some .several

/-- What a cell is filled with has the shape that its kind of filling takes. -/
def Patch.Fits (locals : Local → Option Shape) : Patch → Prop
  | fill cell value => locals cell = some .cell ∧ value.HasShape locals .one
  | fillOptional cell source => locals cell = some .cell ∧ locals source = some .optional

/-! ## Where values are passed -/

def GatherStep.value? : GatherStep → Option Value
  | push value => some value
  | extendOptional _ => none
  | extendAll _ => none

def Patch.value? : Patch → Option Value
  | fill _ value => some value
  | fillOptional _ _ => none

namespace BuildStep

def gatherings : BuildStep → List Gathering
  | singleton _ construction _ => construction.gatherings
  | perRequest _ _ _ _ construction _ => construction.gatherings
  | child _ _ _ gatherings _ => gatherings

/-- The values passed to the constructor of a bean. -/
def arguments : BuildStep → List Value
  | singleton _ construction _ => construction.arguments
  | perRequest _ _ _ _ construction _ => construction.arguments
  | child _ _ _ _ _ => []

/-- The inputs of a child with the values passed for them. -/
def fields : BuildStep → List (String × Value)
  | singleton _ _ _ => []
  | perRequest _ _ _ _ _ _ => []
  | child _ _ _ _ fields => fields

end BuildStep

/-- The values that a step adds to collections and passes on. -/
def BuildStep.values (step : BuildStep) : List Value :=
  step.gatherings.flatMap (fun gathering => gathering.steps.filterMap GatherStep.value?) ++
    step.arguments ++ step.fields.map (·.2)

/-- The values in a constructor. -/
def Constructor.values (constructor : Constructor) : List Value :=
  constructor.steps.flatMap (·.values) ++ constructor.patches.filterMap Patch.value?

section Values

variable {locals : Local → Option Shape} {constructor : Constructor}

theorem GatherStep.Fits.hasShape {step : GatherStep} (fits : step.Fits locals) {value : Value}
    (pushed : step.value? = some value) : value.HasShape locals .one := by
  cases step <;> cases pushed
  exact fits

theorem Patch.Fits.hasShape {patch : Patch} (fits : patch.Fits locals) {value : Value}
    (filled : patch.value? = some value) : value.HasShape locals .one := by
  cases patch <;> cases filled
  exact fits.2

theorem BuildStep.mem_values {step : BuildStep} {value : Value} :
    value ∈ step.values ↔
      (∃ gathering ∈ step.gatherings, ∃ gather ∈ gathering.steps, gather.value? = some value) ∨
        value ∈ step.arguments ∨ ∃ passed ∈ step.fields, passed.2 = value := by
  simp only [values, List.mem_append, List.mem_flatMap, List.mem_filterMap, List.mem_map, or_assoc]

/-- Whatever fits can occur. -/
theorem BuildStep.values_possible {step : BuildStep}
    (gathered : ∀ gathering ∈ step.gatherings, ∀ gather ∈ gathering.steps, gather.Fits locals)
    (passed : ∀ value ∈ step.arguments, ∃ shape, value.HasShape locals shape)
    (handed : ∀ field ∈ step.fields, ∃ shape, field.2.HasShape locals shape) :
    ∀ value ∈ step.values, .impossible ∉ value.parts := by
  intro value listed
  rcases mem_values.mp listed with ⟨gathering, inside, gather, added, pushed⟩ | argument |
    ⟨field, given, rfl⟩
  · exact ((gathered gathering inside gather added).hasShape pushed).possible
  · obtain ⟨_, hasShape⟩ := passed value argument
    exact hasShape.possible
  · obtain ⟨_, hasShape⟩ := handed field given
    exact hasShape.possible

theorem Constructor.mem_values {value : Value} :
    value ∈ constructor.values ↔ (∃ step ∈ constructor.steps, value ∈ step.values) ∨
      ∃ patch ∈ constructor.patches, patch.value? = some value := by
  simp [values]

end Values

end StaticInjection.Code
