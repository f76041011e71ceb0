import StaticInjection.Json.Record

/-! # Structures in values

Structures and lists are read back from the values that hold them, as long as these do
not nest deeper than the reader may enter. -/

namespace StaticInjection.Json

/-! ## Nesting -/

mutual

/-- How many arrays and objects lie inside each other. -/
def depth : Json → Nat
  | .array items => itemsDepth items + 1
  | .object fields => fieldsDepth fields + 1
  | _ => 0

def itemsDepth : List Json → Nat
  | [] => 0
  | item :: rest => max item.depth (itemsDepth rest)

def fieldsDepth : List (Option String × Json) → Nat
  | [] => 0
  | (_, value) :: rest => max value.depth (fieldsDepth rest)

end

theorem itemsDepth_le (items : List Json) (limit : Nat) :
    itemsDepth items ≤ limit ↔ ∀ item ∈ items, item.depth ≤ limit := by
  induction items with
  | nil => simp [itemsDepth]
  | cons item items later => rw [itemsDepth, Nat.max_le, later, List.forall_mem_cons]

theorem fieldsDepth_le (fields : List (Option String × Json)) (limit : Nat) :
    fieldsDepth fields ≤ limit ↔ ∀ field ∈ fields, field.2.depth ≤ limit := by
  induction fields with
  | nil => simp [fieldsDepth]
  | cons field fields later => rw [fieldsDepth, Nat.max_le, later, List.forall_mem_cons]

/-- A value that holds others is entered with one level less. -/
theorem depth_array_le (items : List Json) (limit : Nat) :
    (array items).depth ≤ limit ↔
      ∃ inner, limit = inner + 1 ∧ ∀ item ∈ items, item.depth ≤ inner := by
  cases limit with
  | zero => simp [depth]
  | succ inner => simp [depth, itemsDepth_le]

theorem depth_record_le (fields : List (String × Json)) (limit : Nat) :
    (record fields).depth ≤ limit ↔
      ∃ inner, limit = inner + 1 ∧ ∀ field ∈ fields, field.2.depth ≤ inner := by
  cases limit with
  | zero => simp [record, depth]
  | succ inner =>
    rw [record, depth, Nat.add_le_add_iff_right, fieldsDepth_le, List.forall_mem_map]
    simp

/-! ## Structures -/

theorem mapM_map_of_read {write : α → β} {read : β → Option α} (items : List α)
    (back : ∀ item ∈ items, read (write item) = some item) :
    (items.map write).mapM read = some items := by
  induction items with
  | nil => rfl
  | cons item items later =>
    obtain ⟨first, others⟩ := List.forall_mem_cons.mp back
    rw [List.map_cons, List.mapM_cons, first, later others]
    rfl

theorem asRecord_record (names : List String) (fields : List (String × Json))
    (distinct : names.Nodup) (known : (fields.map (·.1)).Sublist names) :
    asRecord names (record fields) = some fields := by
  rw [record, asRecord, mapM_map_of_read, Option.bind_eq_bind, Option.bind_some,
    List.filter_eq_self.mpr]
  · exact if_pos (distinct.sublist known)
  · intro field member
    simpa using known.subset (List.mem_map_of_mem member)
  · exact fun _ _ => rfl

theorem enter_record {names : List String} {fields : List (String × Json)} {limit : Nat}
    (distinct : names.Nodup) (known : (fields.map (·.1)).Sublist names) :
    enter names (limit + 1) (record fields) = some (fields, limit) := by
  rw [enter, asRecord_record names fields distinct known]
  rfl

@[simp] theorem lookup_cons (key name : String) (value : Json) (rest : Record) :
    List.lookup key ((name, value) :: rest) =
      if key = name then some value else rest.lookup key := by
  rw [List.lookup_cons]
  by_cases same : key = name
  · simp [same]
  · simp [same, beq_false_of_ne same]

@[simp] theorem lookup_optionalField (name key : String) (value : Option Json) :
    (optionalField name value).lookup key = if key = name then value else none := by
  cases value with
  | none => simp [optionalField]
  | some present => rw [optionalField, lookup_cons, List.lookup_nil]

theorem names_optionalField (name : String) (value : Option Json) :
    ((optionalField name value).map (·.1)).Sublist [name] := by
  cases value <;> simp [optionalField]

@[simp] theorem mem_optionalField (field : String × Json) (name : String) (value : Option Json) :
    field ∈ optionalField name value ↔ ∃ present ∈ value, field = (name, present) := by
  cases value <;> simp [optionalField]

theorem mem_optionalField_map {present : α} {value : Option α} (given : present ∈ value)
    (name : String) (write : α → Json) :
    (name, write present) ∈ optionalField name (value.map write) :=
  (mem_optionalField _ _ _).mpr ⟨write present, Option.mem_map_of_mem write given, rfl⟩

theorem forall_mem_optionalField {name : String} {value : Option Json}
    {holds : String × Json → Prop} :
    (∀ field ∈ optionalField name value, holds field) ↔
      ∀ present ∈ value, holds (name, present) := by
  cases value <;> simp [optionalField]

/-! ## Values that may be missing -/

/-- What `getOption` makes of the value that it finds. -/
def asOptional (read : Json → Option α) : Option Json → Option (Option α)
  | none => some none
  | some .null => some none
  | some value => (read value).map some

@[simp] theorem Record.getOption_eq (record : Record) (name : String) (read : Json → Option α) :
    record.getOption name read = asOptional read (record.lookup name) :=
  rfl

theorem asOptional_map {value : Option α} {write : α → Json} {read : Json → Option α}
    (notNull : ∀ content, write content ≠ .null)
    (back : ∀ content ∈ value, read (write content) = some content) :
    asOptional read (value.map write) = some value := by
  cases value with
  | none => rfl
  | some content =>
    rw [Option.map_some, asOptional, back content rfl, Option.map_some]
    exact notNull content

/-! ## Scalars -/

@[simp] theorem asText_text (content : String) : asText (text content) = some content := rfl

@[simp] theorem asBool_bool (value : Bool) : asBool (bool value) = some value := rfl

@[simp] theorem asUInt32_number (value : UInt32) :
    asUInt32 (number value.toNat) = some value := by
  have small : value.toNat < UInt32.size := value.toNat_lt
  simp [asUInt32, number, asNat, small]

@[simp] theorem asWord_text (ofWord? : String → Option α) (limit : Nat) (word : String) :
    asWord ofWord? limit (text word) = ofWord? word := by
  cases limit <;> rfl

@[simp] theorem asOptional_text (value : Option String) :
    asOptional asText (value.map text) = some value :=
  asOptional_map nofun fun _ _ => rfl

/-! ## Lists -/

theorem asList_map {write : α → Json} {read : Nat → Json → Option α} {items : List α}
    {limit : Nat} (shallow : (array (items.map write)).depth ≤ limit)
    (back : ∀ item ∈ items, ∀ inner < limit, (write item).depth ≤ inner →
      read inner (write item) = some item) :
    asList read limit (array (items.map write)) = some items := by
  obtain ⟨inner, rfl, within⟩ := (depth_array_le _ _).mp shallow
  exact mapM_map_of_read items fun item member =>
    back item member inner (Nat.lt_succ_self inner) (within _ (List.mem_map_of_mem member))

theorem asTexts_texts {contents : List String} {limit : Nat}
    (shallow : (texts contents).depth ≤ limit) :
    asTexts limit (texts contents) = some contents :=
  asList_map shallow fun _ _ _ _ _ => rfl

end StaticInjection.Json
