import StaticInjection.Declaration.Json
import StaticInjection.Proofs.Json.Record
import StaticInjection.Proofs.Json.Value

/-! # Documents read back

Each part of a document is read back from the value that is written for it, unless the
value nests deeper than the reader may enter. The parts are read field by field, so
what is shown of each is what its fields give. -/

namespace StaticInjection

open Json

@[simp] theorem TypeName.ofJson?_toJson (name : TypeName) : ofJson? name.toJson = some name := by
  simp [ofJson?, toJson]

namespace SourcePosition

theorem ofJson?_toJson (position : SourcePosition) {limit : Nat}
    (shallow : position.toJson.depth ≤ limit) :
    ofJson? limit position.toJson = some position := by
  obtain ⟨inner, rfl, -⟩ := (depth_record_le _ _).mp shallow
  rw [ofJson?, toJson, enter_record]
  case distinct => decide
  case known => exact .refl _
  simp [Record.require]

theorem asOptional_toJson (position : Option SourcePosition) {limit : Nat}
    (shallow : ∀ present ∈ position, present.toJson.depth ≤ limit) :
    asOptional (ofJson? limit) (position.map toJson) = some position :=
  asOptional_map nofun fun present given => present.ofJson?_toJson (shallow present given)

end SourcePosition

namespace SocketDeclaration

theorem ofJson?_toJson (socket : SocketDeclaration) {limit : Nat}
    (shallow : socket.toJson.depth ≤ limit) : ofJson? limit socket.toJson = some socket := by
  obtain ⟨inner, rfl, within⟩ := (depth_record_le _ _).mp shallow
  have wiredTo := asTexts_texts (within ("wired_to", texts socket.wiredTo) (by simp))
  have position := SourcePosition.asOptional_toJson socket.position fun present given =>
    within _ (List.mem_append_right _ (mem_optionalField_map given _ _))
  rw [ofJson?, toJson, enter_record]
  case distinct => decide
  case known =>
    -- A field is only left out, so the others stay in the order of their names.
    simp only [List.map_append]
    exact (((List.Sublist.refl _).append (names_optionalField _ _)).append (.refl _)).append
      (names_optionalField _ _)
  simp [Record.get, List.lookup_append, wiredTo, position]

end SocketDeclaration

namespace BeanDeclaration

theorem ofJson?_toJson (bean : BeanDeclaration) {limit : Nat}
    (shallow : bean.toJson.depth ≤ limit) : ofJson? limit bean.toJson = some bean := by
  obtain ⟨inner, rfl, within⟩ := (depth_record_le _ _).mp shallow
  have provides := asList_map
    (within ("provides", .array (bean.provides.map (·.toJson))) (by simp))
    fun type _ _ _ _ => type.ofJson?_toJson
  have init := asTexts_texts (within ("init", texts bean.init) (by simp))
  have destroy := asTexts_texts (within ("destroy", texts bean.destroy) (by simp))
  have sockets := asList_map (within ("sockets", .array (bean.sockets.map (·.toJson))) (by simp))
    fun socket _ _ _ shallow => socket.ofJson?_toJson shallow
  have position := SourcePosition.asOptional_toJson bean.position fun present given =>
    within _ (List.mem_append_right _ (mem_optionalField_map given _ _))
  rw [ofJson?, toJson, enter_record]
  case distinct => decide
  case known =>
    simp only [List.map_append]
    exact (((((List.Sublist.refl _).append (names_optionalField _ _)).append (.refl _)).append
      (names_optionalField _ _)).append (.refl _)).append (names_optionalField _ _)
  -- One field at a time: all binds at once would be rewritten again below each other.
  refine Option.bind_eq_some_iff.mpr ⟨_, rfl, ?_⟩
  refine Option.bind_eq_some_iff.mpr ⟨bean.name, by simp [Record.get], ?_⟩
  refine Option.bind_eq_some_iff.mpr ⟨bean.declaredType, by simp [Record.get], ?_⟩
  refine Option.bind_eq_some_iff.mpr ⟨bean.provides, by simp [Record.get, provides], ?_⟩
  refine Option.bind_eq_some_iff.mpr ⟨bean.qualifier, by simp [List.lookup_append], ?_⟩
  refine Option.bind_eq_some_iff.mpr
    ⟨bean.lifetime, by simp [Record.get, List.lookup_append], ?_⟩
  refine Option.bind_eq_some_iff.mpr
    ⟨bean.visibility, by simp [Record.get, List.lookup_append], ?_⟩
  refine Option.bind_eq_some_iff.mpr
    ⟨bean.isDefault, by simp [Record.get, List.lookup_append], ?_⟩
  refine Option.bind_eq_some_iff.mpr ⟨bean.factory, by simp [List.lookup_append], ?_⟩
  refine Option.bind_eq_some_iff.mpr
    ⟨bean.init, by simp [Record.get, List.lookup_append, init], ?_⟩
  refine Option.bind_eq_some_iff.mpr
    ⟨bean.destroy, by simp [Record.get, List.lookup_append, destroy], ?_⟩
  refine Option.bind_eq_some_iff.mpr
    ⟨bean.sockets, by simp [Record.get, List.lookup_append, sockets], ?_⟩
  exact Option.bind_eq_some_iff.mpr
    ⟨bean.position, by simp [List.lookup_append, position], rfl⟩

end BeanDeclaration

namespace ModuleDeclaration

theorem forestJson_eq_map (modules : List ModuleDeclaration) :
    forestJson modules = modules.map toJson := by
  induction modules with
  | nil => rfl
  | cons module modules later => rw [forestJson, later, List.map_cons]

theorem toJson_eq (module : ModuleDeclaration) :
    module.toJson = .record (
      [("name", .text module.name),
        ("beans", .array (module.beans.map (·.toJson))),
        ("sockets", .array (module.sockets.map (·.toJson))),
        ("modules", .array (module.modules.map (·.toJson))),
        ("wired_modules", .texts module.wiredModules)] ++
      optionalField "position" (module.position.map (·.toJson))) := by
  cases module
  rw [toJson, forestJson_eq_map]

/-- A list of child modules is read like any other list. -/
theorem forestOfJson?_eq_asList (limit : Nat) : forestOfJson? limit = asList ofJson? limit := by
  funext value
  cases limit <;> cases value <;> rfl

theorem ofJson?_eq_enter (limit : Nat) (value : Json) :
    ofJson? limit value = do
      let (record, limit) ← enter fieldNames limit value
      let name ← record.get "name" "" asText
      let beans ← record.get "beans" [] (asList BeanDeclaration.ofJson? limit)
      let sockets ← record.get "sockets" [] (asList SocketDeclaration.ofJson? limit)
      let modules ← record.get "modules" [] (asList ofJson? limit)
      let wiredModules ← record.get "wired_modules" [] (asTexts limit)
      let position ← record.getOption "position" (SourcePosition.ofJson? limit)
      return { name, beans, sockets, modules, wiredModules, position } := by
  cases limit with
  | zero => rfl
  | succ limit =>
    rw [ofJson?, enter, forestOfJson?_eq_asList]
    cases asRecord fieldNames value <;> rfl

theorem ofJson?_toJson (module : ModuleDeclaration) {limit : Nat}
    (shallow : module.toJson.depth ≤ limit) : ofJson? limit module.toJson = some module := by
  -- Children lie two levels deeper, so the induction is on the levels that may be entered.
  induction limit using Nat.strong_induction_on generalizing module with
  | _ limit children =>
    rw [toJson_eq] at shallow ⊢
    obtain ⟨inner, rfl, within⟩ := (depth_record_le _ _).mp shallow
    have beans := asList_map (within ("beans", .array (module.beans.map (·.toJson))) (by simp))
      fun bean _ _ _ shallow => bean.ofJson?_toJson shallow
    have sockets := asList_map
      (within ("sockets", .array (module.sockets.map (·.toJson))) (by simp))
      fun socket _ _ _ shallow => socket.ofJson?_toJson shallow
    have modules := asList_map
      (within ("modules", .array (module.modules.map (·.toJson))) (by simp))
      fun child _ limit below shallow =>
        children limit (Nat.lt_succ_of_lt below) child shallow
    have wiredModules :=
      asTexts_texts (within ("wired_modules", texts module.wiredModules) (by simp))
    have position := SourcePosition.asOptional_toJson module.position fun present given =>
      within _ (List.mem_append_right _ (mem_optionalField_map given _ _))
    rw [ofJson?_eq_enter, enter_record]
    case distinct => decide
    case known =>
      rw [List.map_append]
      exact (List.Sublist.refl _).append (names_optionalField _ _)
    cases module
    simp [Record.get, beans, sockets, modules, wiredModules, position]

end ModuleDeclaration

/-! ## Exactness

No declaration is written with a fraction or an exponent. -/

@[simp] theorem TypeName.isExact_toJson (name : TypeName) : name.toJson.IsExact :=
  isExact_text name.text

@[simp] theorem SourcePosition.isExact_toJson (position : SourcePosition) :
    position.toJson.IsExact := by
  simp [toJson]

@[simp] theorem SocketDeclaration.isExact_toJson (socket : SocketDeclaration) :
    socket.toJson.IsExact := by
  rw [toJson, isExact_record]
  simp only [List.forall_mem_append, List.forall_mem_cons, forall_mem_optionalField]
  simp

@[simp] theorem BeanDeclaration.isExact_toJson (bean : BeanDeclaration) :
    bean.toJson.IsExact := by
  rw [toJson, isExact_record]
  simp only [List.forall_mem_append, List.forall_mem_cons, forall_mem_optionalField]
  simp

namespace ModuleDeclaration

mutual

theorem isExact_toJson (module : ModuleDeclaration) : module.toJson.IsExact := by
  match module with
  | { name, beans, sockets, modules, wiredModules, position } =>
    rw [toJson, isExact_record]
    simp only [List.forall_mem_append, List.forall_mem_cons, forall_mem_optionalField,
      isExact_array]
    simpa using isExact_forestJson modules

theorem isExact_forestJson (modules : List ModuleDeclaration) :
    ∀ value ∈ forestJson modules, value.IsExact := by
  match modules with
  | [] => exact nofun
  | module :: rest =>
    rw [forestJson, List.forall_mem_cons]
    exact ⟨isExact_toJson module, isExact_forestJson rest⟩

end

end ModuleDeclaration

/-! ## Documents -/

namespace Document

theorem ofJson?_toJson (document : Document) (shallow : document.toJson.depth ≤ nestingLimit) :
    ofJson? document.toJson = some document := by
  obtain ⟨inner, limit, within⟩ := (depth_record_le _ _).mp shallow
  have modules := within ("modules", array (ModuleDeclaration.forestJson document.modules))
    List.mem_cons_self
  rw [ModuleDeclaration.forestJson_eq_map] at modules
  have read := asList_map modules fun module _ _ _ shallow => module.ofJson?_toJson shallow
  rw [ofJson?, limit, toJson, ModuleDeclaration.forestJson_eq_map, enter_record]
  case distinct => decide
  case known => exact .refl _
  simp [Record.get, read]

theorem isExact_toJson (document : Document) : document.toJson.IsExact := by
  simpa [toJson] using ModuleDeclaration.isExact_forestJson document.modules

theorem read_write (document : Document) (shallow : document.toJson.depth ≤ nestingLimit) :
    read document.write = some document := by
  rw [read, write, parse_compact _ document.isExact_toJson]
  exact document.ofJson?_toJson shallow

/-- One pass of reading a text and writing what it says. -/
def rewrite (text : String) : Option String :=
  (read text).map write

/-- A text need not be the one that is written for its document: its fields may be in any order,
unknown, missing or without names, and its type names may hold more blanks. After one pass all of
this is settled. -/
theorem round_trip :
    (∀ document : Document, document.toJson.depth ≤ nestingLimit →
      read document.write = some document) ∧
    ∀ (text : String) (document : Document), read text = some document →
      document.toJson.depth ≤ nestingLimit →
      rewrite text = some document.write ∧ rewrite document.write = some document.write := by
  refine ⟨read_write, fun text document found shallow => ⟨?_, ?_⟩⟩
  · rw [rewrite, found, Option.map_some]
  · rw [rewrite, read_write document shallow, Option.map_some]

/-- A document and a socket without field names, an unknown field, and blanks in a type name. -/
def sampleText : String :=
  "[[\x7b\"sockets\": [[\"url\", \" dyn  A \", null, \"optional\"]]," ++
    "\"note\": [1.5e3], \"name\": \"\\u0064\\tb\"\x7d]]"

def rewrittenSample : String :=
  "\x7b\"modules\":[\x7b\"name\":\"d\\tb\",\"beans\":[],\"sockets\":[\x7b\"name\":\"url\"," ++
    "\"required_type\":\"dyn A\",\"multiplicity\":\"optional\",\"lazy\":false," ++
    "\"wired_to\":[]\x7d],\"modules\":[],\"wired_modules\":[]\x7d]\x7d"

theorem sampleText_round_trip :
    ∃ document, read sampleText = some document ∧ document.toJson.depth ≤ nestingLimit ∧
      read document.write = some document ∧ rewrite sampleText = some rewrittenSample ∧
      rewrite rewrittenSample = some rewrittenSample := by
  have facts : (read sampleText).map (fun document => (document.write, document.toJson.depth)) =
      some (rewrittenSample, 6) := by decide +kernel
  obtain ⟨document, found, same⟩ := Option.map_eq_some_iff.mp facts
  obtain ⟨written, depth⟩ := Prod.mk.inj same
  have shallow : document.toJson.depth ≤ nestingLimit := by
    rw [depth]
    decide
  have pass := round_trip.2 sampleText document found shallow
  rw [written] at pass
  exact ⟨document, found, shallow, round_trip.1 document shallow, pass⟩

end Document

end StaticInjection
