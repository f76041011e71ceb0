import Mathlib.Data.List.Basic
import StaticInjection.Code.Printer
import StaticInjection.Naming.Identifier

/-! # Items of a module's type

The constants and functions that are declared on the type of a module, read off the
printed lines. They are those whose names the code lists. -/

namespace StaticInjection.Code

open Naming

/-! ## Reading -/

/-- The characters that a name begins with. -/
def leadingName (text : List Char) : String :=
  String.ofList (text.takeWhile isLetterOrDigit)

/-- What stands before the name of an item. -/
def itemLeads : List String := ["pub const ", "pub fn "]

/-- The name of the item that a line declares. Lines that are indented belong to an
item that was declared before. -/
def Line.item? (line : Line) : Option String :=
  if line.depth = 0 then
    (itemLeads.findSome? fun lead => lead.toList.isPrefixOf? line.text.toList).map leadingName
  else none

/-- The lines between the braces after `impl`. -/
def ModuleCode.itemLines (code : ModuleCode) : List Line :=
  code.exposedLines ++ blank ++ code.constructorLines ++
    code.accessors.flatMap (fun accessor => blank ++ accessor.lines) ++ blank ++ code.shutdownLines

/-- The lines before them: a header, and the types of the inputs and of the module. -/
def ModuleCode.typesLines (code : ModuleCode) : List Line :=
  Code.lines ((Text.lines code.header.toList).map String.ofList) ++
    Code.lines ["// module: " ++ code.path] ++ blank ++ code.inputsLines ++ blank ++
    code.typeLines ++ blank

theorem lines_eq (code : ModuleCode) :
    code.lines = code.typesLines ++
      block ("impl " ++ code.moduleType ++ " \x7b") code.itemLines "\x7d" :=
  rfl

/-! ## Single lines -/

theorem leadingName_append {name : List Char} {next : Char} (rest : List Char)
    (plain : name.all isLetterOrDigit = true) (ends : isLetterOrDigit next = false) :
    leadingName (name ++ next :: rest) = String.ofList name := by
  rw [leadingName, List.takeWhile_append_of_pos (List.all_eq_true.mp plain),
    List.takeWhile_cons_of_neg (by simp [ends]), List.append_nil]

theorem item?_function {text : String} {name rest : List Char}
    (spelled : text.toList = "pub fn ".toList ++ (name ++ '(' :: rest))
    (plain : name.all isLetterOrDigit = true) :
    Line.item? ⟨0, text⟩ = some (String.ofList name) := by
  rw [← leadingName_append rest plain (by decide : isLetterOrDigit '(' = false)]
  simp [Line.item?, itemLeads, spelled, List.isPrefixOf?]

/-- Lines of other kinds begin in other ways. -/
theorem item?_none {text : String} (start : text.toList.head? ≠ some 'p') :
    Line.item? ⟨0, text⟩ = none := by
  cases spelled : text.toList with
  | nil => simp [Line.item?, itemLeads, spelled, List.isPrefixOf?]
  | cons first rest =>
      have other : 'p' ≠ first := by
        rintro rfl
        exact start (by rw [spelled]; rfl)
      simp [Line.item?, itemLeads, spelled, List.isPrefixOf?, other]

theorem items_indent (body : List Line) : (indent body).filterMap Line.item? = [] := by
  simp [indent, Line.item?]

theorem items_blank : blank.filterMap Line.item? = [] := rfl

theorem items_block {opening closing : String} (body : List Line)
    (closes : closing.toList.head? ≠ some 'p') :
    (block opening body closing).filterMap Line.item? = (Line.item? ⟨0, opening⟩).toList := by
  rw [block, List.filterMap_append, List.filterMap_append, items_indent]
  simp only [lines, List.map_singleton, List.filterMap_cons, List.filterMap_nil, List.append_nil,
    item?_none closes]
  cases Line.item? ⟨0, opening⟩ <;> rfl

/-- Comments and attributes, then a function. -/
theorem items_documented {comments : List String} {opening closing : String} {body : List Line}
    {name rest : List Char} (others : ∀ comment ∈ comments, comment.toList.head? ≠ some 'p')
    (spelled : opening.toList = "pub fn ".toList ++ (name ++ '(' :: rest))
    (plain : name.all isLetterOrDigit = true) (closes : closing.toList.head? ≠ some 'p') :
    (lines comments ++ block opening body closing).filterMap Line.item? =
      [String.ofList name] := by
  have silent : (lines comments).filterMap Line.item? = [] := by
    rw [lines, List.filterMap_map, List.filterMap_eq_nil_iff]
    exact fun comment listed => item?_none (others comment listed)
  rw [List.filterMap_append, silent, items_block body closes, item?_function spelled plain]
  rfl

/-! ## Items -/

theorem items_accessor {accessor : Accessor}
    (plain : accessor.name.toList.all isLetterOrDigit = true) :
    accessor.lines.filterMap Line.item? = [accessor.name] := by
  rw [← String.ofList_toList (s := accessor.name)]
  cases accessor with
  | singleton bean type =>
      exact items_documented (by simp [toString]) (by simp [Accessor.name]; rfl) plain (by decide)
  | perRequest bean type =>
      exact items_documented (by simp [toString]) (by simp [Accessor.name]; rfl) plain (by decide)
  | provider bean type =>
      exact items_documented (by simp [toString]) (by simp [Accessor.name]; rfl) plain (by decide)
  | child name path moduleType =>
      exact items_documented (by simp [toString]) (by simp [Accessor.name]; rfl) plain (by decide)

theorem items_accessors {accessors : List Accessor}
    (plain : ∀ accessor ∈ accessors, accessor.name.toList.all isLetterOrDigit = true) :
    (accessors.flatMap fun accessor => blank ++ accessor.lines).filterMap Line.item? =
      accessors.map (·.name) := by
  rw [List.filterMap_flatMap, List.map_eq_flatMap]
  refine List.flatMap_congr fun accessor listed => ?_
  rw [List.filterMap_append, items_blank, items_accessor (plain accessor listed), List.nil_append]

/-- What the lines declare has the names that the code lists. -/
theorem items_itemLines {code : ModuleCode}
    (plain : ∀ accessor ∈ code.accessors, accessor.name.toList.all isLetterOrDigit = true) :
    code.itemLines.filterMap Line.item? = code.itemNames := by
  have exposed : code.exposedLines.filterMap Line.item? = ["EXPOSED"] := by
    rw [ModuleCode.exposedLines, List.filterMap_append, items_block _ (by decide)]
    decide +kernel
  have constructor : code.constructorLines.filterMap Line.item? = [String.ofList "new".toList] :=
    items_documented (by simp [toString]) (by simp; rfl) (by decide) (by decide)
  have shutdown : code.shutdownLines.filterMap Line.item? = [String.ofList "shutdown".toList] :=
    items_documented (by simp) (by simp; rfl) (by decide) (by decide)
  rw [String.ofList_toList] at constructor shutdown
  simp only [ModuleCode.itemLines, List.filterMap_append, items_blank, items_accessors plain,
    exposed, constructor, shutdown, ModuleCode.itemNames, List.append_nil]
  rfl

end StaticInjection.Code
