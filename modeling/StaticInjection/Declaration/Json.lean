import StaticInjection.Declaration.Basic
import StaticInjection.Json.Record
import StaticInjection.Json.Reader
import StaticInjection.Json.Printer

namespace StaticInjection

/-! Declarations as JSON. A field that is missing takes its default, and a field without a value is
not written. -/

open Json

namespace TypeName

def toJson (name : TypeName) : Json :=
  .text name.text

def ofJson? (value : Json) : Option TypeName :=
  (asText value).map ofText

end TypeName

namespace SourcePosition

def fieldNames : List String := ["file", "line", "column"]

def toJson (position : SourcePosition) : Json :=
  .record [
    ("file", .text position.file),
    ("line", .number position.line.toNat),
    ("column", .number position.column.toNat)]

def ofJson? (depth : Nat) (value : Json) : Option SourcePosition := do
  let (record, _) ← enter fieldNames depth value
  let file ← record.require "file" asText
  let line ← record.require "line" asUInt32
  let column ← record.require "column" asUInt32
  return { file, line, column }

end SourcePosition

namespace SocketDeclaration

def fieldNames : List String :=
  ["name", "required_type", "qualifier", "multiplicity", "lazy", "wired_to", "position"]

def toJson (socket : SocketDeclaration) : Json :=
  .record (
    [("name", .text socket.name), ("required_type", socket.requiredType.toJson)] ++
    optionalField "qualifier" (socket.qualifier.map .text) ++
    [("multiplicity", .text socket.multiplicity.word),
      ("lazy", .bool socket.isLazy),
      ("wired_to", .texts socket.wiredTo)] ++
    optionalField "position" (socket.position.map (·.toJson)))

def ofJson? (depth : Nat) (value : Json) : Option SocketDeclaration := do
  let (record, depth) ← enter fieldNames depth value
  let name ← record.get "name" "" asText
  let requiredType ← record.get "required_type" (.ofText "") TypeName.ofJson?
  let qualifier ← record.getOption "qualifier" asText
  let multiplicity ← record.get "multiplicity" .single (asWord Multiplicity.ofWord? depth)
  let isLazy ← record.get "lazy" false asBool
  let wiredTo ← record.get "wired_to" [] (asTexts depth)
  let position ← record.getOption "position" (SourcePosition.ofJson? depth)
  return { name, requiredType, qualifier, multiplicity, isLazy, wiredTo, position }

end SocketDeclaration

namespace BeanDeclaration

def fieldNames : List String :=
  ["name", "bean_type", "provides", "qualifier", "lifetime", "visibility", "default", "factory",
    "init", "destroy", "sockets", "position"]

def toJson (bean : BeanDeclaration) : Json :=
  .record (
    [("name", .text bean.name),
      ("bean_type", bean.declaredType.toJson),
      ("provides", .array (bean.provides.map (·.toJson)))] ++
    optionalField "qualifier" (bean.qualifier.map .text) ++
    [("lifetime", .text bean.lifetime.word),
      ("visibility", .text bean.visibility.word),
      ("default", .bool bean.isDefault)] ++
    optionalField "factory" (bean.factory.map .text) ++
    [("init", .texts bean.init),
      ("destroy", .texts bean.destroy),
      ("sockets", .array (bean.sockets.map (·.toJson)))] ++
    optionalField "position" (bean.position.map (·.toJson)))

def ofJson? (depth : Nat) (value : Json) : Option BeanDeclaration := do
  let (record, depth) ← enter fieldNames depth value
  let name ← record.get "name" "" asText
  let declaredType ← record.get "bean_type" (.ofText "") TypeName.ofJson?
  let provides ← record.get "provides" [] (asList (fun _ => TypeName.ofJson?) depth)
  let qualifier ← record.getOption "qualifier" asText
  let lifetime ← record.get "lifetime" .singleton (asWord Lifetime.ofWord? depth)
  let visibility ← record.get "visibility" .isPrivate (asWord Visibility.ofWord? depth)
  let isDefault ← record.get "default" false asBool
  let factory ← record.getOption "factory" asText
  let init ← record.get "init" [] (asTexts depth)
  let destroy ← record.get "destroy" [] (asTexts depth)
  let sockets ← record.get "sockets" [] (asList SocketDeclaration.ofJson? depth)
  let position ← record.getOption "position" (SourcePosition.ofJson? depth)
  return {
    name, declaredType, provides, qualifier, lifetime, visibility, isDefault, factory, init,
    destroy, sockets, position }

end BeanDeclaration

namespace ModuleDeclaration

def fieldNames : List String :=
  ["name", "beans", "sockets", "modules", "wired_modules", "position"]

mutual

def toJson (module : ModuleDeclaration) : Json :=
  match module with
  | { name, beans, sockets, modules, wiredModules, position } =>
    .record (
      [("name", .text name),
        ("beans", .array (beans.map (·.toJson))),
        ("sockets", .array (sockets.map (·.toJson))),
        ("modules", .array (forestJson modules)),
        ("wired_modules", .texts wiredModules)] ++
      optionalField "position" (position.map (·.toJson)))

def forestJson : List ModuleDeclaration → List Json
  | [] => []
  | module :: rest => module.toJson :: forestJson rest

end

mutual

def ofJson? : Nat → Json → Option ModuleDeclaration
  | 0, _ => none
  | depth + 1, value => do
    let record ← asRecord fieldNames value
    let name ← record.get "name" "" asText
    let beans ← record.get "beans" [] (asList BeanDeclaration.ofJson? depth)
    let sockets ← record.get "sockets" [] (asList SocketDeclaration.ofJson? depth)
    let modules ← record.get "modules" [] (forestOfJson? depth)
    let wiredModules ← record.get "wired_modules" [] (asTexts depth)
    let position ← record.getOption "position" (SourcePosition.ofJson? depth)
    return { name, beans, sockets, modules, wiredModules, position }

/-- Child modules take two levels each: one for the list and one for the module in it. -/
def forestOfJson? : Nat → Json → Option (List ModuleDeclaration)
  | depth + 1, .array items => items.mapM (ofJson? depth)
  | _, _ => none

end

end ModuleDeclaration

namespace Document

def fieldNames : List String := ["modules"]

/-- How many arrays and objects may lie inside each other. -/
def nestingLimit : Nat := 127

def toJson (document : Document) : Json :=
  .record [("modules", .array (ModuleDeclaration.forestJson document.modules))]

def ofJson? (value : Json) : Option Document := do
  let (record, depth) ← enter fieldNames nestingLimit value
  let modules ← record.get "modules" [] (asList ModuleDeclaration.ofJson? depth)
  return { modules }

def write (document : Document) : String :=
  document.toJson.compact

def read (text : String) : Option Document := do
  ofJson? (← Json.parse text)

end Document

end StaticInjection
