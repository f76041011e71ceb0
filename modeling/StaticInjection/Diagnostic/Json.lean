import StaticInjection.Declaration.Json
import StaticInjection.Diagnostic.Basic

namespace StaticInjection

/-! Diagnostics as JSON. The module that fails is not written. -/

open Json

namespace Location

def fieldNames : List String := ["module", "bean", "socket", "position"]

def toJson (location : Location) : Json :=
  .record (
    [("module", .text location.module)] ++
    optionalField "bean" (location.bean.map .text) ++
    optionalField "socket" (location.socket.map .text) ++
    optionalField "position" (location.position.map (·.toJson)))

def ofJson? (depth : Nat) (value : Json) : Option Location := do
  let (record, depth) ← enter fieldNames depth value
  let module ← record.require "module" asText
  let bean ← record.getOption "bean" asText
  let socket ← record.getOption "socket" asText
  let position ← record.getOption "position" (SourcePosition.ofJson? depth)
  return { module, bean, socket, position }

end Location

namespace Diagnostic

def fieldNames : List String := ["kind", "location", "message", "implicated", "root_causes"]

def fields (diagnostic : Diagnostic) : List (String × Json) :=
  [("kind", .text diagnostic.kind.word),
    ("location", diagnostic.location.toJson),
    ("message", .text diagnostic.message)] ++
  listField "implicated" (diagnostic.implicated.map .text) ++
  listField "root_causes" (diagnostic.rootCauses.map .text)

def toJson (diagnostic : Diagnostic) : Json :=
  .record diagnostic.fields

def ofJson? (depth : Nat) (value : Json) : Option Diagnostic := do
  let (record, depth) ← enter fieldNames depth value
  let kind ← record.require "kind" (asWord DiagnosticKind.ofWord? depth)
  let location ← record.require "location" (Location.ofJson? depth)
  let message ← record.require "message" asText
  let implicated ← record.get "implicated" [] (asTexts depth)
  let rootCauses ← record.get "root_causes" [] (asTexts depth)
  return { kind, location, message, implicated, rootCauses }

end Diagnostic

end StaticInjection
