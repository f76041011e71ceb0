import StaticInjection.Declaration.Json
import StaticInjection.Model.Key

namespace StaticInjection

/-! What other builds may rely on about a module: its inputs and what it gives. -/

structure ExposedBean where
  name : String
  /-- The declared type comes first. -/
  types : List TypeName
  qualifier : Option Qualifier
  lifetime : Lifetime
deriving DecidableEq

structure DescribedSocket where
  name : String
  requiredType : TypeName
  qualifier : Option Qualifier
  multiplicity : Multiplicity
deriving DecidableEq

structure Descriptor where
  path : String
  moduleType : String
  inputsType : String
  exposed : List ExposedBean
  inputs : List DescribedSocket
  /-- Paths. -/
  children : List String
deriving DecidableEq

namespace Model

def exposedBean (bean : Bean) : ExposedBean :=
  { name := bean.name, types := bean.provides, qualifier := bean.qualifier, lifetime := bean.lifetime }

def describedSocket (socket : Socket) : DescribedSocket :=
  { name := socket.name
    requiredType := socket.requiredType
    qualifier := socket.qualifier
    multiplicity := socket.multiplicity }

def describe (model : Model) (id : ModuleId) : Descriptor :=
  let module := model.module id
  { path := module.path
    moduleType := Naming.moduleType module.path
    inputsType := Naming.inputsType module.path
    exposed := ((module.beans.map model.bean).filter (·.isPublic)).map exposedBean
    inputs := (module.sockets.map model.socket).map describedSocket
    children := module.children.map model.path }

end Model

open Json

namespace ExposedBean

def toJson (bean : ExposedBean) : Json :=
  .record (
    [("name", .text bean.name), ("types", .array (bean.types.map (·.toJson)))] ++
    optionalField "qualifier" (bean.qualifier.map .text) ++
    [("lifetime", .text bean.lifetime.word)])

end ExposedBean

namespace DescribedSocket

def toJson (socket : DescribedSocket) : Json :=
  .record (
    [("name", .text socket.name), ("required_type", socket.requiredType.toJson)] ++
    optionalField "qualifier" (socket.qualifier.map .text) ++
    [("multiplicity", .text socket.multiplicity.word)])

end DescribedSocket

namespace Descriptor

def toJson (descriptor : Descriptor) : Json :=
  .record [
    ("module", .text descriptor.path),
    ("type_name", .text descriptor.moduleType),
    ("sockets_type", .text descriptor.inputsType),
    ("exposed", .array (descriptor.exposed.map (·.toJson))),
    ("sockets", .array (descriptor.inputs.map (·.toJson))),
    ("children", .texts descriptor.children)]

def text (descriptor : Descriptor) : String :=
  descriptor.toJson.pretty

/-- Every type of every exposed bean, with its qualifier. -/
def pairs (descriptor : Descriptor) : List (TypeName × Option Qualifier) :=
  descriptor.exposed.flatMap fun bean => bean.types.map fun type => (type, bean.qualifier)

end Descriptor

end StaticInjection
