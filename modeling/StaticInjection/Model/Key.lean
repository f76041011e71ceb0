import StaticInjection.Model.Basic
import StaticInjection.Naming.Generated

namespace StaticInjection.Model

/-! Keys that stand for beans and sockets in generated names. -/

def beanKey (model : Model) (bean : Bean) : String :=
  Naming.beanKey (model.path bean.module) bean.name

def socketKey (model : Model) (socket : Socket) : String :=
  Naming.socketKey (model.path socket.module) (model.ownerName? socket) socket.name

end StaticInjection.Model
