namespace StaticInjection

/-! Modules, beans and sockets are known by their positions in a model. -/

structure ModuleId where
  index : Nat
deriving DecidableEq, Repr, Inhabited

structure BeanId where
  index : Nat
deriving DecidableEq, Repr, Inhabited

structure SocketId where
  index : Nat
deriving DecidableEq, Repr, Inhabited

/-- What can satisfy a socket: a bean, or a socket of the module around. -/
inductive Provider where
  | bean (id : BeanId)
  | socket (id : SocketId)
deriving DecidableEq, Repr, Inhabited

/-- Whose constructor or inputs a socket belongs to. -/
inductive SocketOwner where
  | bean (id : BeanId)
  | module (id : ModuleId)
deriving DecidableEq, Repr, Inhabited

/-- How a module is written for people. -/
def ModuleId.text (id : ModuleId) : String :=
  "#" ++ Nat.repr id.index

namespace Provider

/-- Beans come before sockets. -/
def key : Provider → Nat × Nat
  | bean id => (0, id.index)
  | socket id => (1, id.index)

def bean? : Provider → Option BeanId
  | bean id => some id
  | socket _ => none

def socket? : Provider → Option SocketId
  | bean _ => none
  | socket id => some id

theorem key_injective {left right : Provider} (equal : left.key = right.key) : left = right := by
  rcases left with ⟨⟨left⟩⟩ | ⟨⟨left⟩⟩ <;> rcases right with ⟨⟨right⟩⟩ | ⟨⟨right⟩⟩ <;> simp_all [key]

end Provider

end StaticInjection
