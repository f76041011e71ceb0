import StaticInjection.Model.Id

namespace StaticInjection

/-! Wires from sockets to what satisfies them. -/

structure Wire where
  socket : SocketId
  targets : List Provider
  isLazy : Bool
deriving DecidableEq, Repr, Inhabited

/-- Insert into a list that ascends by sockets, in place of a wire of the same socket. -/
def Wire.insertInto (wire : Wire) : List Wire → List Wire
  | [] => [wire]
  | head :: tail =>
    if wire.socket.index < head.socket.index then wire :: head :: tail
    else if wire.socket = head.socket then wire :: tail
    else head :: wire.insertInto tail

theorem Wire.mem_insertInto {wire other : Wire} {wires : List Wire}
    (member : other ∈ wire.insertInto wires) : other = wire ∨ other ∈ wires := by
  induction wires with
  | nil => simpa [insertInto] using member
  | cons head tail induction =>
    unfold insertInto at member
    split at member
    · simpa using member
    · split at member
      · rcases List.mem_cons.1 member with equal | later
        · exact .inl equal
        · exact .inr (List.mem_cons_of_mem _ later)
      · rcases List.mem_cons.1 member with equal | later
        · exact .inr (by simp [equal])
        · rcases induction later with equal | inside
          · exact .inl equal
          · exact .inr (List.mem_cons_of_mem _ inside)

theorem Wire.pairwise_insertInto {wire : Wire} {wires : List Wire}
    (ascending : wires.Pairwise (·.socket.index < ·.socket.index)) :
    (wire.insertInto wires).Pairwise (·.socket.index < ·.socket.index) := by
  induction wires with
  | nil => simp [insertInto]
  | cons head tail induction =>
    obtain ⟨first, others⟩ := List.pairwise_cons.1 ascending
    unfold insertInto
    split
    · rename_i before
      refine List.pairwise_cons.2 ⟨?_, ascending⟩
      intro other member
      rcases List.mem_cons.1 member with equal | later
      · simpa [equal] using before
      · exact Nat.lt_trans before (first other later)
    · split
      · rename_i same
        exact List.pairwise_cons.2 ⟨fun other member => same ▸ first other member, others⟩
      · rename_i notBefore different
        refine List.pairwise_cons.2 ⟨?_, induction others⟩
        intro other member
        rcases mem_insertInto member with equal | later
        · show head.socket.index < other.socket.index
          rw [equal]
          have apart : wire.socket.index ≠ head.socket.index := fun same =>
            different (congrArg SocketId.mk same)
          omega
        · exact first other later

/-- At most one wire for a socket, in the order of sockets. -/
structure WireSet where
  wires : List Wire
  ascending : wires.Pairwise (·.socket.index < ·.socket.index)

namespace WireSet

def empty : WireSet := ⟨[], .nil⟩

instance : Inhabited WireSet := ⟨empty⟩

/-- A wire replaces an earlier one of the same socket. -/
def insert (set : WireSet) (wire : Wire) : WireSet :=
  ⟨wire.insertInto set.wires, Wire.pairwise_insertInto set.ascending⟩

def insertAll (set : WireSet) (wires : List Wire) : WireSet :=
  wires.foldl insert set

def get? (set : WireSet) (socket : SocketId) : Option Wire :=
  set.wires.find? (·.socket == socket)

def size (set : WireSet) : Nat :=
  set.wires.length

end WireSet

end StaticInjection
