import SocketDispatcher.Process

/-!
# Open descriptors

The open descriptors of a process, as far as its surroundings know them, and who in
its memory is to close them.

Main results:

- Definition {lit}`Owns`: the object will close the descriptor when it is destroyed.
-/

namespace SocketDispatcher

/-- The open descriptors, and those of them that were received: by a message, or by
accepting a connection. -/
structure Files where
  opened : List Int
  received : List Int

namespace Files

/-- A descriptor arrives. -/
def receive (w : Files) (d : Int) : Files :=
  ⟨d :: w.opened, d :: w.received⟩

/-- A descriptor is closed. -/
def close (w : Files) (d : Int) : Files :=
  ⟨w.opened.filter (· ≠ d), w.received.filter (· ≠ d)⟩

end Files

/-- The object has the descriptor and will close it. -/
def Owns (m : Memory) (p : Ptr) (d : Int) : Prop :=
  ∃ socket, m.heap p = some socket ∧ socket.descriptor = d ∧
    socket.protectDescriptor = false

end SocketDispatcher
