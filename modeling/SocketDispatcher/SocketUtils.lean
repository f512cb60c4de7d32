import SocketDispatcher.Process

/-!
# Socket utilities

{lit}`sendSocket`, {lit}`read` and {lit}`write` of {lit}`SocketUtils.cpp`.

Main results:

- Theorem {lit}`statusByte_ne_zero`: the status byte of a negative descriptor is
  never zero.
-/

namespace SocketDispatcher

open Interaction

/-- Allocate the static control buffer of the sending side on first use. -/
def allocSendControl : Proc Bool := do
  let m ← get
  match m.sendCmptr with
  | some _ => pure true
  | none => do
      let r ← Program.ask .malloc
      match r.data with
      | none => pure false
      | some content => do
          modify fun m => { m with sendCmptr := some content }
          pure true

/-- The status byte for a negative descriptor: its negation cut to one byte, or
one if that would be zero. -/
def statusByte (fd_to_send : Int) : Byte :=
  if UInt8.ofInt (-fd_to_send) = 0 then 1 else UInt8.ofInt (-fd_to_send)

theorem statusByte_ne_zero (fd_to_send : Int) : statusByte fd_to_send ≠ 0 := by
  unfold statusByte
  split
  · decide
  · assumption

/-- Send a descriptor, or an error status, as a two-byte message. -/
def sendSocket (socketSender socketToSend : Ptr) : Proc Bool := do
  let sender ← deref socketSender
  let toSend ← deref socketToSend
  note (.sendSocket socketSender socketToSend)
  if toSend.descriptor < 0 then do
    let r ← Program.ask
      (.sendmsg sender.descriptor [0, statusByte toSend.descriptor] none)
    pure (r.ret == 2)
  else do
    let allocated ← allocSendControl
    if allocated then do
      modify fun m => { m with sendCmptr := some toSend.descriptor }
      let r ← Program.ask (.sendmsg sender.descriptor [0, 0] (some toSend.descriptor))
      pure (r.ret == 2)
    else
      pure false

/-- Read from a client.  The result is the count and the buffer afterwards. -/
def read (clientSocket : Ptr) (buffer : List Byte) (bufferSize : Nat) :
    Proc (Int × List Byte) := do
  let socket ← deref clientSocket
  if socket.isSslSocket then do
    let r ← Program.ask (.bioRead clientSocket buffer bufferSize)
    pure (r.ret, memcpy buffer r.bytes)
  else do
    let r ← Program.ask (.recv socket.descriptor buffer bufferSize false)
    pure (r.ret, memcpy buffer r.bytes)

/-- Write to a client. -/
def write (clientSocket : Ptr) (message : List Byte) : Proc Int := do
  let socket ← deref clientSocket
  if socket.isSslSocket then do
    let r ← Program.ask (.bioWrite clientSocket message)
    pure r.ret
  else do
    let r ← Program.ask (.write socket.descriptor message)
    pure r.ret

end SocketDispatcher
