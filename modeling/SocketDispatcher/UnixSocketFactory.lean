import SocketDispatcher.Library.Embedding
import SocketDispatcher.ListenerSocketFactories

/-!
# The connection of a dispatcher

{lit}`UnixSocketFactory::createSocket` of {lit}`UnixSocketFactory.cpp` and
{lit}`setnonblocking` of {lit}`utils.cpp`.  They make calls that the main loops of the
programs do not make, so they are programs over a larger set of calls.

Main results:

- Definition {lit}`UnixSocketFactory.createSocket`.
- Theorem {lit}`UnixSocketFactory.sat_createSocket`: a connected socket, or the empty
  pointer, in which case a descriptor may be left open.
-/

namespace SocketDispatcher

open Interaction

/-- The calls of a program that connects to a listening UNIX socket. -/
inductive UnixCall where
  /-- A call of the main loop. -/
  | system (c : Call)
  /-- {lit}`socket(AF_UNIX, SOCK_STREAM, 0)` -/
  | socket
  | connect (fd : Int) (address : SocketAddress)
  /-- {lit}`fcntl(fd, F_GETFL)` -/
  | fcntlGetFl (fd : Int)
  /-- {lit}`fcntl(fd, F_SETFL, opts)` -/
  | fcntlSetFl (fd : Int) (opts : BitVec 32)
deriving DecidableEq

/-- The status flag of descriptors whose calls do not wait. -/
def O_NONBLOCK : BitVec 32 := 0x800#32

/-- {lit}`setnonblocking(sock)`: add the flag to the ones that are set. -/
def setnonblocking (sock : Int) : Program Memory UnixCall Reply Bool := do
  let opts ← Program.ask (.fcntlGetFl sock)
  if opts.ret < 0 then
    pure false
  else do
    let r ← Program.ask (.fcntlSetFl sock (BitVec.ofInt 32 opts.ret ||| O_NONBLOCK))
    pure (!decide (r.ret < 0))

namespace UnixSocketFactory

/-- {lit}`UnixSocket::UnixSocket` -/
def unixSocket (descriptor : Int) (h : 0 ≤ descriptor) : Socket where
  cls := .unixSocket
  descriptor := descriptor
  socketType := .UNIX
  descriptor_ne := ne_FREE_SOCKET_of_nonneg h

/-- {lit}`UnixSocketFactory::createSocket()`.  The path is cut like the one that the
listener binds. -/
def createSocket (path : List Byte) : Program Memory UnixCall Reply Ptr := do
  let sfd ← Program.ask .socket
  if h : sfd.ret < 0 then
    pure nullptr
  else do
    let retVal ← Program.ask
      (.connect sfd.ret (.unix (UnixListenerSocketFactory.sunPath path)))
    if retVal.ret < 0 then
      pure nullptr
    else do
      let _ ← setnonblocking sfd.ret
      (makeShared (unixSocket sfd.ret (Int.not_lt.mp h))).embed .system

/-! ## Specifications -/

section Specs

variable {W A : Type} {K : Kernel W UnixCall Reply A}
variable {H : Memory → W → UnixCall → Reply → Prop} {G : Memory → W → UnixCall → Prop}
variable {s : Memory} {w : W}

/-- The flags of a descriptor are read and written back. -/
theorem sat_setnonblocking {sock : Int} {Q : Memory → W → Bool → Prop} (Inv : W → Prop)
    (hget : Sat K H G (Program.ask (.fcntlGetFl sock)) (fun _ w _ => Inv w) s w)
    (hset : ∀ opts w, Inv w →
      Sat K H G (Program.ask (.fcntlSetFl sock opts)) (fun _ w _ => Inv w) s w)
    (hQ : ∀ w ok, Inv w → Q s w ok) : Sat K H G (setnonblocking sock) Q s w := by
  rw [setnonblocking, sat_bind]
  apply hget.ask_mono
  intro w opts hinv
  rw [sat_ite]
  split
  next => exact hQ w false hinv
  next =>
    rw [sat_bind]
    apply (hset _ w hinv).ask_mono
    intro w r hinv
    exact hQ w _ hinv

/-- The result is a new object for a connected descriptor, or the empty pointer. -/
theorem sat_createSocket {path : List Byte} {Q : Memory → W → Ptr → Prop}
    (Connected : (sfd : Int) → W → Prop)
    (hsocket : Sat K H G (Program.ask .socket) (fun _ w sfd =>
      (sfd.ret < 0 → Q s w nullptr) ∧
      (0 ≤ sfd.ret → Sat K H G (Program.ask
        (.connect sfd.ret (.unix (UnixListenerSocketFactory.sunPath path)))) (fun _ w r =>
          (r.ret < 0 → Q s w nullptr) ∧ (0 ≤ r.ret → Connected sfd.ret w)) s w)) s w)
    (hget : ∀ sfd w, Connected sfd w →
      Sat K H G (Program.ask (.fcntlGetFl sfd)) (fun _ w _ => Connected sfd w) s w)
    (hset : ∀ sfd opts w, Connected sfd w →
      Sat K H G (Program.ask (.fcntlSetFl sfd opts)) (fun _ w _ => Connected sfd w) s w)
    (hQ : ∀ sfd hnonneg w, Connected sfd w → Q (s.alloc (unixSocket sfd hnonneg)) w s.next) :
    Sat K H G (createSocket path) Q s w := by
  rw [createSocket, sat_bind]
  apply hsocket.ask_mono
  rintro w sfd ⟨hneg, hnonneg⟩
  rw [sat_dite]
  split
  next hlt => exact hneg hlt
  next hlt =>
    rw [sat_bind]
    apply (hnonneg (Int.not_lt.mp hlt)).ask_mono
    rintro w r ⟨hneg, hnonneg⟩
    rw [sat_ite]
    split
    next hlt' => exact hneg hlt'
    next hlt' =>
      rw [sat_bind]
      have hconnected := hnonneg (Int.not_lt.mp hlt')
      apply sat_setnonblocking (Connected sfd.ret) (hget _ w hconnected) (hset _)
      intro w _ hconnected
      rw [sat_embed_iff, sat_makeShared]
      exact hQ _ _ w hconnected

end Specs

end UnixSocketFactory

end SocketDispatcher
