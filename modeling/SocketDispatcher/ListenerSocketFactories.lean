import SocketDispatcher.Process

/-!
# Factories of listening sockets

The {lit}`createSocket` methods of {lit}`TcpSslListenerSocketFactory.cpp` and
{lit}`UnixListenerSocketFactory.cpp`.  They differ in the family of the socket, in
the call between creating and binding it, in the address and in the queue length.

Main results:

- Definitions {lit}`TcpSslListenerSocketFactory.createSocket` and
  {lit}`UnixListenerSocketFactory.createSocket`.
- Theorem {lit}`sat_createListener`: a listening socket, or the empty pointer.
-/

namespace SocketDispatcher

open Interaction

/-- The common course of both factories.  A failing {lit}`socket`, {lit}`bind` or
{lit}`listen` leaves through an early return of the empty pointer; the outcome of the
call {lit}`second` is ignored. -/
def createListener (family : AddressFamily) (second : Int → Call) (address : SocketAddress)
    (queueLength : Nat) (listener : (socketfd : Int) → socketfd ≠ FREE_SOCKET → Socket) :
    Proc Ptr := do
  let socketfd ← Program.ask (.socket family)
  if h : socketfd.ret < 0 then
    pure nullptr
  else do
    let _ ← Program.ask (second socketfd.ret)
    let retVal ← Program.ask (.bind socketfd.ret address)
    if retVal.ret < 0 then
      pure nullptr
    else do
      let retVal ← Program.ask (.listen socketfd.ret queueLength)
      if retVal.ret < 0 then
        pure nullptr
      else
        makeShared (listener socketfd.ret (ne_FREE_SOCKET_of_nonneg (Int.not_lt.mp h)))

namespace TcpSslListenerSocketFactory

/-- {lit}`TcpSslListenerSocket::TcpSslListenerSocket` -/
def tcpSslListenerSocket (descriptor : Int) (h : descriptor ≠ FREE_SOCKET) : Socket where
  cls := .tcpSslListenerSocket
  descriptor := descriptor
  socketType := .TCP
  listenSocket := true
  descriptor_ne := h

/-- {lit}`TcpSslListenerSocketFactory::createSocket()` -/
def createSocket (port queueLength : Nat) : Proc Ptr :=
  createListener .AF_INET .setsockopt (.inet port) queueLength tcpSslListenerSocket

end TcpSslListenerSocketFactory

namespace UnixListenerSocketFactory

/-- {lit}`UnixListenerSocket::UnixListenerSocket` -/
def unixListenerSocket (descriptor : Int) (h : descriptor ≠ FREE_SOCKET) : Socket where
  cls := .unixListenerSocket
  descriptor := descriptor
  socketType := .UNIX
  listenSocket := true
  descriptor_ne := h

/-- The path that fits into {lit}`sun_path`. -/
def sunPath (path : List Byte) : List Byte :=
  (cString path).take 107

/-- {lit}`UnixListenerSocketFactory::createSocket()` -/
def createSocket (path : List Byte) : Proc Ptr :=
  createListener .AF_UNIX (fun _ => .unlink (cString path)) (.unix (sunPath path)) 3
    unixListenerSocket

end UnixListenerSocketFactory

/-! ## Specifications -/

section Specs

variable {W A : Type} {K : Kernel W Call Reply A}
variable {H : Memory → W → Call → Reply → Prop} {G : Memory → W → Call → Prop}
variable {s : Memory} {w : W}

/-- The result is a new object, or the empty pointer if one of three calls failed. -/
theorem sat_createListener {family : AddressFamily} {second : Int → Call}
    {address : SocketAddress} {queueLength : Nat}
    {listener : (socketfd : Int) → socketfd ≠ FREE_SOCKET → Socket}
    {Q : Memory → W → Ptr → Prop}
    (hsocket : Sat K H G (Program.ask (.socket family)) (fun _ w socketfd =>
      (socketfd.ret < 0 → Q s w nullptr) ∧
      ∀ (_ : 0 ≤ socketfd.ret) (hfree : socketfd.ret ≠ FREE_SOCKET),
        Sat K H G (Program.ask (second socketfd.ret)) (fun _ w _ =>
          Sat K H G (Program.ask (.bind socketfd.ret address)) (fun _ w bound =>
            (bound.ret < 0 → Q s w nullptr) ∧
            (0 ≤ bound.ret →
              Sat K H G (Program.ask (.listen socketfd.ret queueLength)) (fun _ w listening =>
                (listening.ret < 0 → Q s w nullptr) ∧
                (0 ≤ listening.ret → Q (s.alloc (listener socketfd.ret hfree)) w s.next))
                s w)) s w) s w) s w) :
    Sat K H G (createListener family second address queueLength listener) Q s w := by
  rw [createListener, sat_bind]
  apply hsocket.ask_mono
  rintro w socketfd ⟨hneg, hnonneg⟩
  rw [sat_dite]
  split
  next hlt => exact hneg hlt
  next hlt =>
    rw [sat_bind]
    apply (hnonneg (by omega) (ne_FREE_SOCKET_of_nonneg (Int.not_lt.mp hlt))).ask_mono
    intro w _ hbind
    rw [sat_bind]
    apply hbind.ask_mono
    rintro w bound ⟨hneg, hnonneg⟩
    rw [sat_ite]
    split
    next hlt => exact hneg hlt
    next hlt =>
      rw [sat_bind]
      apply (hnonneg (by omega)).ask_mono
      rintro w listening ⟨hneg, hnonneg⟩
      rw [sat_ite]
      split
      next hlt => exact hneg hlt
      next hlt => exact hnonneg (by omega)

end Specs

end SocketDispatcher
