import SocketDispatcher.InitSsl
import SocketDispatcher.Mylsnr.WellFormed

/-!
# The listener from its start to its end

{lit}`main` of {lit}`mylsnr.cpp` from the command line to the exit status: the OpenSSL context,
both listening sockets, the main loop, and the destructors of what {lit}`main` has built, the one
of the listening UNIX socket with its socket file.

Main results:

- Definition {lit}`mainProcess`.
- Theorems {lit}`sat_mainProcess` and {lit}`sat_run`: the rules that its properties rest on.

Current gaps:

- The signal handler is left out, and so are the exceptions of the standard library.
-/

namespace SocketDispatcher

open Interaction

namespace Mylsnr

/-! ## The program -/

/-- The password of the key file. -/
def keyPassword : List Byte := ascii "1q2w3e4r"

/-- The body of {lit}`UnixListenerSocket::~UnixListenerSocket`, if the object is one and nothing
refers to it any more. -/
def removeSocketFile (p : Ptr) : Proc Unit := do
  let m ← get
  match m.heap p with
  | none => pure ()
  | some socket =>
      Program.when (socket.cls == .unixListenerSocket && !decide (m.Referenced p)) do
        let _ ← Program.ask (.unlink (cString MY_SOCK_PATH))
        pure ()

/-- A variable of {lit}`main` goes out of scope. -/
def dropLocal (p : Ptr) : Proc Unit := do
  modify fun m => { m with locals := m.locals.erase p }
  removeSocketFile p
  release p

/-- The end of the inner block of {lit}`main`: {lit}`outputSocketsList`, {lit}`socketsList` and
then both listening sockets are destroyed, the last one first. -/
def leaveScope : Proc Unit := do
  clearOutput
  clearSockets
  let m ← get
  Program.forEach m.locals.reverse dropLocal

/-- {lit}`main(argc, argv)`, where {lit}`getopt` finds the given arguments.  The result is the
exit status. -/
def mainProcess (args : List Argument) (iterations : Nat) : Proc Int := do
  modify fun m => { m with appCfg := settings args }
  let m ← get
  let failed ← createContext m.appCfg.caFile m.appCfg.certFile m.appCfg.keyFile keyPassword
  if failed ≠ 0 then
    pure 1
  else do
    let m ← get
    if m.ssl.sslGlobalCtx.isNone then
      -- createTcpSslListenerSocketFactory throws, and main catches the exception
      pure 1
    else do
      start iterations
      leaveScope
      dropContext
      pure 0

/-! ## Rules -/

section Rules

variable {W A : Type} {K : Kernel W Call Reply A}
variable {H : Memory → W → Call → Reply → Prop} {G : Memory → W → Call → Prop}
variable {s : Memory} {w : W} {iterations : Nat}

/-- The exit status is one without a context, and zero otherwise. -/
theorem sat_mainProcess {args : List Argument} {Q : Memory → W → Int → Prop}
    (hcreate : Sat K H G (createContext (settings args).caFile (settings args).certFile
      (settings args).keyFile keyPassword) (fun s w _ => Q s w 1 ∧
        (s.ssl.sslGlobalCtx.isSome = true → Sat K H G (start iterations) (fun s w _ =>
          Sat K H G leaveScope (fun s w _ => ∀ ssl, Q { s with ssl := ssl } w 0) s w) s w))
      (booted (settings args)) w) :
    Sat K H G (mainProcess args iterations) Q (booted {}) w := by
  rw [mainProcess, sat_bind, sat_modify, sat_bind, sat_get, sat_bind]
  apply hcreate.mono
  rintro s w failed ⟨hone, hstart⟩
  rw [sat_ite]
  split
  · exact hone
  · rw [sat_bind, sat_get, sat_ite]
    split
    · exact hone
    next hctx =>
      have hsome : s.ssl.sslGlobalCtx.isSome = true :=
        Option.isSome_iff_ne_none.mpr (by simpa using hctx)
      refine (hstart hsome).seq fun s w _ hleave => ?_
      refine hleave.seq fun s w _ hzero => ?_
      rw [sat_bind, dropContext, sat_bind, sat_get, sat_ite]
      split
      · exact hzero _
      · exact hzero s.ssl

/-- The pointers are listed, and then come the main loop and the farewell. -/
theorem sat_run {tcpListenerSocket unixListenerSocket : Ptr} (Head Left Over : Memory → W → Prop)
    {Q : Memory → W → Unit → Prop}
    (hlist : Sat K H G create_dispatcher (fun s w _ =>
      Sat K H G (putSocket tcpListenerSocket) (fun s w _ =>
        Sat K H G (putSocket unixListenerSocket) (fun s w _ => Head s w) s w) s w) s w)
    (hloop : ∀ s w, Head s w → Sat K H G (mainLoop iterations) (fun s w _ => Left s w) s w)
    (hbye : ∀ s w, Left s w → Sat K H G sayGoodbyeToAllDispatchers (fun s w _ => Over s w) s w)
    (hwait : ∀ s w, Over s w → Sat K H G (Program.ask .waitpid) (fun s w _ => Q s w ()) s w) :
    Sat K H G (run tcpListenerSocket unixListenerSocket iterations) Q s w := by
  refine hlist.seq fun s w _ hput => ?_
  refine hput.seq fun s w _ hput => ?_
  refine hput.seq fun s w _ hhead => ?_
  refine (hloop s w hhead).seq fun s w _ hleft => ?_
  refine (hbye s w hleft).seq fun s w _ hover => ?_
  rw [sat_bind, wait_disp_child, sat_bind]
  apply (hwait s w hover).mono
  intro s w pid hQ
  rw [sat_ite]
  split
  · exact hQ
  · rw [sat_ite]
    split
    · exact hQ
    · exact hQ

end Rules

end Mylsnr

end SocketDispatcher
