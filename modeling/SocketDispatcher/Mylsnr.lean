import SocketDispatcher.ApplicationConfig.CommandLine
import SocketDispatcher.SocketsPoller
import SocketDispatcher.SocketUtils

/-!
# The listener

The functions of {lit}`mylsnr.cpp`, its main loop, and the
{lit}`acceptConnection` methods of the listening sockets.

Main results:

- Definitions {lit}`processClientConnection`, {lit}`processDispatcherConnection`,
  {lit}`processSockets` and {lit}`main`: the program whose runs the later modules
  speak about.
- Theorem {lit}`zero_not_mem_configText`: the text of the configuration message holds
  no terminator.

Current gaps:

- {lit}`main` starts with both listening sockets created; the start-up that creates
  them is in {lit}`Mylsnr.WellFormed`, and all of the program, from its command line to
  its exit status, in {lit}`Mylsnr.MainProcess`.
-/

namespace SocketDispatcher

open Interaction

namespace Mylsnr

/-! ## Accepting connections -/

/-- Wrap an accepted descriptor, or return the empty pointer on error. -/
def acceptedSocket (newfd : Int) (socketType : SocketType) : Proc Ptr :=
  if h : newfd < 0 then
    pure nullptr
  else
    makeShared
      { cls := .socket, descriptor := newfd, socketType := socketType
        descriptor_ne := ne_FREE_SOCKET_of_nonneg (Int.not_lt.mp h) }

/-- {lit}`TcpSslListenerSocket::acceptConnection`: accept and do the handshake.
The descriptor belongs to no object until the handshake is over. -/
def acceptSslConnection (descriptor : Int) : Proc Ptr := do
  let newfd ← Program.ask (.accept descriptor)
  if newfd.ret < 0 then
    pure nullptr
  else do
    let r ← Program.ask (.sslAccept newfd.ret)
    if r.ret ≤ 0 then
      pure nullptr
    else
      acceptedSocket newfd.ret .SSL

/-- {lit}`UnixListenerSocket::acceptConnection` and
{lit}`TcpListenerSocket::acceptConnection`. -/
def acceptPlainConnection (descriptor : Int) (socketType : SocketType) : Proc Ptr := do
  let newfd ← Program.ask (.accept descriptor)
  acceptedSocket newfd.ret socketType

/-- The virtual method {lit}`acceptConnection`.  The one of the base class is a
failing assertion. -/
def acceptConnection (p : Ptr) : Proc Ptr := do
  let socket ← deref p
  match socket.cls with
  | .tcpSslListenerSocket => acceptSslConnection socket.descriptor
  | .tcpListenerSocket => acceptPlainConnection socket.descriptor .TCP
  | .unixListenerSocket => acceptPlainConnection socket.descriptor .UNIX
  | _ => crash

/-! ## Dispatcher processes -/

/-- {lit}`create_dispatcher`.  In the child the program is replaced. -/
def create_dispatcher : Proc Int := do
  let r ← Program.ask .fork
  if r.ret < 0 then
    pure (-1)
  else if r.ret = 0 then do
    let _ ← Program.ask .execl
    crash
  else
    pure 0

/-- Wait for child pid with no hang. -/
def wait_disp_child : Proc Int := do
  let pid ← Program.ask .waitpid
  if pid.ret = -1 then
    pure (-1)
  else if pid.ret > 0 then
    pure pid.ret
  else
    pure 0

/-! ## Connections -/

/-- Send a client to one socket of the list if it is a dispatcher. -/
def sendToDispatcher (clientConnection s : Ptr) : Proc Unit := do
  let socket ← deref s
  Program.when socket.isDispatcher do
    let _ ← sendSocket s clientConnection
    pure ()

/-- Accept a client and send it to the dispatchers. -/
def processClientConnection (listenerTcpSocket : Ptr) : Proc Bool := do
  let clientConnection ← acceptConnection listenerTcpSocket
  if clientConnection = nullptr then
    pure false
  else do
    let m ← get
    Program.forEach m.socketsList.sockets (sendToDispatcher clientConnection)
    -- the local pointer goes out of scope
    release clientConnection
    pure true

/-- The text that {lit}`snprintf` makes of the process id and the file names;
{lit}`%s` stops at a zero byte. -/
def configText (pid : Int) (cfg : ApplicationConfig) : List Byte :=
  ascii "PPID=" ++ decimal pid ++ ascii "\n" ++
  ascii "CAFILE=" ++ cString cfg.caFile ++ ascii "\n" ++
  ascii "CERTFILE=" ++ cString cfg.certFile ++ ascii "\n" ++
  ascii "KEYFILE=" ++ cString cfg.keyFile ++ ascii "\n"

/-- The label in front of the configuration text. -/
def configLabel : List Byte := ascii "CONFIG"

/-- The request to end a dispatcher. -/
def exitMessage : List Byte := ascii "EXIT"

/-- Send the configuration to a dispatcher that has connected. -/
def sendConfig (descriptor : Int) : Proc Bool := do
  let label ← Program.ask (.write descriptor configLabel)
  if label.ret < 0 then
    pure false
  else do
    let pid ← Program.ask .getpid
    let m ← get
    if (configText pid.ret m.appCfg).length < 4096 then do
      let text ← Program.ask (.write descriptor (configText pid.ret m.appCfg))
      pure (!decide (text.ret < 0))
    else
      crash

/-- Accept a dispatcher and send it the configuration. -/
def processDispatcherConnection (dispatcherSocket : Ptr) : Proc Bool := do
  let dispatcherConnection ← acceptConnection dispatcherSocket
  if dispatcherConnection = nullptr then
    pure false
  else do
    let _ ← putSocket dispatcherConnection
    let socket ← deref dispatcherConnection
    let sent ← sendConfig socket.descriptor
    -- the local pointer goes out of scope
    release dispatcherConnection
    pure sent

/-- Handle one socket with re-events. -/
def processSocket (p : Ptr) : Proc Unit := do
  let socket ← deref p
  if socket.isDropped then do
    let _ ← delSocket p
    pure ()
  else if socket.socketType = .TCP ∧ socket.listenSocket = true then do
    let _ ← processClientConnection p
    pure ()
  else if socket.socketType = .UNIX ∧ socket.listenSocket = true then do
    let _ ← processDispatcherConnection p
    pure ()
  else
    pure ()

/-- {lit}`processSockets(socketsList, outputSocketsList)` -/
def processSockets : Proc Unit := do
  let m ← get
  Program.forEach m.outputSocketsList.sockets processSocket

/-- Ask one socket of the list to exit if it is a dispatcher. -/
def sayGoodbye (s : Ptr) : Proc Unit := do
  let socket ← deref s
  Program.when socket.isDispatcher do
    let _ ← Program.ask (.write socket.descriptor exitMessage)
    pure ()

def sayGoodbyeToAllDispatchers : Proc Unit := do
  let m ← get
  Program.forEach m.socketsList.sockets sayGoodbye

/-! ## Main loop -/

/-- Request read events of a listed socket. -/
def pollForRead (p : Ptr) : Proc Unit := do
  let _ ← deref p
  modifySocket p Socket.pollForRead

/-- Restart the dispatcher if {lit}`waitpid` reported a child. -/
def restartDispatcher : Proc Unit := do
  let pid ← wait_disp_child
  Program.when (decide (pid > 0)) do
    let _ ← create_dispatcher
    pure ()

/-- What an iteration does with the outcome of the poll.  The result is true when
the loop is left. -/
def handlePoll : ErrorType → Proc Bool
  | .NONE => do
      processSockets
      pure false
  | .TIMEOUT => do
      restartDispatcher
      pure false
  | .INTERRUPTED => pure false
  | .ERROR => pure true

/-- Body of the main loop.  The result is true when the loop is left. -/
def iteration : Proc Bool := do
  note .loopHead
  clearOutput
  let m ← get
  Program.forEach m.socketsList.sockets pollForRead
  let errorType ← pollSockets
  let stop ← handlePoll errorType
  note .loopEnd
  pure stop

/-- Test the loop condition and run the body. -/
def testAndIterate : Proc Bool := do
  let requested ← Program.ask .exitRequested
  if requested.ret ≠ 0 then pure true else iteration

/-- The main loop, at most the given number of times around. -/
def mainLoop (iterations : Nat) : Proc Unit :=
  Program.repeatUntil testAndIterate iterations

def tcpListenerSocket : Ptr := 1
def unixListenerSocket : Ptr := 2

/-- {lit}`main` from the creation of the dispatcher on. -/
def main (iterations : Nat) : Proc Unit := do
  let _ ← create_dispatcher
  let _ ← putSocket tcpListenerSocket
  let _ ← putSocket unixListenerSocket
  mainLoop iterations
  sayGoodbyeToAllDispatchers
  let _ ← wait_disp_child
  pure ()

/-- The file names that {lit}`main` falls back on. -/
def defaultSettings : ApplicationConfig where
  caFile := ascii "../CA-cert.pem"
  certFile := ascii "../server-cert.pem"
  keyFile := ascii "../server-key.pem"

/-- The configuration that {lit}`main` reads, or its default file names if the verdict is
that the configuration failed. -/
def settings (args : List Argument) : ApplicationConfig :=
  let appCfg := ApplicationConfigImpl.create args .LISTENER
  if appCfg.ok then
    appCfg.toApplicationConfig
  else
    ((appCfg.toApplicationConfig.setCaFile defaultSettings.caFile).setCertFile
      defaultSettings.certFile).setKeyFile defaultSettings.keyFile

/-- The fallback overrides every name. -/
theorem settings_eq (args : List Argument) :
    settings args = defaultSettings ∨
      settings args = (ApplicationConfigImpl.create args .LISTENER).toApplicationConfig := by
  rw [settings]
  split
  · exact Or.inr rfl
  · exact Or.inl rfl

/-- Maximum size of both lists. -/
def MAX_SOCKETS : Nat := 100

/-- The memory of {lit}`main` once both listening sockets exist, for their
descriptors and the configuration that was read. -/
def started (tcp unix : Nat) (appCfg : ApplicationConfig) : Memory where
  heap p :=
    if p = tcpListenerSocket then
      some
        { cls := .tcpSslListenerSocket, descriptor := tcp, socketType := .TCP
          listenSocket := true, descriptor_ne := natCast_ne_FREE_SOCKET tcp }
    else if p = unixListenerSocket then
      some
        { cls := .unixListenerSocket, descriptor := unix, socketType := .UNIX
          listenSocket := true, descriptor_ne := natCast_ne_FREE_SOCKET unix }
    else none
  next := 3
  socketsList := SocketsList.empty MAX_SOCKETS
  outputSocketsList := SocketsList.empty MAX_SOCKETS
  locals := [tcpListenerSocket, unixListenerSocket]
  appCfg := appCfg

/-! ## The configuration text -/

/-- The text never contains a zero byte. -/
theorem zero_not_mem_configText (pid : Int) (cfg : ApplicationConfig) :
    0 ∉ configText pid cfg := by
  have hpid : 0 ∉ decimal pid := fun h => (decimal_printable h).1 rfl
  have hlit : ∀ text ∈ [ascii "PPID=", ascii "\n", ascii "CAFILE=", ascii "CERTFILE=",
      ascii "KEYFILE="], (0 : Byte) ∉ text := by decide
  simp only [List.mem_cons, List.not_mem_nil, or_false, forall_eq_or_imp, forall_eq] at hlit
  obtain ⟨hppid, hline, hca, hcert, hkey⟩ := hlit
  simp [configText, hpid, hppid, hline, hca, hcert, hkey, zero_not_mem_cString]

end Mylsnr

end SocketDispatcher
