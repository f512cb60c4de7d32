import SocketDispatcher.InitSsl
import SocketDispatcher.ReceivedTcpSocketFactory
import SocketDispatcher.SocketsPoller
import SocketDispatcher.SocketUtils

/-!
# The dispatcher

The functions of {lit}`mydisp.cpp` and its main loop.  Endless loops take the
number of iterations after which a run is no longer followed.

Main results:

- Definitions {lit}`dispatcherProcess`, {lit}`processClient` and
  {lit}`mainLoop`: the program whose runs the later modules speak about.
- Theorem {lit}`configLoop_eq`: the parsing loop of {lit}`processConfig` applies
  the terminated lines of its buffer in order.

Current gaps:

- The start-up of {lit}`main` is represented by the memory it builds.
- Of the OpenSSL objects only the global context is followed.  The constructor of
  {lit}`SslSocket` crashes without it, and is taken to succeed with it.
-/

namespace SocketDispatcher

open Interaction

namespace Mydisp

def MAX_SOCKETS : Nat := 10

/-! ## Configuration -/

/-- The line separator. -/
def newline : Byte := 10

/-- The loop of {lit}`processConfig`.  {lit}`line` holds the bytes between
{lit}`startPointer` and {lit}`endPointer`; at a line break they are copied to the
line buffer with a terminating zero. -/
def configLoop :
    List Byte → List Byte → List Byte → ApplicationConfig → ApplicationConfig
  | [], _, _, appCfg => appCfg
  | b :: rest, line, lineBuffer, appCfg =>
      if b ≠ newline then
        configLoop rest (line ++ [b]) lineBuffer appCfg
      else
        let lineBuffer := memcpy lineBuffer (line ++ [0])
        configLoop rest [] lineBuffer (appCfg.retrieveConfigOption lineBuffer)

/-- Process configuration received from parent process. -/
def processConfig (bufferConfig : List Byte) (bufferSize : Nat) : Proc Bool := do
  let lineBuffer ← Program.ask (.automatic 256)
  modify fun m =>
    { m with appCfg := configLoop (bufferConfig.take bufferSize) [] lineBuffer.bytes m.appCfg }
  let m ← get
  let error ← createContext m.appCfg.caFile m.appCfg.certFile m.appCfg.keyFile
    (ascii "1q2w3e4r")
  pure (error == 0)

/-! ## Messages of the listener -/

/-- {lit}`SslSocket::SslSocket(Socket::Ptr)` -/
def sslSocket (socket : Socket) : Socket where
  cls := .sslSocket
  descriptor := socket.descriptor
  socketType := .SSL
  descriptor_ne := socket.descriptor_ne

/-- {lit}`std::make_shared<SslSocket>(std::move(clientSocket))`: the descriptor
passes to the new object, the old one is protected and dies. -/
def makeSslSocket (clientSocket : Ptr) : Proc Ptr := do
  let socket ← deref clientSocket
  let m ← get
  if m.ssl.sslGlobalCtx.isNone then
    -- SSL_new has nothing to return, and SSL_set_bio dereferences its result
    crash
  else do
    let clientSslSocket ← makeShared (sslSocket socket)
    modifySocket clientSocket Socket.protect
    release clientSocket
    pure clientSslSocket

/-- Put a received client into the sockets list and let it be greeted. -/
def acceptClient (clientSocket : Ptr) : Proc Unit := do
  let clientSslSocket ← makeSslSocket clientSocket
  let stored ← putSocket clientSslSocket
  Program.when (!stored) do
    let _ ← write clientSslSocket (ascii "FAILED BUSY TRY LATER!!!!\n")
    pure ()
  modifySocket clientSslSocket Socket.pollForWrite
  modifySocket clientSslSocket (Socket.setClientStatus .HELLO)
  -- the local pointer goes out of scope
  release clientSslSocket

/-- Try to receive client TCP socket from the UNIX socket.  Read configuration. -/
def dispatcherProcess (unixSocket : Ptr) (fuel : Nat) : Proc Bool := do
  let socket ← deref unixSocket
  if socket.isDropped then
    pure false
  else do
    let message ← Program.ask (.automatic 200)
    let r ← Program.ask (.recv socket.descriptor message.bytes 200 true)
    let message := memcpy message.bytes r.bytes
    if r.ret = 0 then
      pure false
    else if r.ret = 2 then do
      let clientSocket ← createSocket unixSocket fuel
      if clientSocket = nullptr then
        pure false
      else do
        acceptClient clientSocket
        pure true
    else if memcmp message (ascii "CONFIG") then do
      let configBuffer ← Program.ask (.automatic 4096)
      let r ← Program.ask (.recv socket.descriptor configBuffer.bytes 4096 false)
      if r.ret < 0 then
        pure false
      else
        processConfig (memcpy configBuffer.bytes r.bytes) r.ret.toNat
    else if memcmp message (ascii "EXIT") then
      pure false
    else
      pure true

/-! ## Clients -/

/-- The part of {lit}`processClient` that answers a writable client. -/
def answerClient (clientSocket : Ptr) : Proc Bool := do
  let socket ← deref clientSocket
  if socket.isWriteAvailable then
    match socket.clientStatus with
    | .HELLO => do
        let bytes ← write clientSocket (ascii "HELLO!!!!\n")
        modifySocket clientSocket (Socket.setClientStatus .ECHO)
        pure (bytes != -1)
    | .ECHO => do
        let bytes ← write clientSocket (ascii "ECHOO!!!!\n")
        pure (bytes != -1)
    | .BYE => do
        let _ ← write clientSocket (ascii "BYE...\n")
        pure false
    | .NONE => pure true
  else
    pure true

/-- Handle the re-events of a client.  The result is false when the client is to
be dropped. -/
def processClient (clientSocket : Ptr) : Proc Bool := do
  let socket ← deref clientSocket
  if socket.isDropped then
    pure false
  else if socket.isReadAvailable then do
    let buffer ← Program.ask (.automatic 100)
    let bytes ← read clientSocket buffer.bytes 100
    if bytes.1 = 0 then do
      -- typically the client has closed the connection: write to provoke an error
      let written ← write clientSocket (ascii "EXIT\n")
      if written < 0 then pure false else answerClient clientSocket
    else if bytes.1 > 0 then do
      Program.when (memcmp bytes.2 (ascii "EXIT"))
        (modifySocket clientSocket (Socket.setClientStatus .BYE))
      modifySocket clientSocket (Socket.setRevents POLLOUT)
      answerClient clientSocket
    else
      pure false
  else
    answerClient clientSocket

/-! ## Main loop -/

/-- Request read events of a client. -/
def pollClientForRead (p : Ptr) : Proc Unit := do
  let socket ← deref p
  Program.when (socket.socketType != .UNIX) (modifySocket p Socket.pollForRead)

/-- Body of the loop over {lit}`reSocketsList`.  The result is true when the
dispatcher has failed. -/
def processReEvents (unixSocket : Ptr) (fuel : Nat) (p : Ptr) : Proc Bool := do
  let socket ← deref p
  if socket.socketType = .UNIX then do
    let result ← dispatcherProcess unixSocket fuel
    note (.dispatcherProcess result)
    pure (!result)
  else if socket.socketType = .TCP ∨ socket.socketType = .SSL then do
    let result ← processClient p
    Program.when (!result) do
      note (.clientDropped p)
      let _ ← delSocket p
      pure ()
    pure false
  else
    pure false

/-- What a cycle does with the outcome of the poll.  The result is
{lit}`dispatcherFailed`. -/
def handlePoll (unixSocket : Ptr) (fuel : Nat) : ErrorType → Proc Bool
  | .NONE => do
      let m ← get
      Program.forUntil m.outputSocketsList.sockets (processReEvents unixSocket fuel)
  | .TIMEOUT => pure false
  | .INTERRUPTED => pure false
  | .ERROR => pure true

/-- One cycle of the main loop.  The result is {lit}`dispatcherFailed`. -/
def cycle (unixSocket : Ptr) (fuel : Nat) : Proc Bool := do
  note .loopHead
  modifySocket unixSocket Socket.pollForRead
  clearOutput
  let m ← get
  Program.forEach m.socketsList.sockets pollClientForRead
  let errorType ← pollSockets
  let failed ← handlePoll unixSocket fuel errorType
  note .loopEnd
  pure failed

/-- The main loop, at most the given number of times around. -/
def mainLoop (unixSocket : Ptr) (fuel : Nat) (cycles : Nat) : Proc Unit :=
  Program.repeatUntil (cycle unixSocket fuel) cycles

/-- The pointer to the socket that connects the dispatcher to the listener. -/
def unixSocket : Ptr := 1

/-- The memory that {lit}`main` has built when it enters its loop, for the
descriptor of the connected UNIX socket. -/
def started (descriptor : Nat) : Memory where
  heap p :=
    if p = unixSocket then
      some
        { cls := .unixSocket, descriptor := descriptor, socketType := .UNIX
          descriptor_ne := natCast_ne_FREE_SOCKET descriptor }
    else none
  next := 2
  socketsList := ⟨[unixSocket], MAX_SOCKETS, by decide⟩
  outputSocketsList := SocketsList.empty MAX_SOCKETS
  locals := [unixSocket]

/-! ## The parsing loop -/

/-- The complete lines of a buffer, without their line breaks.  The first
argument is the beginning of the current line. -/
def completeLines (line : List Byte) : List Byte → List (List Byte)
  | [] => []
  | b :: rest =>
      if b ≠ newline then completeLines (line ++ [b]) rest
      else line :: completeLines [] rest

/-- The parsing loop applies the complete lines in order.  What the line buffer
held before, and what earlier lines leave in it, does not matter. -/
theorem configLoop_eq (buffer line lineBuffer : List Byte) (appCfg : ApplicationConfig) :
    configLoop buffer line lineBuffer appCfg =
      (completeLines line buffer).foldl ApplicationConfig.applyLine appCfg := by
  induction buffer generalizing line lineBuffer appCfg with
  | nil => rfl
  | cons b rest ih =>
      rw [configLoop, completeLines]
      split
      next => exact ih _ _ _
      next =>
        have hline : memcpy lineBuffer (line ++ [0]) =
            line ++ 0 :: lineBuffer.drop (line ++ [0]).length := by
          simp [memcpy]
        rw [List.foldl_cons, ih, hline,
          ApplicationConfig.retrieveConfigOption_terminated]

/-- The complete lines of a line, its line break and the rest. -/
theorem completeLines_line {text : List Byte} (htext : newline ∉ text)
    (line rest : List Byte) :
    completeLines line (text ++ newline :: rest) =
      (line ++ text) :: completeLines [] rest := by
  induction text generalizing line with
  | nil => simp [completeLines]
  | cons b text ih =>
      have hb : b ≠ newline := fun h => htext (by simp [h])
      have hrest : newline ∉ text := fun h => htext (by simp [h])
      rw [List.cons_append, completeLines, if_pos hb, ih hrest]
      simp

/-- A buffer without a line break has no complete line. -/
theorem completeLines_of_not_mem {buffer : List Byte} (hbuffer : newline ∉ buffer)
    (line : List Byte) : completeLines line buffer = [] := by
  induction buffer generalizing line with
  | nil => rfl
  | cons b rest ih =>
      have hb : b ≠ newline := fun h => hbuffer (by simp [h])
      have hrest : newline ∉ rest := fun h => hbuffer (by simp [h])
      rw [completeLines, if_pos hb, ih hrest]

end Mydisp

end SocketDispatcher
