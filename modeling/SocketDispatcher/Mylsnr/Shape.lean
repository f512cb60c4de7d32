import SocketDispatcher.Mylsnr
import SocketDispatcher.Tidy

/-!
# The shape of the listener's memory

Between two operations of the main loop the listener owns its two listening sockets
and a number of connections to dispatchers.  An accepted client is an object only
while it is sent to the dispatchers.

Main results:

- Theorems {lit}`Shape.similar`, {lit}`Shape.pruned`, {lit}`Shape.delSocket`,
  {lit}`Shape.prepared`, {lit}`Shape.polled`, {lit}`Shape.connect` and
  {lit}`Shape.attend`: the operations of the main loop keep the shape.
- Theorem {lit}`shape_listening`: the listener enters its loop with it.
-/

namespace SocketDispatcher

namespace Mylsnr

/-! ## Accepted connections -/

/-- The object around an accepted descriptor. -/
def connection (d : Int) (hd : 0 ≤ d) (socketType : SocketType) : Socket where
  cls := .socket
  descriptor := d
  socketType := socketType
  descriptor_ne := ne_FREE_SOCKET_of_nonneg hd

/-- Memory once a dispatcher is in the sockets list. -/
def connect (s : Memory) (d : Int) (hd : 0 ≤ d) : Memory :=
  { s.alloc (connection d hd .UNIX) with
    socketsList := (s.socketsList.putSocket s.next).1 }

/-- Memory once the object of a connection is gone again; the control buffer of the
sending side may have changed. -/
def attend (s : Memory) (sendCmptr : Option Int) : Memory :=
  { s with next := s.next + 1, sendCmptr := sendCmptr }

/-! ## The shape -/

/-- The identity of the listening TCP socket. -/
def tcpIdentity (descriptor : Int) : SocketClass × Bool × Int × SocketType × Bool :=
  (.tcpSslListenerSocket, false, descriptor, .TCP, true)

/-- The identity of the listening UNIX socket. -/
def unixIdentity (descriptor : Int) : SocketClass × Bool × Int × SocketType × Bool :=
  (.unixListenerSocket, false, descriptor, .UNIX, true)

/-- The identity of a connection to a dispatcher. -/
def dispatcherIdentity (descriptor : Int) : SocketClass × Bool × Int × SocketType × Bool :=
  (.socket, false, descriptor, .UNIX, false)

/-- What holds of the listener's memory between two operations. -/
structure Shape (tcp unix : Int) (s : Memory) : Prop extends
    Memory.Tidy MAX_SOCKETS s where
  tcp : ∃ socket, s.heap tcpListenerSocket = some socket ∧ socket.identity = tcpIdentity tcp
  unix : ∃ socket, s.heap unixListenerSocket = some socket ∧
    socket.identity = unixIdentity unix
  dispatcher : ∀ p socket, p ≠ tcpListenerSocket → p ≠ unixListenerSocket →
    s.heap p = some socket → socket.identity = dispatcherIdentity socket.descriptor
  listeners_lt : tcpListenerSocket < s.next ∧ unixListenerSocket < s.next
  locals : s.locals = [tcpListenerSocket, unixListenerSocket]

/-- The sockets whose objects are not the listening ones. -/
def IsConnection (p : Ptr) : Prop :=
  p ≠ tcpListenerSocket ∧ p ≠ unixListenerSocket

instance (p : Ptr) : Decidable (IsConnection p) :=
  inferInstanceAs (Decidable (_ ∧ _))

namespace Shape

variable {tcp unix : Int} {s s' : Memory}

theorem next_ne_nullptr (h : Shape tcp unix s) : s.next ≠ nullptr :=
  Nat.ne_of_gt (Nat.lt_of_le_of_lt (Nat.zero_le _) h.listeners_lt.1)

/-- A new object is not a listening socket. -/
theorem isConnection_next (h : Shape tcp unix s) : IsConnection s.next :=
  ⟨Nat.ne_of_gt h.listeners_lt.1, Nat.ne_of_gt h.listeners_lt.2⟩

theorem tcp_referenced (h : Shape tcp unix s) : s.Referenced tcpListenerSocket :=
  Or.inr (Or.inr (by simp [h.locals]))

theorem unix_referenced (h : Shape tcp unix s) : s.Referenced unixListenerSocket :=
  Or.inr (Or.inr (by simp [h.locals]))

theorem tcp_identity (h : Shape tcp unix s) {socket : Socket}
    (hsocket : s.heap tcpListenerSocket = some socket) :
    socket.identity = tcpIdentity tcp := by
  rcases h.tcp with ⟨socket', hsocket', hid⟩
  rw [hsocket', Option.some.injEq] at hsocket
  exact hsocket ▸ hid

theorem unix_identity (h : Shape tcp unix s) {socket : Socket}
    (hsocket : s.heap unixListenerSocket = some socket) :
    socket.identity = unixIdentity unix := by
  rcases h.unix with ⟨socket', hsocket', hid⟩
  rw [hsocket', Option.some.injEq] at hsocket
  exact hsocket ▸ hid

theorem descriptorOf_tcp (h : Shape tcp unix s) : s.descriptorOf tcpListenerSocket = tcp := by
  rcases h.tcp with ⟨socket, hsocket, hid⟩
  rw [Memory.descriptorOf, hsocket]
  exact congrArg (·.2.2.1) hid

theorem descriptorOf_unix (h : Shape tcp unix s) : s.descriptorOf unixListenerSocket = unix := by
  rcases h.unix with ⟨socket, hsocket, hid⟩
  rw [Memory.descriptorOf, hsocket]
  exact congrArg (·.2.2.1) hid

/-- Between two operations no object is protected. -/
theorem unprotected (h : Shape tcp unix s) {p : Ptr} {socket : Socket}
    (hsocket : s.heap p = some socket) : socket.protectDescriptor = false := by
  by_cases hp : p = tcpListenerSocket
  · subst hp
    exact congrArg (·.2.1) (h.tcp_identity hsocket)
  · by_cases hp' : p = unixListenerSocket
    · subst hp'
      exact congrArg (·.2.1) (h.unix_identity hsocket)
    · exact congrArg (·.2.1) (h.dispatcher p socket hp hp' hsocket)

/-- The list is never too long to be polled. -/
theorem not_too_many (h : Shape tcp unix s) :
    ¬s.socketsList.sockets.length > MAX_SOCKETS_TO_POLL := by
  have hbounded := s.socketsList.bounded
  rw [h.maxSize] at hbounded
  exact Nat.not_lt_of_le (Nat.le_trans hbounded (by decide))

/-- The sockets that clients are sent to. -/
theorem isDispatcher_iff (h : Shape tcp unix s) {p : Ptr} {socket : Socket}
    (hsocket : s.heap p = some socket) : socket.isDispatcher = true ↔ IsConnection p := by
  by_cases hp : p = tcpListenerSocket
  · subst hp
    have hlisten : socket.listenSocket = true :=
      congrArg (·.2.2.2.2) (h.tcp_identity hsocket)
    simp [Socket.isDispatcher, hlisten, IsConnection]
  · by_cases hp' : p = unixListenerSocket
    · subst hp'
      have hlisten : socket.listenSocket = true :=
        congrArg (·.2.2.2.2) (h.unix_identity hsocket)
      simp [Socket.isDispatcher, hlisten, IsConnection]
    · have hid := h.dispatcher p socket hp hp' hsocket
      have htype : socket.socketType = .UNIX := congrArg (·.2.2.2.1) hid
      have hlisten : socket.listenSocket = false := congrArg (·.2.2.2.2) hid
      simp [Socket.isDispatcher, htype, hlisten, IsConnection, hp, hp']

theorem similar (h : Shape tcp unix s) (hsim : s.Similar s') : Shape tcp unix s' where
  toTidy := h.toTidy.similar hsim
  tcp := by
    rcases h.tcp with ⟨socket, hsocket, hid⟩
    rcases hsim.symm.object hsocket with ⟨socket', hsocket', hid'⟩
    exact ⟨socket', hsocket', hid' ▸ hid⟩
  unix := by
    rcases h.unix with ⟨socket, hsocket, hid⟩
    rcases hsim.symm.object hsocket with ⟨socket', hsocket', hid'⟩
    exact ⟨socket', hsocket', hid' ▸ hid⟩
  dispatcher p socket' hp hp' hsocket' := by
    rcases hsim.object hsocket' with ⟨socket, hsocket, hid⟩
    have hdescriptor : socket'.descriptor = socket.descriptor := congrArg (·.2.2.1) hid
    rw [hid, h.dispatcher p socket hp hp' hsocket, hdescriptor]
  listeners_lt := hsim.next ▸ h.listeners_lt
  locals := hsim.locals ▸ h.locals

theorem pruned (h : Shape tcp unix s) (hpruned : s.Pruned s') : Shape tcp unix s' where
  toTidy := h.toTidy.pruned hpruned
  tcp := by
    rw [hpruned.heap_of_referenced h.tcp_referenced]
    exact h.tcp
  unix := by
    rw [hpruned.heap_of_referenced h.unix_referenced]
    exact h.unix
  dispatcher p socket hp hp' hsocket := h.dispatcher p socket hp hp' (hpruned.object hsocket)
  listeners_lt := hpruned.next ▸ h.listeners_lt
  locals := hpruned.locals ▸ h.locals

theorem clearOutput (h : Shape tcp unix s) :
    Shape tcp unix { s with outputSocketsList := s.outputSocketsList.clear } :=
  ⟨h.toTidy.clearOutput, h.tcp, h.unix, h.dispatcher, h.listeners_lt, h.locals⟩

theorem delSocket (h : Shape tcp unix s) (d : Int) :
    Shape tcp unix
      { s with socketsList := (SocketsList.delSocket s.descriptorOf s.socketsList d).1 } :=
  ⟨h.toTidy.delSocket d, h.tcp, h.unix, h.dispatcher, h.listeners_lt, h.locals⟩

theorem prepared (h : Shape tcp unix s) (hprepared : Prepared s s') :
    Shape tcp unix s' := by
  rcases hprepared with ⟨s₁, s₂, hask, hpruned, hreads⟩
  exact ((h.similar hask.similar).clearOutput.pruned hpruned).similar hreads.similar

/-- A successful poll keeps the shape. -/
theorem polled (h : Shape tcp unix s) (hempty : s.outputSocketsList.sockets = [])
    (revents : List Events) : Shape tcp unix (s.polled revents) := by
  have hsimilar := s.similar_polled revents
  have htidy := (h.toTidy.polled hempty revents).similar hsimilar.symm
  exact Shape.similar ⟨htidy, h.tcp, h.unix, h.dispatcher, h.listeners_lt, h.locals⟩ hsimilar

/-- A full list stays as it is. -/
theorem connect_of_full (h : Shape tcp unix s) {d : Int} (hd : 0 ≤ d)
    (hfull : s.socketsList.sockets.length = MAX_SOCKETS) :
    Mylsnr.connect s d hd = s.alloc (connection d hd .UNIX) := by
  have hlist : (s.socketsList.putSocket s.next).1 = s.socketsList := by
    simp [SocketsList.putSocket, hfull, h.maxSize]
  rw [Mylsnr.connect, hlist]
  rfl

/-- The object of a connection goes again. -/
theorem erase_alloc (h : Shape tcp unix s) (socket : Socket) (content : Option Int) :
    ({ s.alloc socket with sendCmptr := content } : Memory).erase s.next =
      Mylsnr.attend s content := by
  ext1
  case heap =>
    funext q
    by_cases hq : q = s.next
    · simp [Mylsnr.attend, hq, h.fresh s.next (Nat.le_refl _)]
    · simp [Mylsnr.attend, hq]
  all_goals rfl

/-- A new dispatcher may join the sockets list. -/
theorem connect (h : Shape tcp unix s) {d : Int} (hd : 0 ≤ d) :
    Shape tcp unix (Mylsnr.connect s d hd) where
  toTidy := h.toTidy.join (Nat.le_refl _) (Nat.lt_succ_self _) (connection d hd .UNIX)
  tcp := by
    have hne : tcpListenerSocket ≠ s.next := Nat.ne_of_lt h.listeners_lt.1
    simpa [Mylsnr.connect, hne] using h.tcp
  unix := by
    have hne : unixListenerSocket ≠ s.next := Nat.ne_of_lt h.listeners_lt.2
    simpa [Mylsnr.connect, hne] using h.unix
  dispatcher p socket hp hp' hsocket := by
    by_cases hnew : p = s.next
    · simp only [Mylsnr.connect, Memory.alloc_heap, hnew, if_true,
        Option.some.injEq] at hsocket
      rw [← hsocket]
      rfl
    · simp only [Mylsnr.connect, Memory.alloc_heap, hnew, if_false] at hsocket
      exact h.dispatcher p socket hp hp' hsocket
  listeners_lt := ⟨Nat.lt_succ_of_lt h.listeners_lt.1, Nat.lt_succ_of_lt h.listeners_lt.2⟩
  locals := h.locals

/-- A connection that has gone again leaves nothing behind. -/
theorem attend (h : Shape tcp unix s) (sendCmptr : Option Int) :
    Shape tcp unix (Mylsnr.attend s sendCmptr) :=
  have hskip : Shape tcp unix { s with next := s.next + 1 } :=
    ⟨h.toTidy.skip (Nat.le_succ _), h.tcp, h.unix, h.dispatcher,
      ⟨Nat.lt_succ_of_lt h.listeners_lt.1, Nat.lt_succ_of_lt h.listeners_lt.2⟩, h.locals⟩
  hskip.similar ⟨fun _ => rfl, rfl, rfl, rfl, rfl⟩

end Shape

/-! ## The start -/

/-- Memory once the listening sockets are in the list. -/
def listening (tcp unix : Nat) (appCfg : ApplicationConfig) : Memory :=
  { started tcp unix appCfg with
    socketsList := ⟨[tcpListenerSocket, unixListenerSocket], MAX_SOCKETS, by decide⟩ }

/-- The listener enters its loop with this shape. -/
theorem shape_listening (tcp unix : Nat) (appCfg : ApplicationConfig) :
    Shape tcp unix (listening tcp unix appCfg) where
  fresh p hp := by
    have hlt : tcpListenerSocket < 3 ∧ unixListenerSocket < 3 := by decide
    have htcp : p ≠ tcpListenerSocket := Nat.ne_of_gt (Nat.lt_of_lt_of_le hlt.1 hp)
    have hunix : p ≠ unixListenerSocket := Nat.ne_of_gt (Nat.lt_of_lt_of_le hlt.2 hp)
    simp [listening, started, htcp, hunix]
  live p hp := by
    have hlistener : p = tcpListenerSocket ∨ p = unixListenerSocket := by
      simpa [listening, started, Memory.Referenced, SocketsList.empty] using hp
    rcases hlistener with rfl | rfl
    · simp [listening, started]
    · simp [listening, started, tcpListenerSocket, unixListenerSocket]
  nodup := by
    change [tcpListenerSocket, unixListenerSocket].Nodup
    decide
  outputNodup := List.nodup_nil
  maxSize := rfl
  outputMaxSize := rfl
  tcp := ⟨_, rfl, rfl⟩
  unix := ⟨_, rfl, rfl⟩
  dispatcher p socket hp hp' hsocket := by simp [listening, started, hp, hp'] at hsocket
  listeners_lt := ⟨by simp [listening, started, tcpListenerSocket],
    by simp [listening, started, unixListenerSocket]⟩
  locals := rfl

end Mylsnr

end SocketDispatcher
