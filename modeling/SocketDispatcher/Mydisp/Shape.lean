import SocketDispatcher.Mydisp
import SocketDispatcher.Tidy

/-!
# The shape of the dispatcher's memory

Between two operations of the main loop the dispatcher owns one UNIX socket and a
number of TLS clients, every listed pointer is an object, and the lists have no
repetitions.  This file fixes that shape and shows that the operations keep it.

Main results:

- Theorems {lit}`Shape.similar`, {lit}`Shape.pruned`, {lit}`Shape.delSocket`,
  {lit}`Shape.prepared`, {lit}`Shape.polled`, {lit}`Shape.join` and
  {lit}`Shape.refuse`: the operations of the main loop keep the shape.
- Theorem {lit}`shape_started`: the dispatcher enters its loop with it.
-/

namespace SocketDispatcher

open Interaction

namespace Mydisp

/-! ## Received clients -/

/-- A client that is to be greeted. -/
def greeted (tcp : Socket) : Socket :=
  (sslSocket tcp).pollForWrite.setClientStatus .HELLO

/-- Memory once the descriptor of a received socket has passed to a client. -/
def handOver (s : Memory) (tcp : Socket) : Memory :=
  { s with
    heap := Function.update s.heap (s.next + 1) (some (sslSocket tcp))
    next := s.next + 2 }

/-- Memory once a received client is in the sockets list. -/
def join (s : Memory) (tcp : Socket) : Memory :=
  { s with
    heap := Function.update s.heap (s.next + 1) (some (greeted tcp))
    next := s.next + 2
    socketsList := (s.socketsList.putSocket (s.next + 1)).1 }

/-- Memory once a received client has been turned away. -/
def refuse (s : Memory) : Memory :=
  { s with next := s.next + 2 }

/-! ## The shape -/

/-- The identity of the UNIX socket. -/
def unixIdentity (descriptor : Int) : SocketClass × Bool × Int × SocketType × Bool :=
  (.unixSocket, false, descriptor, .UNIX, false)

/-- The identity of a client that has been received. -/
def clientIdentity (descriptor : Int) : SocketClass × Bool × Int × SocketType × Bool :=
  (.sslSocket, false, descriptor, .SSL, false)

/-- What holds of the dispatcher's memory between two operations. -/
structure Shape (descriptor : Int) (s : Memory) : Prop extends
    Memory.Tidy MAX_SOCKETS s where
  unix : ∃ socket, s.heap unixSocket = some socket ∧
    socket.identity = unixIdentity descriptor
  client : ∀ p socket, p ≠ unixSocket → s.heap p = some socket →
    socket.identity = clientIdentity socket.descriptor
  unix_lt : unixSocket < s.next
  locals : s.locals = [unixSocket]

namespace Shape

variable {descriptor : Int} {s s' : Memory}

theorem unix_referenced (h : Shape descriptor s) : s.Referenced unixSocket :=
  Or.inr (Or.inr (by simp [h.locals]))

theorem descriptorOf_unix (h : Shape descriptor s) :
    s.descriptorOf unixSocket = descriptor := by
  rcases h.unix with ⟨socket, hsocket, hid⟩
  rw [Memory.descriptorOf, hsocket]
  exact congrArg (·.2.2.1) hid

theorem descriptor_unix (h : Shape descriptor s) {socket : Socket}
    (hsocket : s.heap unixSocket = some socket) : socket.descriptor = descriptor := by
  simpa [Memory.descriptorOf, hsocket] using h.descriptorOf_unix

/-- The next object is not the empty pointer. -/
theorem next_ne_nullptr (h : Shape descriptor s) : s.next ≠ nullptr :=
  Nat.ne_of_gt (Nat.lt_of_le_of_lt (Nat.zero_le _) h.unix_lt)

theorem isSslSocket (h : Shape descriptor s) {p : Ptr} {socket : Socket}
    (hp : p ≠ unixSocket) (hsocket : s.heap p = some socket) :
    socket.isSslSocket = true := by
  have hcls : socket.cls = .sslSocket := congrArg (·.1) (h.client p socket hp hsocket)
  simp [Socket.isSslSocket, hcls]

/-- Between two operations no object is protected. -/
theorem unprotected (h : Shape descriptor s) {p : Ptr} {socket : Socket}
    (hsocket : s.heap p = some socket) : socket.protectDescriptor = false := by
  by_cases hp : p = unixSocket
  · rcases h.unix with ⟨socket', hsocket', hid⟩
    rw [hp, hsocket', Option.some.injEq] at hsocket
    rw [← hsocket]
    exact congrArg (·.2.1) hid
  · exact congrArg (·.2.1) (h.client p socket hp hsocket)

theorem similar (h : Shape descriptor s) (hsim : s.Similar s') : Shape descriptor s' where
  toTidy := h.toTidy.similar hsim
  unix := by
    rcases h.unix with ⟨socket, hsocket, hid⟩
    rcases hsim.symm.object hsocket with ⟨socket', hsocket', hid'⟩
    exact ⟨socket', hsocket', hid' ▸ hid⟩
  client p socket' hp hsocket' := by
    rcases hsim.object hsocket' with ⟨socket, hsocket, hid⟩
    have hclient := h.client p socket hp hsocket
    have hdescriptor : socket'.descriptor = socket.descriptor :=
      congrArg (·.2.2.1) hid
    rw [hid, hclient, hdescriptor]
  unix_lt := hsim.next ▸ h.unix_lt
  locals := hsim.locals ▸ h.locals

theorem pruned (h : Shape descriptor s) (hpruned : s.Pruned s') : Shape descriptor s' where
  toTidy := h.toTidy.pruned hpruned
  unix := by
    rw [hpruned.heap_of_referenced h.unix_referenced]
    exact h.unix
  client p socket hp hsocket := h.client p socket hp (hpruned.object hsocket)
  unix_lt := hpruned.next ▸ h.unix_lt
  locals := hpruned.locals ▸ h.locals

theorem clearOutput (h : Shape descriptor s) :
    Shape descriptor { s with outputSocketsList := s.outputSocketsList.clear } :=
  ⟨h.toTidy.clearOutput, h.unix, h.client, h.unix_lt, h.locals⟩

theorem delSocket (h : Shape descriptor s) (d : Int) :
    Shape descriptor
      { s with socketsList := (SocketsList.delSocket s.descriptorOf s.socketsList d).1 } :=
  ⟨h.toTidy.delSocket d, h.unix, h.client, h.unix_lt, h.locals⟩

theorem prepared (h : Shape descriptor s) (hprepared : Prepared s s') :
    Shape descriptor s' := by
  rcases hprepared with ⟨s₁, s₂, hask, hpruned, hreads⟩
  exact ((h.similar hask.similar).clearOutput.pruned hpruned).similar hreads.similar

/-- A successful poll keeps the shape. -/
theorem polled (h : Shape descriptor s) (hempty : s.outputSocketsList.sockets = [])
    (revents : List Events) : Shape descriptor (s.polled revents) := by
  have hsimilar := s.similar_polled revents
  have htidy := (h.toTidy.polled hempty revents).similar hsimilar.symm
  exact Shape.similar ⟨htidy, h.unix, h.client, h.unix_lt, h.locals⟩ hsimilar

/-- The globals are not part of the shape. -/
theorem globals (h : Shape descriptor s) (appCfg : ApplicationConfig) (ssl : SslGlobals)
    (cmptr : Option Int) :
    Shape descriptor { s with appCfg := appCfg, ssl := ssl, cmptr := cmptr } :=
  h.similar ⟨fun _ => rfl, rfl, rfl, rfl, rfl⟩

/-- A new client may join the sockets list. -/
theorem join (h : Shape descriptor s) {tcp : Socket} :
    Shape descriptor (Mydisp.join s tcp) where
  toTidy := h.toTidy.join (Nat.le_succ _) (Nat.lt_succ_self _) (greeted tcp)
  unix := by
    have hne : unixSocket ≠ s.next + 1 := Nat.ne_of_lt (Nat.lt_succ_of_lt h.unix_lt)
    simpa [Mydisp.join, hne] using h.unix
  client p socket hp hsocket := by
    by_cases hnew : p = s.next + 1
    · simp only [Mydisp.join, hnew, Function.update_self, Option.some.injEq] at hsocket
      rw [← hsocket]
      rfl
    · simp only [Mydisp.join, ne_eq, hnew, not_false_eq_true, Function.update_of_ne] at hsocket
      exact h.client p socket hp hsocket
  unix_lt := Nat.lt_trans h.unix_lt (by simp [Mydisp.join])
  locals := h.locals

/-- A client that is turned away leaves nothing behind. -/
theorem refuse (h : Shape descriptor s) : Shape descriptor (Mydisp.refuse s) where
  toTidy := h.toTidy.skip (Nat.le_add_right _ 2)
  unix := h.unix
  client := h.client
  unix_lt := Nat.lt_trans h.unix_lt (by simp [Mydisp.refuse])
  locals := h.locals

end Shape

/-- The first listed socket with the descriptor of {lit}`p`. -/
def firstWithDescriptor (m : Memory) (p : Ptr) : Option Ptr :=
  m.socketsList.sockets.find? (m.descriptorOf · == m.descriptorOf p)

/-- The dispatcher enters its loop with this shape. -/
theorem shape_started (descriptor : Nat) : Shape descriptor (started descriptor) where
  unix := ⟨_, rfl, rfl⟩
  client p socket hp hsocket := by simp [started, hp] at hsocket
  fresh p hp := by
    have hne : p ≠ unixSocket := Nat.ne_of_gt hp
    simp [started, hne]
  unix_lt := by simp [started, unixSocket]
  live p hp := by
    have hunix : p = unixSocket := by
      simpa [started, Memory.Referenced, SocketsList.empty] using hp
    simp [started, hunix]
  nodup := by simp [started]
  outputNodup := by simp [started]
  maxSize := rfl
  outputMaxSize := rfl
  locals := rfl

end Mydisp

end SocketDispatcher
