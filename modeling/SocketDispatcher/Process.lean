import Mathlib.Logic.Function.Basic
import SocketDispatcher.ApplicationConfig
import SocketDispatcher.Library.Program
import SocketDispatcher.Socket
import SocketDispatcher.SocketsList

/-!
# Processes

The memory of one process of the system, the calls it makes, and the operations
on shared socket objects that both programs are written with.

Socket objects live in a heap and are named by pointers, because both lists of a
program hold the same objects and their fields are written through either.  An
object is destroyed, and its descriptor closed unless it is protected, when the
last reference to it is dropped.  Logging has no effect on memory and is left
out; in its place a few program points are marked by a note, which the kernel
records and never answers to.

Main results:

- Theorems {lit}`sat_deref`, {lit}`sat_release` and {lit}`sat_note`: one
  specification for each operation, which later proofs use in place of its
  definition.

Current gaps:

- The password callback of OpenSSL is not modelled.
-/

namespace SocketDispatcher

open Interaction

/-! ## Calls and replies -/

/-- A {lit}`Socket::Ptr`. -/
abbrev Ptr := Nat

/-- The empty pointer.  No object is ever stored there. -/
def nullptr : Ptr := 0

/-- An entry of the array given to {lit}`poll`; its revents field is zero. -/
structure PollFd where
  fd : Int
  events : Events
deriving DecidableEq

/-- What a file is loaded as into an OpenSSL context. -/
inductive SslFile where
  /-- {lit}`SSL_CTX_use_certificate_chain_file` -/
  | certificateChain
  /-- {lit}`SSL_CTX_use_PrivateKey_file` -/
  | privateKey
  /-- {lit}`SSL_CTX_load_verify_locations` -/
  | verifyLocations
deriving DecidableEq

/-- The family of a new socket. -/
inductive AddressFamily where
  | AF_INET
  | AF_UNIX
deriving DecidableEq

/-- An address to bind a socket to: a port of any interface, or a path. -/
inductive SocketAddress where
  | inet (port : Nat)
  | unix (path : List Byte)
deriving DecidableEq

/-- Marked program points. -/
inductive Note where
  /-- The condition of the main loop held. -/
  | loopHead
  /-- The body of the main loop is complete. -/
  | loopEnd
  /-- {lit}`createSocket` returned a socket for the descriptor, or the empty
  pointer. -/
  | createSocket (descriptor : Option Int)
  | putSocket (socket : Ptr) (descriptor : Int) (stored : Bool)
  /-- {lit}`delSocket` was called on a list with these sockets. -/
  | delSocket (socket : Ptr) (before : List Ptr) (deleted : Bool)
  /-- {lit}`processClient` returned false: "WARNING: client dropped." -/
  | clientDropped (socket : Ptr)
  | dispatcherProcess (result : Bool)
  /-- {lit}`createContext` was called with these files. -/
  | createContext (caFile crtFile keyFile : List Byte)
  | sendSocket (socketSender socketToSend : Ptr)
deriving DecidableEq

/-- Calls to the kernel, to OpenSSL and to the C library.  A call that fills a
buffer carries the present contents of the buffer and its size. -/
inductive Call where
  | poll (pollInfo : List PollFd) (timeout : Int)
  | recv (fd : Int) (buffer : List Byte) (size : Nat) (peek : Bool)
  | recvmsg (fd : Int) (buffer : List Byte) (size : Nat)
  | sendmsg (fd : Int) (bytes : List Byte) (control : Option Int)
  | write (fd : Int) (bytes : List Byte)
  /-- The reply carries the length of the first address of the host, and the address. -/
  | gethostbyname (host : List Byte)
  | socket (family : AddressFamily)
  | setsockopt (fd : Int)
  | unlink (path : List Byte)
  | bind (fd : Int) (address : SocketAddress)
  | listen (fd : Int) (backlog : Nat)
  | accept (fd : Int)
  | connect (fd : Int) (host : List Byte) (port : Nat)
  | close (fd : Int)
  | fork
  | execl
  | waitpid
  | getpid
  /-- Read the flag that the {lit}`SIGINT` handler sets. -/
  | exitRequested
  /-- Allocate a control buffer; the reply carries the integer found in it. -/
  | malloc
  /-- The contents of an automatic array that has not been written yet. -/
  | automatic (size : Nat)
  /-- {lit}`BIO_read` on the BIO of a socket object. -/
  | bioRead (socket : Ptr) (buffer : List Byte) (size : Nat)
  /-- {lit}`BIO_write` on the BIO of a socket object. -/
  | bioWrite (socket : Ptr) (bytes : List Byte)
  /-- {lit}`SSL_accept` on a new SSL object over a descriptor. -/
  | sslAccept (fd : Int)
  /-- {lit}`SSL_connect` on a new SSL object over a descriptor. -/
  | sslConnect (fd : Int)
  /-- {lit}`std::cin >> userInputLine`: the next word, or the empty string. -/
  | cin
  | sslCtxNew
  | sslLoad (what : SslFile) (name : List Byte)
  | errGetError
  /-- An assertion fails or the empty pointer is dereferenced. -/
  | crash
  | note (n : Note)
deriving DecidableEq

/-- What a call gives back; each call uses the fields it needs. -/
structure Reply where
  ret : Int := 0
  errno : Int := 0
  /-- Bytes written to the caller's buffer. -/
  bytes : List Byte := []
  /-- An integer stored in a control buffer: the attached descriptor. -/
  data : Option Int := none
  /-- The revents fields of the polled entries. -/
  revents : List Events := []
deriving DecidableEq

/-! ## Memory -/

/-- An OpenSSL context with the files that were loaded into it. -/
structure SslCtx where
  certificateChain : Option (List Byte) := none
  privateKey : Option (List Byte) := none
  verifyLocations : Option (List Byte) := none
deriving DecidableEq

/-- The globals of {lit}`InitSsl.cpp`. -/
structure SslGlobals where
  sslGlobalCtx : Option SslCtx := none
  sslError : BitVec 64 := 0
  keyFilePassword : List Byte := []
deriving DecidableEq

/-- The memory of one process. -/
@[ext]
structure Memory where
  heap : Ptr → Option Socket
  /-- The next pointer to be allocated. -/
  next : Ptr
  socketsList : SocketsList Ptr
  /-- {lit}`outputSocketsList` of the listener, {lit}`reSocketsList` of the
  dispatcher. -/
  outputSocketsList : SocketsList Ptr
  /-- Pointers held by variables of {lit}`main`. -/
  locals : List Ptr
  appCfg : ApplicationConfig := {}
  ssl : SslGlobals := {}
  /-- The integer in the static control buffer of the receiving side, once the
  buffer has been allocated. -/
  cmptr : Option Int := none
  /-- The integer in the static control buffer of the sending side. -/
  sendCmptr : Option Int := none

/-- A program of one process. -/
abbrev Proc := Program Memory Call Reply

namespace Memory

/-- Apply a change to an object. -/
def modifySocket (m : Memory) (p : Ptr) (f : Socket → Socket) : Memory :=
  { m with heap := Function.update m.heap p ((m.heap p).map f) }

/-- Store a new object. -/
def alloc (m : Memory) (socket : Socket) : Memory :=
  { m with heap := Function.update m.heap m.next (some socket), next := m.next + 1 }

/-- Remove a destroyed object. -/
def erase (m : Memory) (p : Ptr) : Memory :=
  { m with heap := Function.update m.heap p none }

/-- The descriptor of an object. -/
def descriptorOf (m : Memory) (p : Ptr) : Int :=
  match m.heap p with
  | some socket => socket.descriptor
  | none => FREE_SOCKET

/-- A list or a variable of {lit}`main` refers to the object. -/
def Referenced (m : Memory) (p : Ptr) : Prop :=
  p ∈ m.socketsList.sockets ∨ p ∈ m.outputSocketsList.sockets ∨ p ∈ m.locals

instance (m : Memory) (p : Ptr) : Decidable (m.Referenced p) :=
  inferInstanceAs (Decidable (_ ∨ _ ∨ _))

@[simp]
theorem modifySocket_heap (m : Memory) (p q : Ptr) (f : Socket → Socket) :
    (m.modifySocket p f).heap q = if q = p then (m.heap q).map f else m.heap q := by
  by_cases hq : q = p
  · subst hq
    simp [modifySocket]
  · simp [modifySocket, hq]

@[simp]
theorem alloc_heap (m : Memory) (socket : Socket) (q : Ptr) :
    (m.alloc socket).heap q = if q = m.next then some socket else m.heap q := by
  by_cases hq : q = m.next
  · subst hq
    simp [alloc]
  · simp [alloc, hq]

@[simp]
theorem erase_heap (m : Memory) (p q : Ptr) :
    (m.erase p).heap q = if q = p then none else m.heap q := by
  by_cases hq : q = p
  · subst hq
    simp [erase]
  · simp [erase, hq]

theorem descriptorOf_of_heap {m : Memory} {p : Ptr} {socket : Socket}
    (hsocket : m.heap p = some socket) : m.descriptorOf p = socket.descriptor := by
  rw [descriptorOf, hsocket]

theorem descriptorOf_congr {m m' : Memory} {p : Ptr} (h : m'.heap p = m.heap p) :
    m'.descriptorOf p = m.descriptorOf p := by
  rw [descriptorOf, descriptorOf, h]

/-- Changing an object keeps its descriptor if the change does. -/
theorem descriptorOf_modifySocket (m : Memory) (p q : Ptr) {f : Socket → Socket}
    (hf : ∀ socket, (f socket).descriptor = socket.descriptor) :
    (m.modifySocket p f).descriptorOf q = m.descriptorOf q := by
  unfold descriptorOf
  rw [modifySocket_heap]
  by_cases hq : q = p
  · cases hheap : m.heap q <;> simp [hq, hf]
  · simp [hq]

section Fields

variable (m : Memory) (p : Ptr) (f : Socket → Socket) (socket : Socket)

@[simp] theorem modifySocket_next : (m.modifySocket p f).next = m.next := rfl
@[simp] theorem modifySocket_socketsList :
    (m.modifySocket p f).socketsList = m.socketsList := rfl
@[simp] theorem modifySocket_outputSocketsList :
    (m.modifySocket p f).outputSocketsList = m.outputSocketsList := rfl
@[simp] theorem modifySocket_locals : (m.modifySocket p f).locals = m.locals := rfl
@[simp] theorem modifySocket_appCfg : (m.modifySocket p f).appCfg = m.appCfg := rfl
@[simp] theorem modifySocket_cmptr : (m.modifySocket p f).cmptr = m.cmptr := rfl
@[simp] theorem alloc_next : (m.alloc socket).next = m.next + 1 := rfl
@[simp] theorem alloc_socketsList : (m.alloc socket).socketsList = m.socketsList := rfl
@[simp] theorem alloc_outputSocketsList :
    (m.alloc socket).outputSocketsList = m.outputSocketsList := rfl
@[simp] theorem alloc_locals : (m.alloc socket).locals = m.locals := rfl
@[simp] theorem alloc_appCfg : (m.alloc socket).appCfg = m.appCfg := rfl
@[simp] theorem alloc_cmptr : (m.alloc socket).cmptr = m.cmptr := rfl
@[simp] theorem erase_next : (m.erase p).next = m.next := rfl
@[simp] theorem erase_socketsList : (m.erase p).socketsList = m.socketsList := rfl
@[simp] theorem erase_outputSocketsList :
    (m.erase p).outputSocketsList = m.outputSocketsList := rfl
@[simp] theorem erase_locals : (m.erase p).locals = m.locals := rfl
@[simp] theorem erase_appCfg : (m.erase p).appCfg = m.appCfg := rfl
@[simp] theorem erase_cmptr : (m.erase p).cmptr = m.cmptr := rfl

end Fields

end Memory

/-! ## Operations on objects -/

/-- Mark a program point. -/
def note (n : Note) : Proc Unit := do
  let _ ← Program.ask (.note n)
  pure ()

/-- The process dies. -/
def crash {α : Type} : Proc α :=
  .call .crash fun _ => .cut

/-- Dereference a pointer. -/
def deref (p : Ptr) : Proc Socket := do
  let m ← get
  match m.heap p with
  | some socket => pure socket
  | none => crash

/-- The memory is read first. -/
theorem deref_bind {α : Type} (p : Ptr) (f : Socket → Proc α) :
    deref p >>= f = .get fun m =>
      match m.heap p with
      | some socket => f socket
      | none => crash := by
  refine congrArg Program.get (funext fun m => ?_)
  dsimp only [Program.bind]
  cases m.heap p with
  | some socket => rfl
  | none => rfl

/-- Change an object. -/
def modifySocket (p : Ptr) (f : Socket → Socket) : Proc Unit :=
  modify (·.modifySocket p f)

/-- {lit}`std::make_shared` -/
def makeShared (socket : Socket) : Proc Ptr := do
  let m ← get
  set (m.alloc socket)
  pure m.next

/-- {lit}`Socket::~Socket`: close the descriptor unless it is protected. -/
def destroy (p : Ptr) : Proc Unit := do
  let m ← get
  match m.heap p with
  | none => pure ()
  | some socket => do
      set (m.erase p)
      if socket.protectDescriptor then
        pure ()
      else do
        let _ ← Program.ask (.close socket.descriptor)
        pure ()

/-- Drop a reference: the object is destroyed if it was the last one. -/
def release (p : Ptr) : Proc Unit := do
  let m ← get
  if m.Referenced p then pure () else destroy p

/-- {lit}`socketsList->putSocket(p)` -/
def putSocket (p : Ptr) : Proc Bool := do
  let m ← get
  set { m with socketsList := (m.socketsList.putSocket p).1 }
  note (.putSocket p (m.descriptorOf p) (m.socketsList.putSocket p).2)
  pure (m.socketsList.putSocket p).2

/-- Drop the reference that an erased list node held. -/
def releaseFound : Option Ptr → Proc Unit
  | some q => release q
  | none => pure ()

/-- {lit}`socketsList->delSocket(p)`: the list drops its reference to the first
object with the descriptor of {lit}`p`. -/
def delSocket (p : Ptr) : Proc Bool := do
  let m ← get
  let deleted := SocketsList.delSocket m.descriptorOf m.socketsList (m.descriptorOf p)
  set { m with socketsList := deleted.1 }
  note (.delSocket p m.socketsList.sockets deleted.2)
  Program.when deleted.2 do
    releaseFound (m.socketsList.sockets.find? (m.descriptorOf · == m.descriptorOf p))
  pure deleted.2

/-- {lit}`outputSocketsList->clear()` -/
def clearOutput : Proc Unit := do
  let m ← get
  set { m with outputSocketsList := m.outputSocketsList.clear }
  Program.forEach m.outputSocketsList.sockets release

/-- {lit}`SocketsList::~SocketsList` of {lit}`socketsList`. -/
def clearSockets : Proc Unit := do
  let m ← get
  set { m with socketsList := m.socketsList.clear }
  Program.forEach m.socketsList.sockets release

/-! ## Specifications -/

section Specs

variable {W A : Type} {K : Kernel W Call Reply A}
variable {H : Memory → W → Call → Reply → Prop} {G : Memory → W → Call → Prop}
variable {s : Memory} {w : W}

theorem sat_note (n : Note) (Q : Memory → W → Unit → Prop) :
    Sat K H G (note n) Q s w ↔
      Sat K H G (Program.ask (.note n)) (fun s w _ => Q s w ()) s w :=
  Iff.rfl

/-- A note does not change the memory. -/
theorem sat_note_mono {n : Note} {Q Q' : Memory → W → Unit → Prop}
    (h : Sat K H G (note n) Q s w) (himp : ∀ w, Q s w () → Q' s w ()) :
    Sat K H G (note n) Q' s w := by
  intro w₁ hacts
  refine ⟨(h w₁ hacts).1, ?_⟩
  intro r w₂ hreply hassume
  exact himp w₂ ((h w₁ hacts).2 r w₂ hreply hassume)

/-- A quiet note keeps the memory and the world invariant. -/
theorem sat_note_quiet {I : Memory → Prop} {P : Call → Prop} {J : W → Prop}
    (hquiet : Quiet K H G I P J) {n : Note} (hn : P (.note n))
    {Q : Memory → W → Unit → Prop} (hI : I s) (hJ : J w) (hQ : ∀ w', J w' → Q s w' ()) :
    Sat K H G (note n) Q s w := by
  rw [sat_note]
  exact sat_ask_quiet hquiet hn hI hJ fun _ => hQ

theorem sat_crash {α : Type} {Q : Memory → W → α → Prop}
    (hcrash : ∀ w₁, K.Acts w w₁ → G s w₁ .crash) : Sat K H G crash Q s w :=
  fun w₁ hacts => ⟨hcrash w₁ hacts, fun _ _ _ _ => trivial⟩

/-- Dereferencing gives the object, or ends the run. -/
theorem sat_deref {p : Ptr} {Q : Memory → W → Socket → Prop}
    (hcrash : s.heap p = none → ∀ w₁, K.Acts w w₁ → G s w₁ .crash)
    (hsome : ∀ socket, s.heap p = some socket → Q s w socket) :
    Sat K H G (deref p) Q s w := by
  rw [deref, sat_bind, sat_get]
  split
  next socket hp => exact hsome socket hp
  next hp => exact sat_crash (hcrash hp)

theorem sat_deref_of_some {p : Ptr} {socket : Socket} (hp : s.heap p = some socket)
    (Q : Memory → W → Socket → Prop) : Sat K H G (deref p) Q s w ↔ Q s w socket := by
  rw [deref, sat_bind, sat_get, hp]
  rfl

@[simp]
theorem sat_modifySocket (p : Ptr) (f : Socket → Socket) (Q : Memory → W → Unit → Prop) :
    Sat K H G (modifySocket p f) Q s w ↔ Q (s.modifySocket p f) w () :=
  Iff.rfl

@[simp]
theorem sat_makeShared (socket : Socket) (Q : Memory → W → Ptr → Prop) :
    Sat K H G (makeShared socket) Q s w ↔ Q (s.alloc socket) w s.next :=
  Iff.rfl

/-- Dropping a reference either changes nothing, or removes an unreferenced
object, closing its descriptor unless it is protected. -/
theorem sat_release {p : Ptr} {Q : Memory → W → Unit → Prop}
    (hkeep : s.Referenced p ∨ s.heap p = none → Q s w ())
    (hprotected : ∀ socket, ¬s.Referenced p → s.heap p = some socket →
      socket.protectDescriptor = true → Q (s.erase p) w ())
    (hclose : ∀ socket, ¬s.Referenced p → s.heap p = some socket →
      socket.protectDescriptor = false →
      Sat K H G (Program.ask (.close socket.descriptor)) (fun s' w' _ => Q s' w' ())
        (s.erase p) w) :
    Sat K H G (release p) Q s w := by
  rw [release, sat_bind, sat_get, sat_ite]
  split
  next href => exact hkeep (Or.inl href)
  next href =>
    rw [destroy, sat_bind, sat_get]
    split
    next hp => exact hkeep (Or.inr hp)
    next socket hp =>
      rw [sat_bind, sat_set, sat_ite]
      split
      next hprot => exact hprotected socket href hp hprot
      next hprot => exact hclose socket href hp (by simpa using hprot)

/-- A reference that is not the last one. -/
theorem sat_release_referenced {p : Ptr} {Q : Memory → W → Unit → Prop}
    (href : s.Referenced p) (hQ : Q s w ()) : Sat K H G (release p) Q s w := by
  apply sat_release
  · intro _
    exact hQ
  · intro _ hgone
    exact absurd href hgone
  · intro _ hgone
    exact absurd href hgone

/-- The last reference to an object. -/
theorem sat_release_last {p : Ptr} {socket : Socket} {Q : Memory → W → Unit → Prop}
    (hp : s.heap p = some socket) (hgone : ¬s.Referenced p)
    (hprotected : socket.protectDescriptor = true → Q (s.erase p) w ())
    (hclose : socket.protectDescriptor = false →
      Sat K H G (Program.ask (.close socket.descriptor)) (fun s' w' _ => Q s' w' ())
        (s.erase p) w) :
    Sat K H G (release p) Q s w := by
  apply sat_release
  · intro h
    simp [hgone, hp] at h
  · intro socket' _ hp'
    exact Option.some.inj (hp.symm.trans hp') ▸ hprotected
  · intro socket' _ hp'
    exact Option.some.inj (hp.symm.trans hp') ▸ hclose

end Specs

/-! ## Frames -/

section Frames

variable {I : Memory → Prop} {P : Call → Prop}

/-- A dereferenced pointer is known to be an object of some memory in {lit}`I`. -/
theorem within_deref_bind {α : Type} {p : Ptr} {f : Socket → Proc α} (hcrash : P .crash)
    (hf : ∀ s socket, I s → s.heap p = some socket → Within I P (f socket)) :
    Within I P (deref p >>= f) := by
  rw [deref_bind]
  intro s hs
  dsimp only
  cases hp : s.heap p with
  | some socket => exact hf s socket hs hp
  | none => exact ⟨hcrash, fun _ => trivial⟩

theorem within_crash {α : Type} (hcrash : P .crash) : Within I P (crash : Proc α) :=
  ⟨hcrash, fun _ => trivial⟩

theorem within_note {n : Note} (hn : P (.note n)) :
    Within I P (note n) :=
  within_bind (within_ask hn) fun _ => within_pure _

/-- Dropping a reference removes at most one object. -/
theorem within_release (herase : ∀ s p, I s → I (s.erase p)) (hclose : ∀ d, P (.close d))
    (p : Ptr) : Within I P (release p) := by
  apply within_get_bind
  intro s _
  apply within_ite (within_pure _)
  apply within_get_bind
  intro s hs
  split
  · exact within_pure _
  · refine within_bind (within_set (herase s p hs)) fun _ => within_ite (within_pure _) ?_
    exact within_bind (within_ask (hclose _)) fun _ => within_pure _

/-- Clearing the output list removes objects. -/
theorem within_clearOutput
    (hclear : ∀ s, I s → I { s with outputSocketsList := s.outputSocketsList.clear })
    (herase : ∀ s p, I s → I (s.erase p)) (hclose : ∀ d, P (.close d)) :
    Within I P clearOutput := by
  apply within_get_bind
  intro s hs
  refine within_bind (within_set (hclear s hs)) fun _ => ?_
  exact within_forEach (within_release herase hclose)

end Frames

end SocketDispatcher
