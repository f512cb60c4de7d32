import SocketDispatcher.ListenerSocketFactories
import SocketDispatcher.Mylsnr.Rules

/-!
# Well-formed lists

The start-up of the listener: {lit}`main` from the creation of its listening sockets
on, for every outcome of the calls that create them.  A factory that fails returns
the empty pointer, and {lit}`main` lists the pointers without looking at them.

Main results:

- Theorem {lit}`Listening.wellFormed`: between two operations of the main loop every
  entry is an object, and listening objects override {lit}`acceptConnection`.
- Theorem {lit}`sound_main`: with two listening sockets, the lists stay well formed in
  every run, and no dereference and no assertion on the lists fails.
- Theorem {lit}`sound_iff`: for an outcome of the start-up calls this holds of every
  run exactly if none of them fails.
-/

namespace SocketDispatcher

open Interaction

namespace Mylsnr

/-! ## The program from its start -/

/-- {lit}`MY_SOCK_PATH` -/
def MY_SOCK_PATH : List Byte := ascii "dispatch.sock"

/-- A variable of {lit}`main` holds the pointer. -/
def hold (p : Ptr) : Proc Unit :=
  modify fun m => { m with locals := m.locals ++ [p] }

/-- {lit}`main` from the creation of the dispatcher on, for the pointers that the
factories returned. -/
def run (tcpListenerSocket unixListenerSocket : Ptr) (iterations : Nat) : Proc Unit := do
  let _ ← create_dispatcher
  let _ ← putSocket tcpListenerSocket
  let _ ← putSocket unixListenerSocket
  mainLoop iterations
  sayGoodbyeToAllDispatchers
  let _ ← wait_disp_child
  pure ()

/-- {lit}`main` once the OpenSSL context exists. -/
def start (iterations : Nat) : Proc Unit := do
  let tcpListenerSocket ← TcpSslListenerSocketFactory.createSocket 5555 32
  hold tcpListenerSocket
  let unixListenerSocket ← UnixListenerSocketFactory.createSocket MY_SOCK_PATH
  hold unixListenerSocket
  run tcpListenerSocket unixListenerSocket iterations

/-- The memory of {lit}`main` before the listening sockets are created. -/
def booted (appCfg : ApplicationConfig) : Memory where
  heap _ := none
  next := 1
  socketsList := SocketsList.empty MAX_SOCKETS
  outputSocketsList := SocketsList.empty MAX_SOCKETS
  locals := []
  appCfg := appCfg

/-! ## Outcomes of the start-up calls -/

/-- The results of {lit}`socket`, {lit}`bind` and {lit}`listen`. -/
structure Creation where
  socket : Int
  bind : Int
  listen : Int

/-- None of the calls failed. -/
structure Creation.Succeeds (creation : Creation) : Prop where
  socket : 0 ≤ creation.socket
  bind : 0 ≤ creation.bind
  listen : 0 ≤ creation.listen

/-- An outcome of the start-up calls of both factories. -/
abbrev StartUp := AddressFamily → Creation

/-- The family of an address. -/
def addressFamily : SocketAddress → AddressFamily
  | .inet _ => .AF_INET
  | .unix _ => .AF_UNIX

/-- The start-up calls have the given outcome; {lit}`listen` follows the {lit}`bind` of
the same socket. -/
def StartUp.Gives (outcome : StartUp) (_ : Memory) (last : Option Call) :
    Call → Reply → Prop
  | .socket family, r => r.ret = (outcome family).socket
  | .bind _ address, r => r.ret = (outcome (addressFamily address)).bind
  | .listen .., r =>
      ∀ fd address, last = some (.bind fd address) →
        r.ret = (outcome (addressFamily address)).listen
  | _, _ => True

/-! ## Well-formed lists -/

/-- The classes that override {lit}`Socket::acceptConnection`. -/
def overridesAcceptConnection : SocketClass → Bool
  | .tcpListenerSocket | .tcpSslListenerSocket | .unixListenerSocket => true
  | _ => false

/-- Every entry of both lists is an object, the sockets list fits into the poll array,
and the listening objects, which are the ones that {lit}`acceptConnection` is called
on, are of a class that overrides it. -/
structure WellFormed (s : Memory) : Prop where
  listed : ∀ p, p ∈ s.socketsList.sockets ∨ p ∈ s.outputSocketsList.sockets →
    p ≠ nullptr ∧ s.heap p ≠ none
  room : s.socketsList.sockets.length ≤ MAX_SOCKETS_TO_POLL
  overrides : ∀ p socket, s.heap p = some socket → socket.listenSocket = true →
    overridesAcceptConnection socket.cls = true

/-- The record is the last call. -/
def recordLast (_ : Option Call) (c : Call) (_ : Reply) : Option Call :=
  some c

/-- The lists are well formed, and no assertion fails but the ones behind
{lit}`execl` and on the length of the configuration text; no dereference fails. -/
def WellBehaved (s : Memory) (last : Option Call) (c : Call) : Prop :=
  WellFormed s ∧ (c = .crash → last = some .execl ∨ last = some .getpid)

section WellFormed

variable {s : Memory}

/-- Lists may lose entries. -/
theorem WellFormed.shrink (h : WellFormed s) {list : SocketsList Ptr}
    (hlist : list.sockets.Sublist s.socketsList.sockets) :
    WellFormed { s with socketsList := list } where
  listed p hp := h.listed p (hp.imp_left fun hmem => hlist.subset hmem)
  room := Nat.le_trans hlist.length_le h.room
  overrides := h.overrides

/-- A new object of a connection is no listening one. -/
theorem WellFormed.alloc (h : WellFormed s) {socket : Socket}
    (hsocket : socket.listenSocket = true → overridesAcceptConnection socket.cls = true) :
    WellFormed (s.alloc socket) where
  listed p hp := by
    refine ⟨(h.listed p hp).1, ?_⟩
    rw [Memory.alloc_heap]
    split
    · simp
    · exact (h.listed p hp).2
  room := h.room
  overrides p socket' hsocket' := by
    rw [Memory.alloc_heap] at hsocket'
    split at hsocket'
    next =>
      obtain rfl := Option.some.inj hsocket'
      exact hsocket
    next => exact h.overrides p socket' hsocket'

/-- Neither the control buffer nor a variable of {lit}`main` matters. -/
theorem WellFormed.vary (h : WellFormed s) (sendCmptr : Option Int) (locals : List Ptr) :
    WellFormed { s with sendCmptr := sendCmptr, locals := locals } :=
  ⟨h.listed, h.room, h.overrides⟩

theorem wellFormed_booted (appCfg : ApplicationConfig) : WellFormed (booted appCfg) where
  listed p hp := by simp [booted, SocketsList.empty] at hp
  room := Nat.zero_le _
  overrides p socket hsocket := by simp [booted] at hsocket

end WellFormed

/-! ## The invariant -/

/-- Besides the shape, nothing is stored at the empty pointer. -/
structure Listening (tcp unix : Int) (s : Memory) : Prop extends Shape tcp unix s where
  vacant : s.heap nullptr = none

namespace Listening

variable {tcp unix : Int} {s s' : Memory}

/-- Between two operations the lists are well formed. -/
theorem wellFormed (h : Listening tcp unix s) : WellFormed s where
  listed p hp := by
    have hlive : s.heap p ≠ none := h.live p (hp.imp_right Or.inl)
    refine ⟨?_, hlive⟩
    rintro rfl
    exact hlive h.vacant
  room := by
    have hbounded := s.socketsList.bounded
    rw [h.maxSize] at hbounded
    exact Nat.le_trans hbounded (by decide)
  overrides p socket hsocket hlisten := by
    by_cases hp : p = tcpListenerSocket
    · subst hp
      have hcls : socket.cls = .tcpSslListenerSocket := congrArg (·.1) (h.tcp_identity hsocket)
      rw [hcls]
      rfl
    · by_cases hp' : p = unixListenerSocket
      · subst hp'
        have hcls : socket.cls = .unixListenerSocket := congrArg (·.1) (h.unix_identity hsocket)
        rw [hcls]
        rfl
      · have hnot : socket.listenSocket = false :=
          congrArg (·.2.2.2.2) (h.dispatcher p socket hp hp' hsocket)
        exact absurd (hnot.symm.trans hlisten) Bool.false_ne_true

theorem similar (h : Listening tcp unix s) (hsim : s.Similar s') : Listening tcp unix s' where
  toShape := h.toShape.similar hsim
  vacant := (hsim.heap_eq_none_iff _).mpr h.vacant

theorem pruned (h : Listening tcp unix s) (hpruned : s.Pruned s') : Listening tcp unix s' where
  toShape := h.toShape.pruned hpruned
  vacant := by
    rcases hpruned.heap nullptr with heq | ⟨hnone, _⟩
    · rw [heq, h.vacant]
    · exact hnone

theorem polled (h : Listening tcp unix s) (hempty : s.outputSocketsList.sockets = [])
    (revents : List Events) : Listening tcp unix (s.polled revents) where
  toShape := h.toShape.polled hempty revents
  vacant := ((s.similar_polled revents).heap_eq_none_iff _).mpr h.vacant

theorem clearOutput (h : Listening tcp unix s) :
    Listening tcp unix { s with outputSocketsList := s.outputSocketsList.clear } :=
  ⟨h.toShape.clearOutput, h.vacant⟩

theorem delSocket (h : Listening tcp unix s) (d : Int) :
    Listening tcp unix
      { s with socketsList := (SocketsList.delSocket s.descriptorOf s.socketsList d).1 } :=
  ⟨h.toShape.delSocket d, h.vacant⟩

theorem connect (h : Listening tcp unix s) {d : Int} (hd : 0 ≤ d) :
    Listening tcp unix (Mylsnr.connect s d hd) where
  toShape := h.toShape.connect hd
  vacant := by
    have hne : nullptr ≠ s.next := Ne.symm h.next_ne_nullptr
    simpa [Mylsnr.connect, hne] using h.vacant

theorem attend (h : Listening tcp unix s) (sendCmptr : Option Int) :
    Listening tcp unix (Mylsnr.attend s sendCmptr) :=
  ⟨h.toShape.attend sendCmptr, h.vacant⟩

end Listening

theorem listening_listening (tcp unix : Nat) (appCfg : ApplicationConfig) :
    Listening tcp unix (listening tcp unix appCfg) where
  toShape := shape_listening tcp unix appCfg
  vacant := rfl

/-! ## The functions of the main loop -/

section WellBehaved

variable {H : Memory → Option Call → Call → Reply → Prop}
variable {tcp unix : Int} {s : Memory} {w : Option Call}

/-- A call other than a crash is sound in a well-formed memory. -/
theorem sat_ask_sound {c : Call} (hs : WellFormed s) (hc : c ≠ .crash)
    {Q : Memory → Option Call → Reply → Prop} (hQ : ∀ r, H s w c r → Q s (some c) r) :
    Sat (observer recordLast) H WellBehaved (Program.ask c) Q s w := by
  rw [sat_ask_closed]
  refine ⟨⟨hs, fun hcrash => absurd hcrash hc⟩, fun r w' hreply hassume => ?_⟩
  obtain rfl := Option.some.inj hreply
  exact hQ r hassume

theorem sat_note_sound {n : Note} (hs : WellFormed s)
    {Q : Memory → Option Call → Unit → Prop} (hQ : ∀ w, Q s w ()) :
    Sat (observer recordLast) H WellBehaved (note n) Q s w := by
  rw [sat_note]
  exact sat_ask_sound hs (by simp) fun r _ => hQ _

/-- Dropping references keeps the invariant. -/
theorem listening_disposes :
    Disposes (observer recordLast) H WellBehaved fun s _ => Listening tcp unix s where
  erase _ _ _ _ h href _ _ := h.pruned (Memory.pruned_erase href)
  close _ _ _ _ h href _ _ :=
    have h' := h.pruned (Memory.pruned_erase href)
    sat_ask_sound h'.wellFormed (by simp) fun _ _ => h'

theorem listening_prepare (h : Listening tcp unix s) :
    Sat (observer recordLast) H WellBehaved prepare (fun s' _ _ =>
      Listening tcp unix s' ∧ s'.outputSocketsList.sockets = []) s w := by
  rw [prepare, sat_bind]
  refine sat_note_sound h.wellFormed fun w => ?_
  rw [sat_bind]
  apply (sat_clearOutput_keeps listening_disposes h.clearOutput).mono
  rintro s₂ w _ ⟨hpruned, h₂⟩
  rw [sat_bind, sat_get]
  apply (sat_pollForReads fun p hp => h₂.live p (Or.inl hp)).mono
  rintro s' _ _ ⟨hasks, -⟩
  refine ⟨h₂.similar hasks.similar, ?_⟩
  rw [hasks.similar.outputSocketsList, hpruned.outputSocketsList]
  rfl

theorem listening_delSocket (h : Listening tcp unix s) (p : Ptr) :
    Sat (observer recordLast) H WellBehaved (delSocket p) (fun s' _ _ =>
      Listening tcp unix s' ∧ s'.outputSocketsList = s.outputSocketsList) s w := by
  have hdeleted := h.delSocket (s.descriptorOf p)
  apply (sat_delSocket_keeps listening_disposes rfl rfl _).mono
  · rintro s' _ _ ⟨hpruned, h'⟩
    exact ⟨h', hpruned.outputSocketsList⟩
  · exact sat_note_sound hdeleted.wellFormed fun _ => ⟨rfl, hdeleted⟩

/-- A client is sent to live dispatchers. -/
theorem listening_processClientConnection (h : Listening tcp unix s) :
    Sat (observer recordLast) H WellBehaved (processClientConnection tcpListenerSocket)
      (fun s' _ _ => Listening tcp unix s' ∧ s'.outputSocketsList = s.outputSocketsList) s w := by
  have hs := h.wellFormed
  apply sat_processClientConnection h.toShape
  refine sat_ask_sound hs (by simp) fun newfd _ => ⟨fun _ => ⟨h, rfl⟩, fun hd => ?_⟩
  refine sat_ask_sound hs (by simp) fun r _ => ⟨fun _ => ⟨h, rfl⟩, fun _ => ?_⟩
  have hclient : WellFormed (s.alloc (connection newfd.ret hd .SSL)) :=
    hs.alloc fun hlisten => absurd hlisten Bool.false_ne_true
  have hlive : ∀ p ∈ (s.alloc (connection newfd.ret hd .SSL)).socketsList.sockets,
      (s.alloc (connection newfd.ret hd .SSL)).heap p ≠ none :=
    fun p hp => (hclient.listed p (Or.inl hp)).2
  apply (sat_sendToDispatchers (fun _ _ => True) hlive (fun _ _ _ _ _ _ _ => trivial) _
    trivial).mono
  · rintro _ w _ ⟨⟨content, rfl⟩, -⟩
    have h' := h.attend content
    refine ⟨content, rfl, ?_⟩
    exact sat_ask_sound h'.wellFormed (by simp) fun _ _ => ⟨h', rfl⟩
  · intro p ps content w socket _ hsocket _ _
    have hsend : ∀ content, WellFormed
        { s.alloc (connection newfd.ret hd .SSL) with sendCmptr := content } :=
      fun content => hclient.vary content _
    have hobject : (s.alloc (connection newfd.ret hd .SSL)).heap s.next =
        some (connection newfd.ret hd .SSL) := by
      simp
    apply (sat_sendSocket (fun _ => True) (fun _ => True)
      (s := { s.alloc (connection newfd.ret hd .SSL) with sendCmptr := content })
      hsocket hobject hd _ _ _ fun _ _ => trivial).mono
    · rintro _ w _ ⟨⟨content', rfl⟩, -⟩
      exact ⟨⟨content', rfl⟩, trivial⟩
    · exact sat_note_sound (hsend content) fun _ => trivial
    · exact fun w _ => sat_ask_sound (hsend content) (by simp) fun _ _ => trivial
    · exact fun content' w _ => sat_ask_sound (hsend content') (by simp) fun _ _ => trivial

/-- The only assertion about a dispatcher is the one on its configuration. -/
theorem listening_processDispatcherConnection (h : Listening tcp unix s) :
    Sat (observer recordLast) H WellBehaved (processDispatcherConnection unixListenerSocket)
      (fun s' _ _ => Listening tcp unix s' ∧ s'.outputSocketsList = s.outputSocketsList) s w := by
  apply sat_acceptDispatcher h.toShape fun _ _ => True
  · exact fun d hd _ _ w _ => sat_note_sound (h.connect hd).wellFormed fun _ => trivial
  · intro d hd w _
    have hs := (h.connect hd).wellFormed
    apply sat_sendConfig
    refine sat_ask_sound hs (by simp) fun label _ => ⟨fun _ => ⟨rfl, trivial⟩, fun _ => ?_⟩
    refine sat_ask_sound hs (by simp) fun pid _ => ⟨fun w₁ hacts => ?_, ?_⟩
    · obtain rfl := (Kernel.acts_iff_of_isEmpty _).mp hacts
      exact ⟨hs, fun _ => Or.inr rfl⟩
    · exact sat_ask_sound hs (by simp) fun _ _ => ⟨rfl, trivial⟩
  · exact sat_ask_sound h.wellFormed (by simp) fun newfd _ =>
      ⟨fun _ => ⟨h, rfl⟩, fun _ => trivial⟩
  · exact fun d hd w sent _ _ => ⟨h.connect hd, rfl⟩
  · intro d hd w sent _ _
    have h' := h.attend s.sendCmptr
    exact sat_ask_sound h'.wellFormed (by simp) fun _ _ => ⟨h', rfl⟩

/-- A child of {lit}`fork` that goes on after {lit}`execl` fails its assertion. -/
theorem sound_create_dispatcher (hs : WellFormed s) {Q : Memory → Option Call → Int → Prop}
    (hQ : ∀ w result, Q s w result) :
    Sat (observer recordLast) H WellBehaved create_dispatcher Q s w := by
  apply sat_create_dispatcher
  refine sat_ask_sound hs (by simp) fun r _ => ⟨fun _ => hQ _ _, fun _ => hQ _ _, fun _ => ?_⟩
  refine sat_ask_sound hs (by simp) fun r _ w₁ hacts => ?_
  obtain rfl := (Kernel.acts_iff_of_isEmpty _).mp hacts
  exact ⟨hs, fun _ => Or.inl rfl⟩

/-- With both listening sockets, every run is sound. -/
theorem sound_main (tcp unix iterations : Nat) (appCfg : ApplicationConfig) :
    Sat (observer recordLast) H WellBehaved (main iterations) (fun _ _ _ => True)
      (started tcp unix appCfg) w := by
  have hlistening := listening_listening tcp unix appCfg
  apply sat_main_plain fun s _ => Listening tcp unix s
  · exact fun s _ h => h.toShape
  · intro s
    exact
      { guarantee := fun s' w c hsim hc h =>
          ⟨(h.similar hsim).wellFormed, fun hcrash => absurd hc (by simp [hcrash, Plain])⟩
        reply := fun _ _ _ _ _ _ _ _ _ h => h
        act := fun _ a _ _ _ => nomatch a }
  · exact fun s s' w hsim h => h.similar hsim
  · exact fun s w revents hempty h => h.polled hempty revents
  · have hs : WellFormed (started tcp unix appCfg) :=
      hlistening.wellFormed.shrink (List.nil_sublist _)
    refine sound_create_dispatcher hs fun w _ => ⟨rfl, ?_⟩
    have htcp : WellFormed { started tcp unix appCfg with
        socketsList := ⟨[tcpListenerSocket], MAX_SOCKETS, by decide⟩ } := by
      apply hlistening.wellFormed.shrink
      change [tcpListenerSocket].Sublist [tcpListenerSocket, unixListenerSocket]
      decide
    refine sat_note_sound htcp fun w => ?_
    exact sat_note_sound hlistening.wellFormed fun w => hlistening
  · exact fun s w h => listening_prepare h
  · exact fun p s w h => listening_delSocket h p
  · exact fun s w h => listening_processClientConnection h
  · exact fun s w h => listening_processDispatcherConnection h
  · intro s w h
    apply sat_restartDispatcher
    refine sat_ask_sound h.wellFormed (by simp) fun pid _ => ⟨fun _ => h, fun _ => ?_⟩
    exact sound_create_dispatcher h.wellFormed fun _ _ => h
  · exact fun s w h => sat_ask_sound h.wellFormed (by simp) fun _ _ => trivial

end WellBehaved

/-! ## The start -/

section Start

variable {outcome : StartUp} {s : Memory} {w : Option Call}
variable {family : AddressFamily} {second : Int → Call} {address : SocketAddress}
variable {queueLength : Nat} {listener : (socketfd : Int) → socketfd ≠ FREE_SOCKET → Socket}

/-- A factory whose calls succeed creates an object. -/
theorem sound_createListener (hs : WellFormed s) (hfamily : addressFamily address = family)
    (hsecond : ∀ fd, second fd ≠ .crash) (hsucceeds : (outcome family).Succeeds)
    {Q : Memory → Option Call → Ptr → Prop}
    (hQ : ∀ w hfree, Q (s.alloc (listener (outcome family).socket hfree)) w s.next) :
    Sat (observer recordLast) outcome.Gives WellBehaved
      (createListener family second address queueLength listener) Q s w := by
  subst hfamily
  apply sat_createListener
  refine sat_ask_sound hs (by simp) fun socketfd hsocket => ⟨fun hlt => ?_, fun _ hfree => ?_⟩
  · have hnonneg := hsucceeds.socket
    rw [← show socketfd.ret = _ from hsocket] at hnonneg
    omega
  refine sat_ask_sound hs (hsecond _) fun _ _ => ?_
  refine sat_ask_sound hs (by simp) fun bound hbind => ⟨fun hlt => ?_, fun _ => ?_⟩
  · have hnonneg := hsucceeds.bind
    rw [← show bound.ret = _ from hbind] at hnonneg
    omega
  refine sat_ask_sound hs (by simp) fun result hlisten => ⟨fun hlt => ?_, fun _ => ?_⟩
  · have hnonneg := hsucceeds.listen
    rw [← hlisten _ _ rfl] at hnonneg
    omega
  · have hret : socketfd.ret = (outcome (addressFamily address)).socket := hsocket
    rcases socketfd with ⟨ret⟩
    subst hret
    exact hQ _ hfree

/-- The memory after a successful start. -/
theorem started_eq {fd fd' : Int} {tcp unix : Nat} (htcp : fd = tcp) (hunix : fd' = unix)
    (hfree : fd ≠ FREE_SOCKET) (hfree' : fd' ≠ FREE_SOCKET) (appCfg : ApplicationConfig) :
    started tcp unix appCfg =
      { ({ (booted appCfg).alloc (TcpSslListenerSocketFactory.tcpSslListenerSocket fd hfree) with
          locals := [tcpListenerSocket] } : Memory).alloc
          (UnixListenerSocketFactory.unixListenerSocket fd' hfree') with
        locals := [tcpListenerSocket, unixListenerSocket] } := by
  subst htcp hunix
  ext1
  case heap =>
    funext p
    by_cases hp : p = tcpListenerSocket
    · subst hp
      rfl
    · by_cases hp' : p = unixListenerSocket
      · subst hp'
        rfl
      · have htcp : p ≠ (booted appCfg).next := hp
        have hunix : p ≠ (booted appCfg).next + 1 := hp'
        simp [started, hp, hp', htcp, hunix]
        rfl
  all_goals rfl

/-- If all start-up calls succeed, every run is sound. -/
theorem sound_start (hsucceeds : ∀ family, (outcome family).Succeeds)
    (appCfg : ApplicationConfig) (iterations : Nat) :
    Safe (observer recordLast) outcome.Gives WellBehaved
      ⟨booted appCfg, none, start iterations⟩ := by
  apply Sat.safe
  obtain ⟨tcp, htcp⟩ := Int.eq_ofNat_of_zero_le (hsucceeds .AF_INET).socket
  obtain ⟨unix, hunix⟩ := Int.eq_ofNat_of_zero_le (hsucceeds .AF_UNIX).socket
  have hbooted := wellFormed_booted appCfg
  rw [start, sat_bind, TcpSslListenerSocketFactory.createSocket]
  apply sound_createListener hbooted
  · rfl
  · exact fun _ => by simp
  · exact hsucceeds _
  intro w hfree
  have htcpListener : WellFormed { (booted appCfg).alloc
      (TcpSslListenerSocketFactory.tcpSslListenerSocket _ hfree) with
      locals := [tcpListenerSocket] } :=
    (hbooted.alloc fun _ => rfl).vary none [tcpListenerSocket]
  rw [sat_bind, hold, sat_modify, sat_bind, UnixListenerSocketFactory.createSocket]
  apply sound_createListener htcpListener
  · rfl
  · exact fun _ => by simp
  · exact hsucceeds _
  intro w hfree'
  rw [sat_bind, hold, sat_modify]
  have hstarted := sound_main (H := outcome.Gives) (w := w) tcp unix iterations appCfg
  rw [started_eq htcp hunix hfree hfree'] at hstarted
  exact hstarted

/-- A factory with a failing call returns the empty pointer; the sockets list stays as
it is in any case. -/
theorem can_createListener (hfamily : addressFamily address = family)
    (hsecond : ∀ s w fd, outcome.Gives s w (second fd) {}) :
    Can (observer recordLast) outcome.Gives
      (createListener family second address queueLength listener)
      (fun s' _ p => s'.socketsList = s.socketsList ∧
        (¬(outcome family).Succeeds → p = nullptr)) s w := by
  subst hfamily
  rw [createListener, can_bind]
  refine can_ask { ret := (outcome (addressFamily address)).socket } rfl rfl ?_
  rw [can_dite]
  split
  next => exact ⟨rfl, fun _ => rfl⟩
  next hsocket =>
    rw [can_bind]
    refine can_ask {} rfl (hsecond _ _ _) ?_
    rw [can_bind]
    refine can_ask { ret := (outcome (addressFamily address)).bind } rfl rfl ?_
    rw [can_ite]
    split
    next => exact ⟨rfl, fun _ => rfl⟩
    next hbind =>
      rw [can_bind]
      refine can_ask { ret := (outcome (addressFamily address)).listen } rfl ?_ ?_
      · intro fd address' heq
        simp only [recordLast, Option.some.injEq, Call.bind.injEq] at heq
        rw [heq.2]
      · rw [can_ite]
        split
        next => exact ⟨rfl, fun _ => rfl⟩
        next hlisten =>
          refine ⟨rfl, fun hfails => absurd ?_ hfails⟩
          exact ⟨Int.not_lt.mp hsocket, Int.not_lt.mp hbind, Int.not_lt.mp hlisten⟩

theorem can_createTcpListener (outcome : StartUp) :
    Can (observer recordLast) outcome.Gives (TcpSslListenerSocketFactory.createSocket 5555 32)
      (fun s' _ p => s'.socketsList = s.socketsList ∧
        (¬(outcome .AF_INET).Succeeds → p = nullptr)) s w :=
  can_createListener rfl fun _ _ _ => trivial

theorem can_createUnixListener (outcome : StartUp) :
    Can (observer recordLast) outcome.Gives (UnixListenerSocketFactory.createSocket MY_SOCK_PATH)
      (fun s' _ p => s'.socketsList = s.socketsList ∧
        (¬(outcome .AF_UNIX).Succeeds → p = nullptr)) s w :=
  can_createListener rfl fun _ _ _ => trivial

/-- What the factories returned is listed. -/
theorem can_list (p q : Ptr) (hempty : s.socketsList = SocketsList.empty MAX_SOCKETS) :
    Can (observer recordLast) outcome.Gives
      (do
        let _ ← create_dispatcher
        let _ ← putSocket p
        putSocket q)
      (fun s' _ _ => s'.socketsList.sockets = [p, q]) s w := by
  rw [can_bind, create_dispatcher, can_bind]
  refine can_ask { ret := 1 } rfl trivial ?_
  rw [can_ite, if_neg (by decide), can_ite, if_neg (by decide), can_pure, can_bind, putSocket,
    can_bind, can_get, can_bind, can_set, can_bind, note, can_bind]
  refine can_ask {} rfl trivial ?_
  rw [can_pure, can_pure, putSocket, can_bind, can_get, can_bind, can_set, can_bind, note, can_bind]
  refine can_ask {} rfl trivial ?_
  rw [can_pure, can_pure, hempty]
  rfl

end Start

/-- For an outcome of the start-up calls, the lists are well formed in every run and no
dereference and no assertion on the lists fails, exactly if no start-up call failed. -/
theorem sound_iff (outcome : StartUp) (appCfg : ApplicationConfig) :
    (∀ iterations, Safe (observer recordLast) outcome.Gives WellBehaved
      ⟨booted appCfg, none, start iterations⟩) ↔ ∀ family, (outcome family).Succeeds := by
  constructor
  · intro hsafe family
    by_contra hfails
    have hlisted : Can (observer recordLast) outcome.Gives
        (do
          let tcpListenerSocket ← TcpSslListenerSocketFactory.createSocket 5555 32
          hold tcpListenerSocket
          let unixListenerSocket ← UnixListenerSocketFactory.createSocket MY_SOCK_PATH
          hold unixListenerSocket
          let _ ← create_dispatcher
          let _ ← putSocket tcpListenerSocket
          putSocket unixListenerSocket)
        (fun s' _ _ => nullptr ∈ s'.socketsList.sockets) (booted appCfg) none := by
      rw [can_bind]
      apply (can_createTcpListener outcome).mono
      rintro s w p ⟨hlist, hp⟩
      rw [can_bind, hold, can_modify, can_bind]
      apply (can_createUnixListener outcome).mono
      rintro s' w q ⟨hlist', hq⟩
      rw [can_bind, hold, can_modify]
      have hempty : s'.socketsList = SocketsList.empty MAX_SOCKETS := hlist'.trans hlist
      apply (can_list p q (by exact hempty)).mono
      intro s'' _ _ hsockets
      rw [hsockets]
      cases family with
      | AF_INET => simp [hp hfails]
      | AF_UNIX => simp [hq hfails]
    obtain ⟨s', w', a, hreaches, hnull⟩ := hlisted.reaches
    -- the run goes on to the condition of the main loop
    have hrun := hreaches.bind fun _ => do
      mainLoop 1
      sayGoodbyeToAllDispatchers
      let _ ← wait_disp_child
      pure ()
    have hsound := hsafe 1 _ (by simpa only [start, run, bind_assoc] using hrun)
      .exitRequested _ rfl
    exact (hsound.1.listed nullptr (Or.inl hnull)).1 rfl
  · exact fun hsucceeds iterations => sound_start hsucceeds appCfg iterations

/-- The port is in use, so that {lit}`bind` fails.  The listener lists the empty pointer
and dereferences it in its first iteration. -/
theorem bind_fails :
    ¬Safe (observer recordLast) anyReply WellBehaved ⟨booted defaultSettings, none, start 1⟩ :=
  not_safe_of_exec
    (fun _ last c => c != .crash || last == some .execl || last == some .getpid)
    (by
      intro s w c h
      by_cases hc : c = .crash
      · rcases h.2 hc with rfl | rfl <;> simp
      · simp [hc])
    ([.inr { ret := 3 }, .inr {}, .inr { ret := -1 }] ++
      [.inr { ret := 4 }, .inr {}, .inr {}, .inr {}] ++
      [.inr { ret := 100 }, .inr {}, .inr {}, .inr {}, .inr {}])
    (by decide)

end Mylsnr

end SocketDispatcher
