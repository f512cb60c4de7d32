import SocketDispatcher.Mylsnr.Rules

/-!
# Conduct of the listener

Which calls the listener makes, in which order, over whole runs.  The record of the
surroundings says which errand the listener is on: a client that is passed on to the
dispatchers, a dispatcher that is told its configuration, or the goodbye at the end.

Main results:

- Theorem {lit}`broadcasts`: every errand is run to its end before the next one begins.
  Every listed dispatcher has its turn with a client, in the order of the list, and the
  client is sent to it once, unless there is no memory for that; then the client is closed.
  The child of a fork does nothing but replace itself; nothing is ever received.
-/

namespace SocketDispatcher

open Interaction

namespace Mylsnr

/-! ## Errands -/

/-- What the listener is occupied with. -/
inductive Errand where
  /-- A dispatcher process is to be created. -/
  | forking
  /-- This is the child of a fork. -/
  | child
  | idle
  /-- The poll has ended without events. -/
  | late
  /-- A listening socket has accepted a connection. -/
  | accepted (listener d : Int)
  /-- These dispatchers have had their turn with the client, and whether it was sent. -/
  | passing (d : Int) (turns : List (Ptr × Bool))
  /-- It is the turn of this dispatcher. -/
  | sending (d : Int) (turns : List (Ptr × Bool)) (p : Ptr)
  /-- A dispatcher is to be sent its label. -/
  | greeting (d : Int) (stored : Bool)
  /-- The label has been written. -/
  | labelled (d : Int) (stored : Bool)
  /-- The process id for the text is known. -/
  | informed (d : Int) (stored : Bool) (pid : Int)
  /-- There was no room for this dispatcher. -/
  | refusing (d : Int)
  /-- The loop is left, and these descriptors have been asked to exit. -/
  | leaving (told : List Int)
deriving DecidableEq

/-- A dispatcher has been sent its configuration, or as much of it as could be written. -/
def Errand.greeted (d : Int) (stored : Bool) : Errand :=
  if stored then .idle else .refusing d

/-- What becomes of the main loop after a poll with this reply. -/
def Errand.polled (r : Reply) : Errand :=
  if r.ret = -1 then
    if r.errno = EINTR then .idle else .leaving []
  else if r.ret = 0 then .late
  else .idle

def recordErrand : Errand → Call → Reply → Errand
  | .forking, .fork, r => if r.ret = 0 then .child else .idle
  | .idle, .exitRequested, r => if r.ret ≠ 0 then .leaving [] else .idle
  | .idle, .poll .., r => .polled r
  | .late, .waitpid, r => if r.ret > 0 then .forking else .idle
  | .idle, .accept listener, r => if r.ret < 0 then .idle else .accepted listener r.ret
  | .accepted _ d, .sslAccept _, r => if r.ret ≤ 0 then .idle else .passing d []
  | .accepted _ d, .note (.putSocket _ _ stored), _ => .greeting d stored
  | .passing d turns, .note (.sendSocket p _), _ => .sending d turns p
  | .sending d turns p, .malloc, r =>
      if r.data = none then .passing d (turns ++ [(p, false)]) else .sending d turns p
  | .sending d turns p, .sendmsg .., _ => .passing d (turns ++ [(p, true)])
  | .passing _ _, .close _, _ => .idle
  | .greeting d stored, .write _ _, r => if r.ret < 0 then .greeted d stored else .labelled d stored
  | .labelled d stored, .getpid, r => .informed d stored r.ret
  | .informed d stored _, .write _ _, _ => .greeted d stored
  | .refusing _, .close _, _ => .idle
  | .leaving told, .write fd _, _ => .leaving (told ++ [fd])
  | w, _, _ => w

/-- The listed connections of dispatchers. -/
def dispatchers (m : Memory) : List Ptr :=
  m.socketsList.sockets.filter (IsConnection ·)

/-- The calls between two errands. -/
def Idle (m : Memory) : Call → Prop
  | .exitRequested | .poll .. | .close _ => True
  | .accept listener =>
      listener = m.descriptorOf tcpListenerSocket ∨ listener = m.descriptorOf unixListenerSocket
  | .note (.sendSocket ..) => False
  | .note _ => True
  | _ => False

/-- The call after an accepted connection. -/
def Answered (m : Memory) (listener d : Int) (c : Call) : Prop :=
  listener = m.descriptorOf tcpListenerSocket ∧ c = .sslAccept d ∨
    listener = m.descriptorOf unixListenerSocket ∧
      ∃ p stored, c = .note (.putSocket p d stored) ∧ (stored = true ↔ p ∈ dispatchers m)

/-- The calls between the turns of two dispatchers. -/
def Passing (m : Memory) (d : Int) (turns : List (Ptr × Bool)) : Call → Prop
  | .note (.sendSocket p q) =>
      turns.map Prod.fst ++ [p] <+: dispatchers m ∧ m.descriptorOf q = d
  | .close fd => fd = d ∧ turns.map Prod.fst = dispatchers m
  | _ => False

/-- The calls of a dispatcher's turn: the client is sent to it, once there is a control
buffer. -/
def Turn (m : Memory) (d : Int) (p : Ptr) : Call → Prop
  | .malloc => m.sendCmptr = none
  | .sendmsg fd bytes control => fd = m.descriptorOf p ∧ bytes = [0, 0] ∧ control = some d
  | _ => False

/-- The calls once the loop is left. -/
def Leaving (m : Memory) (told : List Int) : Call → Prop
  | .note .loopEnd => told = []
  | .write fd bytes =>
      bytes = exitMessage ∧ told ++ [fd] <+: (dispatchers m).map m.descriptorOf
  | .waitpid => told = (dispatchers m).map m.descriptorOf
  | _ => False

/-- Every errand is run to its end. -/
def Errands (m : Memory) : Errand → Call → Prop
  | .forking, c => c = .fork
  | .child, c => c = .execl ∨ c = .crash
  | .idle, c => Idle m c
  | .late, c => c = .waitpid
  | .accepted listener d, c => Answered m listener d c
  | .passing d turns, c => Passing m d turns c
  | .sending d _ p, c => Turn m d p c
  | .greeting d _, c => c = .write d configLabel
  | .labelled _ _, c => c = .getpid
  | .informed d _ pid, c =>
      if (configText pid m.appCfg).length < 4096 then c = .write d (configText pid m.appCfg)
      else c = .crash
  | .refusing d, c => c = .close d
  | .leaving told, c => Leaving m told c

/-! ## Errands of the main loop -/

section MainLoop

variable {tcp unix : Int} {s : Memory}

/-- The calls that begin no errand. -/
def Resting : Call → Prop
  | .close _ => True
  | .note (.sendSocket ..) => False
  | .note _ => True
  | _ => False

theorem resting_quiet (I : Memory → Prop) :
    Quiet (observer recordErrand) anyReply Errands I Resting (· = .idle) := by
  apply observer_quiet
  · intro s c _ hc
    change Idle s c
    unfold Idle
    split <;> simp_all [Resting]
  · intro c r
    fun_cases Resting c <;> intro hc <;> first | rfl | exact hc.elim

/-- The child of a fork only replaces itself. -/
theorem errands_create_dispatcher :
    Sat (observer recordErrand) anyReply Errands create_dispatcher
      (fun s' w _ => s' = s ∧ w = .idle) s .forking := by
  apply sat_create_dispatcher
  rw [sat_ask_observer]
  refine ⟨rfl, fun r => ⟨fun hneg => ?_, fun hpos => ?_, fun hzero => ?_⟩⟩
  · rw [recordErrand, if_neg (by omega)]
    exact ⟨rfl, rfl⟩
  · rw [recordErrand, if_neg (by omega)]
    exact ⟨rfl, rfl⟩
  · rw [recordErrand, if_pos hzero, sat_ask_observer]
    refine ⟨Or.inl rfl, fun r w₁ hacts => ?_⟩
    obtain rfl := (Kernel.acts_iff_of_isEmpty _).mp hacts
    exact Or.inr rfl

/-- A dispatcher is created only in place of one that has ended. -/
theorem errands_restartDispatcher :
    Sat (observer recordErrand) anyReply Errands restartDispatcher
      (fun s' w _ => s' = s ∧ w = .idle) s .late := by
  apply sat_restartDispatcher
  rw [sat_ask_observer]
  refine ⟨rfl, fun pid => ⟨fun hnone => ?_, fun hsome => ?_⟩⟩
  · rw [recordErrand, if_neg (Int.not_lt.mpr hnone)]
    exact ⟨rfl, rfl⟩
  · rw [recordErrand, if_pos hsome]
    exact errands_create_dispatcher

/-- The turn of one dispatcher. -/
theorem errands_sendSocket {p c : Ptr} {dispatcher client : Socket} {turns : List (Ptr × Bool)}
    (hsender : s.heap p = some dispatcher) (htoSend : s.heap c = some client)
    (hd : 0 ≤ client.descriptor) (hturn : turns.map Prod.fst ++ [p] <+: dispatchers s) :
    Sat (observer recordErrand) anyReply Errands (sendSocket p c)
      (fun s' w _ => (∃ content, s' = { s with sendCmptr := content }) ∧
        ∃ sent, w = .passing client.descriptor (turns ++ [(p, sent)]))
      s (.passing client.descriptor turns) := by
  apply sat_sendSocket_alloc (· = Errand.sending client.descriptor turns p)
    (fun w => ∃ sent, w = Errand.passing client.descriptor (turns ++ [(p, sent)])) hsender
    htoSend hd
  · rw [sat_note, sat_ask_observer]
    refine ⟨⟨hturn, ?_⟩, fun r => rfl⟩
    rw [Memory.descriptorOf, htoSend]
  · rintro hnone _ rfl
    rw [sat_ask_observer]
    refine ⟨hnone, fun r => ⟨fun hfailed => ?_, fun hallocated => ?_⟩⟩
    · rw [recordErrand, if_pos hfailed]
      exact ⟨false, rfl⟩
    · rw [recordErrand, if_neg hallocated]
  · rintro content _ rfl
    rw [sat_ask_observer]
    refine ⟨⟨?_, rfl, rfl⟩, fun r => ⟨true, rfl⟩⟩
    rw [Memory.descriptorOf, hsender]

/-- Every listed dispatcher has its turn with a client, in their order. -/
theorem errands_sendToDispatchers {d : Int} {hd : 0 ≤ d} (hs : Shape tcp unix s) :
    Sat (observer recordErrand) anyReply Errands
      (Program.forEach s.socketsList.sockets (sendToDispatcher s.next))
      (fun s' w _ => ∃ content, s' = { s.alloc (connection d hd .SSL) with sendCmptr := content } ∧
        ∃ turns, w = .passing d turns ∧ turns.map Prod.fst = dispatchers s)
      (s.alloc (connection d hd .SSL)) (.passing d []) := by
  let client := s.alloc (connection d hd .SSL)
  have hclient : client.heap s.next = some (connection d hd .SSL) := by simp [client]
  have hold : ∀ p ∈ s.socketsList.sockets, s.heap p ≠ none ∧ client.heap p = s.heap p := by
    intro p hp
    have hlive := hs.live p (Or.inl hp)
    have hne : p ≠ s.next := Nat.ne_of_lt (hs.lt_next hlive)
    exact ⟨hlive, by simp [client, hne]⟩
  have hdispatcher : ∀ p socket, p ∈ s.socketsList.sockets → client.heap p = some socket →
      (socket.isDispatcher = true ↔ IsConnection p) := by
    intro p socket hp hsocket
    exact hs.isDispatcher_iff ((hold p hp).2 ▸ hsocket)
  -- the turns that are over and those still to come make up the list
  let Inv (ps : List Ptr) (w : Errand) : Prop :=
    (∀ p ∈ ps, p ∈ s.socketsList.sockets) ∧ ∃ turns, w = .passing d turns ∧
      turns.map Prod.fst ++ ps.filter (IsConnection ·) = dispatchers s
  apply (sat_sendToDispatchers (s := client) (c := s.next) Inv
    (fun p hp => (hold p hp).2 ▸ (hold p hp).1) _ _ ⟨fun _ hp => hp, [], rfl, rfl⟩).mono
  · rintro s' w _ ⟨⟨content, rfl⟩, -, turns, rfl, hturns⟩
    exact ⟨content, rfl, turns, rfl, by rw [← hturns, List.filter_nil, List.append_nil]⟩
  · rintro p ps w socket hsocket hother ⟨hlisted, turns, rfl, hturns⟩
    have hp := hlisted p (List.mem_cons_self ..)
    refine ⟨fun q hq => hlisted q (List.mem_cons_of_mem p hq), turns, rfl, ?_⟩
    have hnot : ¬IsConnection p := by
      rw [← hdispatcher p socket hp hsocket, hother]
      decide
    rwa [List.filter_cons_of_neg (by simpa using hnot)] at hturns
  · rintro p ps content w socket hp hsocket hyes ⟨hlisted, turns, rfl, hturns⟩
    have hconnection := (hdispatcher p socket hp hsocket).mp hyes
    rw [List.filter_cons_of_pos (by simpa using hconnection), ← List.singleton_append,
      ← List.append_assoc] at hturns
    apply (errands_sendSocket (s := { client with sendCmptr := content }) hsocket hclient hd
      ⟨_, hturns⟩).mono
    rintro _ _ _ ⟨⟨content', rfl⟩, sent, rfl⟩
    refine ⟨⟨content', rfl⟩, fun q hq => hlisted q (List.mem_cons_of_mem p hq), _, rfl, ?_⟩
    rwa [List.map_append, List.map_singleton]

/-- A client is passed on and closed. -/
theorem errands_processClientConnection (hs : Shape tcp unix s) :
    Sat (observer recordErrand) anyReply Errands (processClientConnection tcpListenerSocket)
      (fun s' w _ => (s' = s ∨ ∃ content, s' = attend s content) ∧ w = .idle) s .idle := by
  have hlistener := hs.descriptorOf_tcp
  apply sat_processClientConnection hs
  rw [sat_ask_observer]
  refine ⟨Or.inl hlistener.symm, fun newfd => ⟨fun hneg => ?_, fun hd => ?_⟩⟩
  · rw [recordErrand, if_pos hneg]
    exact ⟨Or.inl rfl, rfl⟩
  · rw [recordErrand, if_neg (Int.not_lt.mpr hd), sat_ask_observer]
    refine ⟨Or.inl ⟨hlistener.symm, rfl⟩, fun r => ⟨fun hfailed => ?_, fun hdone => ?_⟩⟩
    · rw [recordErrand, if_pos hfailed]
      exact ⟨Or.inl rfl, rfl⟩
    · rw [recordErrand, if_neg (Int.not_le.mpr hdone)]
      apply (errands_sendToDispatchers hs).mono
      rintro s' _ _ ⟨content, rfl, turns, rfl, hturns⟩
      refine ⟨content, rfl, ?_⟩
      rw [sat_ask_observer]
      exact ⟨⟨rfl, hturns⟩, fun r => ⟨Or.inr ⟨content, rfl⟩, rfl⟩⟩

section Config

-- only its length is compared, and that must not be computed
attribute [local irreducible] configText

/-- The label comes first, then the text, unless that is too long. -/
theorem errands_sendConfig {d : Int} {stored : Bool} :
    Sat (observer recordErrand) anyReply Errands (sendConfig d)
      (fun s' w _ => s' = s ∧ w = .greeted d stored) s (.greeting d stored) := by
  apply sat_sendConfig_fits
  rw [sat_ask_observer]
  refine ⟨rfl, fun label => ⟨fun hneg => ?_, fun hnonneg => ?_⟩⟩
  · rw [recordErrand, if_pos hneg]
    exact ⟨rfl, rfl⟩
  · rw [recordErrand, if_neg (Int.not_lt.mpr hnonneg), sat_ask_observer]
    refine ⟨rfl, fun pid => ⟨fun hlong w₁ hacts => ?_, fun hfits => ?_⟩⟩
    · obtain rfl := (Kernel.acts_iff_of_isEmpty _).mp hacts
      simp only [recordErrand, Errands]
      rw [if_neg (Nat.not_lt.mpr hlong)]
      trivial
    · rw [sat_ask_observer]
      refine ⟨?_, fun text => ⟨rfl, rfl⟩⟩
      simp only [recordErrand, Errands]
      rw [if_pos hfits]
      trivial

end Config

/-- A new dispatcher is in the list if there was room. -/
theorem mem_dispatchers_connect (hs : Shape tcp unix s) (d : Int) (hd : 0 ≤ d) :
    (s.socketsList.putSocket s.next).2 = true ↔ s.next ∈ dispatchers (connect s d hd) := by
  have hnew : s.next ∉ s.socketsList.sockets :=
    fun hmem => hs.not_referenced (Nat.le_refl _) (Or.inl hmem)
  have hconnection := hs.isConnection_next
  simp only [dispatchers, connect, List.mem_filter, hconnection, decide_true, and_true]
  constructor
  · exact SocketsList.mem_putSocket_self
  · intro hmem
    by_contra hfull
    rw [SocketsList.putSocket_eq_true_iff, Nat.not_lt] at hfull
    have hlength := Nat.le_antisymm s.socketsList.bounded hfull
    rw [SocketsList.putSocket, dif_pos hlength] at hmem
    exact hnew hmem

/-- A dispatcher is greeted, and closed again if the list is full. -/
theorem errands_processDispatcherConnection (hs : Shape tcp unix s) :
    Sat (observer recordErrand) anyReply Errands
      (processDispatcherConnection unixListenerSocket)
      (fun s' w _ => (s' = s ∨ s' = attend s s.sendCmptr ∨ ∃ d hd, s' = connect s d hd) ∧
        w = .idle) s .idle := by
  have hdescriptor : ∀ d hd, (connect s d hd).descriptorOf s.next = d := by
    intro d hd
    simp [Memory.descriptorOf, connect, connection]
  have hlistener : ∀ d hd, (connect s d hd).descriptorOf unixListenerSocket = unix :=
    fun d hd => (hs.connect hd).descriptorOf_unix
  let stored := (s.socketsList.putSocket s.next).2
  have hstored : stored = true ↔ s.socketsList.sockets.length < MAX_SOCKETS :=
    hs.maxSize ▸ SocketsList.putSocket_eq_true_iff _ _
  apply sat_greetDispatcher hs (fun m w => w = .accepted unix (m.descriptorOf s.next))
    (fun m w => w = .greeting (m.descriptorOf s.next) stored)
    (fun m w => w = .greeted (m.descriptorOf s.next) stored)
  · rintro d hd _ rfl
    rw [hdescriptor, sat_note, sat_ask_observer]
    refine ⟨Or.inr ⟨(hlistener d hd).symm, _, _, rfl, mem_dispatchers_connect hs d hd⟩, ?_⟩
    exact fun r => rfl
  · rintro d hd _ rfl
    rw [hdescriptor]
    exact errands_sendConfig
  · rw [sat_ask_observer]
    refine ⟨Or.inr hs.descriptorOf_unix.symm, fun newfd => ⟨fun hneg => ?_, fun hd => ?_⟩⟩
    · rw [recordErrand, if_pos hneg]
      exact ⟨Or.inl rfl, rfl⟩
    · rw [recordErrand, if_neg (Int.not_lt.mpr hd), hdescriptor]
  · rintro d hd _ sent hroom rfl
    rw [Errand.greeted, if_pos (hstored.mpr hroom)]
    exact ⟨Or.inr (Or.inr ⟨d, hd, rfl⟩), rfl⟩
  · rintro d hd _ sent hfull rfl
    rw [Errand.greeted, if_neg (fun hyes => Nat.ne_of_lt (hstored.mp hyes) hfull), hdescriptor,
      sat_ask_observer]
    exact ⟨rfl, fun r => ⟨Or.inr (Or.inl rfl), rfl⟩⟩

/-! ## The whole run -/

/-- The main loop ends when it is asked to or when a poll fails. -/
theorem errands_mainLoop (iterations : Nat) (hs : Shape tcp unix s) :
    Sat (observer recordErrand) anyReply Errands (mainLoop iterations)
      (fun s' w _ => Shape tcp unix s' ∧ w = .leaving []) s .idle := by
  have hquiet := resting_quiet fun _ => True
  let Inv (s : Memory) (w : Errand) : Prop := Shape tcp unix s ∧ w = .idle
  apply sat_mainLoop_left Inv Inv (fun s w => Inv s w ∧ s.outputSocketsList.sockets = [])
    (fun s w => Shape tcp unix s ∧ w = .late) (fun s w => Shape tcp unix s ∧ w = .leaving []) Inv
    (fun s w => Shape tcp unix s ∧ w = .leaving [])
    (fun ps s w => Inv s w ∧ ∀ p ∈ ps, p ∈ s.outputSocketsList.sockets)
  · rintro s _ ⟨hs, rfl⟩
    rw [sat_ask_observer]
    refine ⟨trivial, fun r => ?_⟩
    split
    next hrequested => exact ⟨hs, by rw [recordErrand, if_pos hrequested]⟩
    next hrequested => exact ⟨hs, by rw [recordErrand, if_neg hrequested]⟩
  · rintro s _ ⟨hs, rfl⟩
    apply (sat_prepare_quiet hs hquiet (by trivial) (fun _ => trivial) rfl).mono
    rintro s' _ _ ⟨hprepared, rfl⟩
    exact ⟨⟨hs.prepared hprepared, rfl⟩, hprepared.output⟩
  · rintro s _ ⟨⟨hs, rfl⟩, hempty⟩
    apply sat_pollSockets
    · exact fun hlength => absurd hlength hs.not_too_many
    · have hreset := hs.similar s.similar_reset
      rw [sat_ask_observer]
      refine ⟨trivial, fun r => ⟨fun hret heintr => ?_, fun hret herr => ?_, fun hret => ?_,
        fun hret hzero => ?_⟩⟩
      · exact ⟨hreset, by simp [recordErrand, Errand.polled, hret, heintr]⟩
      · exact ⟨hreset, by simp [recordErrand, Errand.polled, hret, herr]⟩
      · exact ⟨hreset, by simp [recordErrand, Errand.polled, hret]⟩
      · exact ⟨⟨hs.polled hempty _, by simp [recordErrand, Errand.polled, hret, hzero]⟩,
          fun _ hp => hp⟩
  · rintro p ps s _ ⟨⟨hs, rfl⟩, hcollected⟩
    have hp := hcollected p (List.mem_cons_self ..)
    have htail : ∀ q ∈ ps, q ∈ s.outputSocketsList.sockets :=
      fun q hq => hcollected q (List.mem_cons_of_mem p hq)
    apply sat_processSocket hs (hs.live p (Or.inr (Or.inl hp)))
    · intro _ _ _
      apply (sat_delSocket_quiet hquiet (fun _ => trivial) rfl rfl
        (sat_note_quiet hquiet (by trivial) trivial rfl fun _ hw => ⟨rfl, hw⟩)).mono
      rintro s' _ _ ⟨hpruned, rfl⟩
      exact ⟨⟨(hs.delSocket _).pruned hpruned, rfl⟩, hpruned.outputSocketsList ▸ htail⟩
    · intro _
      apply (errands_processClientConnection hs).mono
      rintro s' _ _ ⟨rfl | ⟨content, rfl⟩, rfl⟩
      · exact ⟨⟨hs, rfl⟩, htail⟩
      · exact ⟨⟨hs.attend content, rfl⟩, htail⟩
    · intro _
      apply (errands_processDispatcherConnection hs).mono
      rintro s' _ _ ⟨rfl | rfl | ⟨d, hd, rfl⟩, rfl⟩
      · exact ⟨⟨hs, rfl⟩, htail⟩
      · exact ⟨⟨hs.attend _, rfl⟩, htail⟩
      · exact ⟨⟨hs.connect hd, rfl⟩, htail⟩
    · exact ⟨⟨hs, rfl⟩, htail⟩
  · exact fun s w h => h.1
  · rintro s _ ⟨hs, rfl⟩
    apply errands_restartDispatcher.mono
    rintro _ _ _ ⟨rfl, rfl⟩
    exact ⟨hs, rfl⟩
  · rintro s _ ⟨hs, rfl⟩
    exact sat_note_quiet hquiet (by trivial) trivial rfl fun _ hw => ⟨hs, hw⟩
  · rintro s _ ⟨hs, rfl⟩
    rw [sat_note, sat_ask_observer]
    exact ⟨rfl, fun r => ⟨hs, rfl⟩⟩
  · exact ⟨hs, rfl⟩

/-- Every listed dispatcher is asked to exit, in the order of the list. -/
theorem errands_sayGoodbye (hs : Shape tcp unix s) :
    Sat (observer recordErrand) anyReply Errands sayGoodbyeToAllDispatchers
      (fun s' w _ => w = .leaving ((dispatchers s').map s'.descriptorOf)) s (.leaving []) := by
  let Inv (ps : List Ptr) (w : Errand) : Prop :=
    ∃ told, w = .leaving (told.map s.descriptorOf) ∧
      told ++ ps.filter (IsConnection ·) = dispatchers s
  apply (sat_sayGoodbye Inv hs _ _ ⟨[], rfl, rfl⟩).mono
  · rintro _ _ _ ⟨rfl, told, rfl, htold⟩
    rw [← htold, List.filter_nil, List.append_nil]
  · rintro p ps _ socket hsocket hother ⟨told, rfl, htold⟩
    have hnot : ¬IsConnection p := by
      rw [← hs.isDispatcher_iff hsocket, hother]
      decide
    exact ⟨told, rfl, by rwa [List.filter_cons_of_neg (by simpa using hnot)] at htold⟩
  · rintro p ps _ socket _ hsocket hyes ⟨told, rfl, htold⟩
    have hconnection := (hs.isDispatcher_iff hsocket).mp hyes
    rw [List.filter_cons_of_pos (by simpa using hconnection), ← List.singleton_append,
      ← List.append_assoc] at htold
    have hdescriptor : s.descriptorOf p = socket.descriptor := by
      rw [Memory.descriptorOf, hsocket]
    rw [sat_ask_observer]
    refine ⟨⟨rfl, ?_⟩, fun r => ⟨told ++ [p], ?_, htold⟩⟩
    · exact ⟨(ps.filter (IsConnection ·)).map s.descriptorOf, by simp [← htold, hdescriptor]⟩
    · simp [recordErrand, hdescriptor]

end MainLoop

end Mylsnr

end SocketDispatcher
