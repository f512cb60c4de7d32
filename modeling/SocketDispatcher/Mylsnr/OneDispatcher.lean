import SocketDispatcher.Mylsnr.Children

/-!
# One dispatcher for a client

A client is sent to every dispatcher in the sockets list, and the list may hold sockets
of dispatchers that have ended.  That no two running dispatchers get one client rests on
how the listener forks and reaps.

Main results:

- Theorem {lit}`staffed_processClientConnection` and theorem
  {lit}`staffed_processDispatcherConnection`: accepting a client or a dispatcher keeps
  the invariant.
- Theorem {lit}`staffed_restartDispatcher`: a child is forked only when none is left.
- Theorem {lit}`one_dispatcher`: at most one child is unreaped, the listed dispatchers
  are different children, and no client is sent to two running ones.
-/

namespace SocketDispatcher

open Interaction

namespace Mylsnr

/-- What the listed sockets of dispatchers refer to. -/
def owners (m : Memory) (w : Family) : List (Option Description) :=
  (m.socketsList.sockets.filter fun p => (m.heap p).any Socket.isDispatcher).map fun p =>
    w.table (m.descriptorOf p)

/-- At most one child is unreaped, the listed dispatchers are different children, and no
client has been sent to two children. -/
def OneDispatcher (m : Memory) (w : Family) (_ : Call) : Prop :=
  w.unreaped.length ≤ 1 ∧
  (∀ owner ∈ owners m w, ∃ number, owner = some (.dispatcher number)) ∧
  (owners m w).Nodup ∧
  ∀ client number number', (client, number) ∈ w.handed → (client, number') ∈ w.handed →
    number = number'

/-! ## The invariant -/

/-- Every object has an open descriptor of its own, and the dispatchers among them are
connections of children. -/
structure Staffed (s : Memory) (w : Family) : Prop extends Sound w where
  nodup : s.socketsList.sockets.Nodup
  distinct : ∀ p q, s.heap p ≠ none → s.heap q ≠ none →
    s.descriptorOf p = s.descriptorOf q → p = q
  opened : ∀ p, s.heap p ≠ none → w.table (s.descriptorOf p) ≠ none
  dispatcher : ∀ p socket, s.heap p = some socket → socket.isDispatcher = true →
    ∃ number, w.table socket.descriptor = some (.dispatcher number)

section Steps

variable {tcp unix : Int} {p : Ptr} {s s' : Memory} {w w' : Family}

theorem descriptorOf_of_some {socket : Socket} (hsocket : s.heap p = some socket) :
    s.descriptorOf p = socket.descriptor := by
  simp [Memory.descriptorOf, hsocket]

/-- The guarantee. -/
theorem Staffed.oneDispatcher (h : Staffed s w) (c : Call) : OneDispatcher s w c := by
  have howner : ∀ p ∈ s.socketsList.sockets.filter fun p => (s.heap p).any Socket.isDispatcher,
      s.heap p ≠ none ∧ ∃ number, w.table (s.descriptorOf p) = some (.dispatcher number) := by
    intro p hp
    have hany := (List.mem_filter.mp hp).2
    cases hsocket : s.heap p with
    | none => simp [hsocket] at hany
    | some socket =>
        have hdispatcher : socket.isDispatcher = true := by simpa [hsocket] using hany
        rw [descriptorOf_of_some hsocket]
        exact ⟨by simp, h.dispatcher p socket hsocket hdispatcher⟩
  refine ⟨h.single, ?_, ?_, h.once⟩
  · intro owner hmem
    rcases List.mem_map.mp hmem with ⟨p, hp, rfl⟩
    exact (howner p hp).2
  · apply (h.nodup.filter _).map_on
    intro p hp q hq heq
    obtain ⟨hp, number, hnumber⟩ := howner p hp
    obtain ⟨hq, _⟩ := howner q hq
    apply h.distinct p q hp hq
    exact h.different _ _ number hnumber (heq ▸ hnumber)

theorem Staffed.similar (h : Staffed s w) (hsim : s.Similar s') : Staffed s' w where
  toSound := h.toSound
  nodup := hsim.socketsList ▸ h.nodup
  distinct p q hp hq heq := by
    rw [Ne, hsim.heap_eq_none_iff] at hp hq
    rw [hsim.descriptorOf, hsim.descriptorOf] at heq
    exact h.distinct p q hp hq heq
  opened p hp := by
    rw [Ne, hsim.heap_eq_none_iff] at hp
    rw [hsim.descriptorOf]
    exact h.opened p hp
  dispatcher p socket' hsocket' hdispatcher := by
    rcases hsim.object hsocket' with ⟨socket, hsocket, hid⟩
    have hdescriptor : socket'.descriptor = socket.descriptor := congrArg (·.2.2.1) hid
    have htype : socket'.socketType = socket.socketType := congrArg (·.2.2.2.1) hid
    have hlisten : socket'.listenSocket = socket.listenSocket := congrArg (·.2.2.2.2) hid
    rw [hdescriptor]
    apply h.dispatcher p socket hsocket
    simpa [Socket.isDispatcher, htype, hlisten] using hdispatcher

/-- Another world with the same descriptors. -/
theorem Staffed.world (h : Staffed s w) (hsound : Sound w') (htable : w'.table = w.table) :
    Staffed s w' where
  toSound := hsound
  nodup := h.nodup
  distinct := h.distinct
  opened p hp := htable ▸ h.opened p hp
  dispatcher p socket hsocket hdispatcher := htable ▸ h.dispatcher p socket hsocket hdispatcher

/-- Other lists. -/
theorem Staffed.lists (h : Staffed s w) {list output : SocketsList Ptr}
    (hlist : list.sockets.Nodup) :
    Staffed { s with socketsList := list, outputSocketsList := output } w :=
  ⟨h.toSound, hlist, h.distinct, h.opened, h.dispatcher⟩

theorem Staffed.act {unix : Int} {a : Move} (h : Staffed s w)
    (ha : (family unix).act w a = some w') : Staffed s w' :=
  have hspec := act_spec ha
  h.world (hspec.1 h.toSound) hspec.2.1

/-- The calls that leave processes and descriptors alone. -/
def Settled : Call → Prop
  | .fork | .waitpid | .accept _ | .close _ | .sendmsg .. => False
  | _ => True

/-- Settled calls are answered in every way and change nothing. -/
theorem settled_reply {unix : Int} {c : Call} {r : Reply} (hc : Settled c)
    (h : (family unix).reply w c r = some w') : w' = w := by
  cases c with
  | fork => exact hc.elim
  | waitpid => exact hc.elim
  | accept => exact hc.elim
  | close => exact hc.elim
  | sendmsg => exact hc.elim
  | _ => exact (Option.some.inj h).symm

/-- Settled calls keep every invariant that moves of the children keep and that gives
the guarantee. -/
theorem settled_quiet {unix : Int} {I : Memory → Prop} {J : Family → Prop}
    (hG : ∀ m v, I m → J v → Staffed m v)
    (hact : ∀ v a v', (family unix).act v a = some v' → J v → J v') :
    Quiet (family unix) anyReply OneDispatcher I Settled J where
  guarantee m v c hI _ hJ := (hG m v hI hJ).oneDispatcher c
  reply _ _ _ _ _ _ hc hreply _ hJ := settled_reply hc hreply ▸ hJ
  act := hact

theorem staffed_quiet (unix : Int) (s : Memory) :
    Quiet (family unix) anyReply OneDispatcher s.Similar Settled (Staffed s) :=
  settled_quiet (fun _ _ hsim h => h.similar hsim) fun _ _ _ ha h => h.act ha

theorem settled_of_calm : ∀ c, Calm c → Settled c := by
  apply forall_calm <;> intros <;> trivial

theorem settled_of_greeting : ∀ c, Greeting c → Settled c := by
  apply forall_greeting <;> intros <;> trivial

/-! ## Objects that come and go -/

theorem Staffed.erase (h : Staffed s w) (p : Ptr) : Staffed (s.erase p) w := by
  have hold : ∀ {q}, (s.erase p).heap q ≠ none → q ≠ p ∧ s.heap q ≠ none := by
    intro q hq
    by_cases hqp : q = p
    · simp [hqp] at hq
    · exact ⟨hqp, by simpa [hqp] using hq⟩
  have hdescriptor : ∀ {q}, q ≠ p → (s.erase p).descriptorOf q = s.descriptorOf q := by
    intro q hq
    simp [Memory.descriptorOf, hq]
  refine ⟨h.toSound, h.nodup, ?_, ?_, ?_⟩
  · intro q q' hq hq' heq
    rw [hdescriptor (hold hq).1, hdescriptor (hold hq').1] at heq
    exact h.distinct q q' (hold hq).2 (hold hq').2 heq
  · intro q hq
    rw [hdescriptor (hold hq).1]
    exact h.opened q (hold hq).2
  · intro q socket hsocket hdispatcher
    have hq := hold (hsocket ▸ Option.some_ne_none socket)
    rw [Memory.erase_heap, if_neg hq.1] at hsocket
    exact h.dispatcher q socket hsocket hdispatcher

/-- A descriptor that no object has may be opened or closed. -/
theorem Staffed.update (h : Staffed s w) (hsound : Sound w') {d : Int}
    {description : Option Description}
    (htable : w'.table = Function.update w.table d description)
    (hd : ∀ p, s.heap p ≠ none → s.descriptorOf p ≠ d) : Staffed s w' where
  toSound := hsound
  nodup := h.nodup
  distinct := h.distinct
  opened p hp := by
    rw [htable, Function.update_of_ne (hd p hp)]
    exact h.opened p hp
  dispatcher p socket hsocket hdispatcher := by
    have hne := hd p (hsocket ▸ Option.some_ne_none socket)
    rw [descriptorOf_of_some hsocket] at hne
    rw [htable, Function.update_of_ne hne]
    exact h.dispatcher p socket hsocket hdispatcher

/-- A new descriptor belongs to no object. -/
theorem Staffed.descriptorOf_ne (h : Staffed s w) {d : Int} (hd : w.table d = none) :
    ∀ p, s.heap p ≠ none → s.descriptorOf p ≠ d :=
  fun p hp heq => h.opened p hp (heq ▸ hd)

/-- A destroyed object closes its descriptor. -/
theorem staffed_dispose (unix : Int) (h : Staffed s w) {socket : Socket}
    (hsocket : s.heap p = some socket) :
    Sat (family unix) anyReply OneDispatcher (Program.ask (.close socket.descriptor))
      (fun s' w' _ => s' = s.erase p ∧ Staffed s' w') (s.erase p) w := by
  have hfree : ∀ q, (s.erase p).heap q ≠ none → (s.erase p).descriptorOf q ≠ socket.descriptor := by
    intro q hq heq
    by_cases hqp : q = p
    · simp [hqp] at hq
    · rw [Memory.erase_heap, if_neg hqp] at hq
      apply hqp
      apply h.distinct q p hq (hsocket ▸ Option.some_ne_none socket)
      rw [descriptorOf_of_some hsocket, ← heq]
      simp [Memory.descriptorOf, hqp]
  apply sat_ask_keeps (fun _ _ _ ha h => h.act ha) (h.erase p) fun _ h => h.oneDispatcher _
  intro w₁ r w₂ h₁ hreply _
  obtain rfl := Option.some.inj hreply
  exact ⟨rfl, h₁.update (h₁.toSound.close _) rfl hfree⟩

theorem staffed_disposes {unix : Int} :
    Disposes (family unix) anyReply OneDispatcher Staffed where
  erase _ _ p _ h _ _ _ := h.erase p
  close _ _ _ _ h _ hsocket _ :=
    (staffed_dispose _ h hsocket).mono fun _ _ _ hpost => hpost.2

/-- An object for a new descriptor. -/
theorem Staffed.alloc (h : Staffed s w) {socket : Socket}
    (hfree : ∀ p, s.heap p ≠ none → s.descriptorOf p ≠ socket.descriptor)
    (hopened : w.table socket.descriptor ≠ none)
    (hdispatcher : socket.isDispatcher = true →
      ∃ number, w.table socket.descriptor = some (.dispatcher number)) :
    Staffed (s.alloc socket) w := by
  have hnew : (s.alloc socket).descriptorOf s.next = socket.descriptor :=
    descriptorOf_of_some (by simp)
  have hold : ∀ {q}, q ≠ s.next → (s.alloc socket).heap q = s.heap q ∧
      (s.alloc socket).descriptorOf q = s.descriptorOf q := by
    intro q hq
    simp [Memory.descriptorOf, hq]
  refine ⟨h.toSound, h.nodup, ?_, ?_, ?_⟩
  · intro q q' hq hq' heq
    by_cases hqn : q = s.next
    · by_cases hqn' : q' = s.next
      · rw [hqn, hqn']
      · rw [(hold hqn').1] at hq'
        rw [hqn, hnew, (hold hqn').2] at heq
        exact absurd heq.symm (hfree q' hq')
    · rw [(hold hqn).1] at hq
      by_cases hqn' : q' = s.next
      · rw [hqn', hnew, (hold hqn).2] at heq
        exact absurd heq (hfree q hq)
      · rw [(hold hqn').1] at hq'
        rw [(hold hqn).2, (hold hqn').2] at heq
        exact h.distinct q q' hq hq' heq
  · intro q hq
    by_cases hqn : q = s.next
    · rw [hqn, hnew]
      exact hopened
    · rw [(hold hqn).1] at hq
      rw [(hold hqn).2]
      exact h.opened q hq
  · intro q socket' hsocket' hdispatcher'
    by_cases hqn : q = s.next
    · obtain rfl : socket = socket' := by simpa [hqn] using hsocket'
      exact hdispatcher hdispatcher'
    · rw [(hold hqn).1] at hsocket'
      exact h.dispatcher q socket' hsocket' hdispatcher'

/-! ## The listener's functions -/

/-- The invariant between two operations. -/
structure Supervised (tcp unix : Int) (s : Memory) (w : Family) : Prop where
  shape : Shape tcp unix s
  staffed : Staffed s w

theorem supervised_prepare (h : Supervised tcp unix s w) :
    Sat (family unix) anyReply OneDispatcher prepare (fun s' w' _ =>
      Supervised tcp unix s' w' ∧ s'.outputSocketsList.sockets = []) s w := by
  rw [prepare, sat_bind]
  refine sat_note_quiet (staffed_quiet _ s) (by trivial) (Memory.Similar.refl s) h.staffed ?_
  intro w hstaffed
  rw [sat_bind]
  have hcleared : Staffed { s with outputSocketsList := s.outputSocketsList.clear } w :=
    hstaffed.lists hstaffed.nodup
  apply (sat_clearOutput_keeps staffed_disposes hcleared).mono
  rintro s₂ w _ ⟨hpruned, hstaffed⟩
  rw [sat_bind, sat_get]
  have hshape := h.shape.clearOutput.pruned hpruned
  apply (sat_pollForReads fun p hp => hshape.live p (Or.inl hp)).mono
  rintro s' _ _ ⟨hasks, rfl⟩
  refine ⟨⟨hshape.similar hasks.similar, hstaffed.similar hasks.similar⟩, ?_⟩
  rw [hasks.similar.outputSocketsList, hpruned.outputSocketsList]
  rfl

theorem supervised_delSocket (h : Supervised tcp unix s w) (p : Ptr) :
    Sat (family unix) anyReply OneDispatcher (delSocket p) (fun s' w' _ =>
      Supervised tcp unix s' w' ∧ s'.outputSocketsList = s.outputSocketsList) s w := by
  let list := (SocketsList.delSocket s.descriptorOf s.socketsList (s.descriptorOf p)).1
  have hstaffed : Staffed { s with socketsList := list } w :=
    h.staffed.lists (h.staffed.nodup.sublist (SocketsList.delSocket_sublist _ _ _))
  apply (sat_delSocket_keeps staffed_disposes rfl rfl _).mono
  · rintro s' w _ ⟨hpruned, hstaffed⟩
    exact ⟨⟨(h.shape.delSocket _).pruned hpruned, hstaffed⟩, hpruned.outputSocketsList⟩
  · exact sat_note_quiet (staffed_quiet _ _) (by trivial) (Memory.Similar.refl _) hstaffed
      fun _ hstaffed => ⟨rfl, hstaffed⟩

/-- While the client with the given number and descriptor is sent. -/
structure Serving (client : Nat) (d : Int) (s : Memory) (w : Family) : Prop where
  staffed : Staffed s w
  table : w.table d = some (.client client)
  last : SentToLast w client

theorem Serving.similar {client : Nat} {d : Int} (h : Serving client d s w)
    (hsim : s.Similar s') : Serving client d s' w :=
  ⟨h.staffed.similar hsim, h.table, h.last⟩

theorem serving_quiet (unix : Int) (client : Nat) (d : Int) (s : Memory) :
    Quiet (family unix) anyReply OneDispatcher s.Similar Settled (Serving client d s) :=
  settled_quiet (fun _ _ hsim h => h.staffed.similar hsim) fun _ _ _ ha h =>
    ⟨h.staffed.act ha, (act_spec ha).2.1 ▸ h.table, h.last.act ha⟩

/-- The control buffer of the sending side belongs to no object. -/
theorem similar_sendCmptr (s : Memory) (content : Option Int) :
    s.Similar { s with sendCmptr := content } :=
  ⟨fun _ => rfl, rfl, rfl, rfl, rfl⟩

/-- Sending a client to one listed socket. -/
theorem serving_sendSocket {client : Nat} {sender : Ptr} {dispatcher socket : Socket}
    (hsender : s.heap sender = some dispatcher) (hp : s.heap p = some socket)
    (hd : 0 ≤ socket.descriptor) (h : Serving client socket.descriptor s w) :
    Sat (family unix) anyReply OneDispatcher (sendSocket sender p) (fun s' w' _ =>
      (∃ content, s' = { s with sendCmptr := content }) ∧
        Serving client socket.descriptor s w') s w := by
  have hquiet := serving_quiet unix client socket.descriptor s
  apply sat_sendSocket (Serving client socket.descriptor s)
    (Serving client socket.descriptor s) hsender hp hd
  · exact sat_note_quiet hquiet (by trivial) (Memory.Similar.refl s) h fun _ h => h
  · exact fun w h => sat_ask_quiet hquiet (by trivial) (Memory.Similar.refl s) h fun _ _ h => h
  · intro content w h
    apply sat_ask_keeps hquiet.act h fun _ h =>
      (h.staffed.similar (similar_sendCmptr s content)).oneDispatcher _
    intro w₁ r w₂ h₁ hreply _
    obtain rfl : w₁.hand dispatcher.descriptor socket.descriptor = w₂ := Option.some.inj hreply
    obtain ⟨hsound, hlast, htable⟩ := h₁.staffed.toSound.hand h₁.table h₁.last
    exact ⟨h₁.staffed.world hsound htable, htable ▸ h₁.table, hlast⟩
  · exact fun w h => h

/-- Sending a client to all listed dispatchers. -/
theorem serving_sendToDispatchers {client : Nat} {d : Int} (hs : Shape tcp unix s)
    (hd : 0 ≤ d) (hfree : ∀ p, s.heap p ≠ none → s.descriptorOf p ≠ d)
    (h : Serving client d s w) :
    Sat (family unix) anyReply OneDispatcher
      (Program.forEach s.socketsList.sockets (sendToDispatcher s.next))
      (fun s' w' _ =>
        (∃ content, s' = { s.alloc (connection d hd .SSL) with sendCmptr := content }) ∧
          Serving client d (s.alloc (connection d hd .SSL)) w')
      (s.alloc (connection d hd .SSL)) w := by
  let object := s.alloc (connection d hd .SSL)
  have hobject : Serving client d object w := by
    refine ⟨h.staffed.alloc hfree ?_ ?_, h.table, h.last⟩
    · change w.table d ≠ none
      rw [h.table]
      simp
    · intro hdispatcher
      simp [connection, Socket.isDispatcher] at hdispatcher
  apply sat_sendToDispatchers (s := object) fun _ w => Serving client d object w
  · intro p hp
    have hlive := hs.live p (Or.inl hp)
    have hne : p ≠ s.next := Nat.ne_of_lt (hs.lt_next hlive)
    simpa [object, hne] using hlive
  · exact fun _ _ _ _ _ _ h => h
  · intro p ps content w socket _ hsocket _ h
    have hsim := similar_sendCmptr object content
    have hclient : ({ object with sendCmptr := content } : Memory).heap s.next =
        some (connection d hd .SSL) := by simp [object]
    apply (serving_sendSocket (s := { object with sendCmptr := content }) hsocket hclient hd
      (h.similar hsim)).mono
    rintro _ w _ ⟨⟨content', rfl⟩, h⟩
    exact ⟨⟨content', rfl⟩, h.similar hsim.symm⟩
  · exact hobject

/-- An accepted client goes to one dispatcher at most, and is closed again. -/
theorem supervised_processClientConnection (hne : tcp ≠ unix) (h : Supervised tcp unix s w) :
    Sat (family unix) anyReply OneDispatcher (processClientConnection tcpListenerSocket)
      (fun s' w' _ => Supervised tcp unix s' w' ∧
        s'.outputSocketsList = s.outputSocketsList) s w := by
  apply sat_processClientConnection h.shape
  apply sat_ask_keeps (fun _ _ _ ha h => h.act ha) h.staffed fun _ h => h.oneDispatcher _
  intro w₁ newfd w₂ h₁ hreply _
  refine ⟨fun hneg => ?_, fun hd => ?_⟩
  · simp only [family, if_pos hneg, Option.some.injEq] at hreply
    exact hreply ▸ ⟨⟨h.shape, h₁⟩, rfl⟩
  · simp only [family, if_neg (show ¬newfd.ret < 0 by omega), if_neg hne] at hreply
    split at hreply
    next => contradiction
    next hopen =>
      have htable : w₁.table newfd.ret = none := by simpa using hopen
      obtain rfl := Option.some.inj hreply
      have hfree := h₁.descriptorOf_ne htable
      have hwelcome : Serving w₁.clients newfd.ret s (w₁.welcome newfd.ret) := by
        refine ⟨h₁.update (h₁.toSound.welcome newfd.ret) rfl hfree, ?_, Nat.lt_succ_self _, ?_⟩
        · simp [Family.welcome]
        · intro number hmem
          exact absurd (h₁.earlier _ number hmem) (Nat.lt_irrefl _)
      have hquiet := serving_quiet unix w₁.clients newfd.ret s
      refine sat_ask_quiet hquiet (by trivial) (Memory.Similar.refl s) hwelcome ?_
      intro r w hserving
      refine ⟨fun _ => ⟨⟨h.shape, hserving.staffed⟩, rfl⟩, fun _ => ?_⟩
      apply (serving_sendToDispatchers h.shape hd hfree hserving).mono
      rintro s' w _ ⟨⟨content, rfl⟩, hserving⟩
      refine ⟨content, rfl, ?_⟩
      have hobject : ({ s.alloc (connection newfd.ret hd .SSL) with sendCmptr := content } :
          Memory).heap s.next = some (connection newfd.ret hd .SSL) := by simp
      have hclose := staffed_dispose unix
        (hserving.staffed.similar (similar_sendCmptr _ content)) hobject
      rw [h.shape.erase_alloc] at hclose
      apply hclose.mono
      rintro _ w _ ⟨rfl, hstaffed⟩
      exact ⟨⟨h.shape.attend content, hstaffed⟩, rfl⟩

/-- An accepted dispatcher is a child that no listed socket belongs to. -/
theorem supervised_processDispatcherConnection (h : Supervised tcp unix s w) :
    Sat (family unix) anyReply OneDispatcher
      (processDispatcherConnection unixListenerSocket) (fun s' w' _ =>
        Supervised tcp unix s' w' ∧ s'.outputSocketsList = s.outputSocketsList) s w := by
  apply sat_processDispatcherConnection h.shape Staffed
  · exact fun s => (staffed_quiet _ s).mono (fun _ hI => hI ▸ Memory.Similar.refl s)
      settled_of_greeting
  · apply sat_ask_keeps (fun _ _ _ ha h => h.act ha) h.staffed fun _ h => h.oneDispatcher _
    intro w₁ newfd w₂ h₁ hreply _
    refine ⟨fun hneg => ?_, fun hd => ?_⟩
    · simp only [family, if_pos hneg, Option.some.injEq] at hreply
      exact hreply ▸ ⟨⟨h.shape, h₁⟩, rfl⟩
    · simp only [family, if_neg (show ¬newfd.ret < 0 by omega), if_true] at hreply
      split at hreply
      next => contradiction
      next hopen =>
        have hfree := h₁.descriptorOf_ne (show w₁.table newfd.ret = none by simpa using hopen)
        split at hreply
        next => contradiction
        next number rest hbacklog =>
          obtain rfl := Option.some.inj hreply
          have hseat : Staffed s (w₁.seat number rest newfd.ret) :=
            h₁.update (h₁.toSound.seat hbacklog newfd.ret) rfl hfree
          have htable : (w₁.seat number rest newfd.ret).table newfd.ret =
              some (.dispatcher number) := by simp [Family.seat]
          have halloc : Staffed (s.alloc (connection newfd.ret hd .UNIX))
              (w₁.seat number rest newfd.ret) := by
            refine hseat.alloc hfree ?_ fun _ => ⟨number, htable⟩
            change (w₁.seat number rest newfd.ret).table newfd.ret ≠ none
            rw [htable]
            simp
          exact ⟨halloc.toSound, (h.shape.connect hd).nodup, halloc.distinct, halloc.opened,
            halloc.dispatcher⟩
  · exact fun d hd w _ _ hstaffed => ⟨⟨h.shape.connect hd, hstaffed⟩, rfl⟩
  · intro d hd w _ hfull hstaffed
    rw [h.shape.connect_of_full hd hfull] at hstaffed
    have hobject : (s.alloc (connection d hd .UNIX)).heap s.next =
        some (connection d hd .UNIX) := by simp
    have hclose := staffed_dispose unix hstaffed hobject
    have herase := h.shape.erase_alloc (connection d hd .UNIX) s.sendCmptr
    change (s.alloc (connection d hd .UNIX)).erase s.next = _ at herase
    rw [herase] at hclose
    apply hclose.mono
    rintro _ w _ ⟨rfl, hstaffed⟩
    exact ⟨⟨h.shape.attend _, hstaffed⟩, rfl⟩

/-- A new child may be forked while none is left. -/
theorem staffed_create_dispatcher {unix : Int} (h : Staffed s w) (hnone : w.unreaped = []) :
    Sat (family unix) anyReply OneDispatcher create_dispatcher
      (fun s' w' _ => s' = s ∧ Staffed s w') s w := by
  have hact : ∀ v a v', (family unix).act v a = some v' →
      Staffed s v ∧ v.unreaped = [] → Staffed s v' ∧ v'.unreaped = [] := by
    rintro v a v' ha ⟨hv, hnone⟩
    refine ⟨hv.act ha, ?_⟩
    have hnumbers := (act_spec ha).2.2.2.2
    rw [hnone] at hnumbers
    exact List.map_eq_nil_iff.mp hnumbers
  apply sat_create_dispatcher
  apply sat_ask_keeps hact ⟨h, hnone⟩ fun _ h => h.1.oneDispatcher _
  intro w₁ r w₂ h₁ hreply _
  by_cases hle : r.ret ≤ 0
  · simp only [family, if_pos hle, Option.some.injEq] at hreply
    obtain rfl := hreply
    refine ⟨fun _ => ⟨rfl, h₁.1⟩, fun hpos => absurd hpos (by omega), fun _ => ?_⟩
    -- the child has its own copy of everything, and either becomes another program or dies
    refine sat_ask_quiet (staffed_quiet _ s) (by trivial) (Memory.Similar.refl s) h₁.1 ?_
    intro _ w₃ h₃ w₄ hacts
    have h₄ : Staffed s w₄ := hacts.keeps (fun _ _ _ ha h => h.act ha) h₃
    exact h₄.oneDispatcher _
  · simp only [family, if_neg hle] at hreply
    split at hreply
    next => contradiction
    next =>
      obtain rfl := Option.some.inj hreply
      have hspawn : Staffed s (w₁.spawn r.ret) :=
        h₁.1.world (h₁.1.toSound.spawn h₁.2 r.ret) rfl
      exact ⟨fun _ => ⟨rfl, hspawn⟩, fun _ => ⟨rfl, hspawn⟩, fun hzero => absurd hzero (by omega)⟩

/-- What {lit}`waitpid` leaves. -/
theorem staffed_waitpid {unix : Int} (h : Staffed s w) :
    Sat (family unix) anyReply OneDispatcher (Program.ask .waitpid) (fun s' w' pid =>
      s' = s ∧ Staffed s w' ∧ (0 < pid.ret → w'.unreaped = [])) s w := by
  apply sat_ask_keeps (fun _ _ _ ha h => h.act ha) h fun _ h => h.oneDispatcher _
  intro w₁ r w₂ h₁ hreply _
  by_cases hle : r.ret ≤ 0
  · simp only [family, if_pos hle, Option.some.injEq] at hreply
    exact hreply ▸ ⟨rfl, h₁, fun hpos => absurd hpos (by omega)⟩
  · simp only [family, if_neg hle] at hreply
    split at hreply
    next hended =>
      obtain rfl := Option.some.inj hreply
      rcases hended with ⟨child, hchild, hpid, _⟩
      exact ⟨rfl, h₁.world (h₁.toSound.reap r.ret) rfl,
        fun _ => h₁.toSound.reap_unreaped ⟨child, hchild, hpid⟩⟩
    next => contradiction

/-- A child is forked only when none is left. -/
theorem staffed_restartDispatcher {unix : Int} (h : Staffed s w) :
    Sat (family unix) anyReply OneDispatcher restartDispatcher
      (fun s' w' _ => s' = s ∧ Staffed s w') s w := by
  apply sat_restartDispatcher
  apply (staffed_waitpid h).mono
  rintro _ w pid ⟨rfl, hstaffed, hnone⟩
  exact ⟨fun _ => ⟨rfl, hstaffed⟩, fun hpos => staffed_create_dispatcher hstaffed (hnone hpos)⟩

end Steps

/-! ## Whole runs -/

/-- What is open when the listener starts. -/
def initialFamily (opened : List Int) : Family where
  forks := 0
  unreaped := []
  connected := []
  backlog := []
  table d := if d ∈ opened then some .initial else none
  clients := 0
  handed := []

/-- The listener starts with two objects, whose descriptors differ. -/
theorem staffed_started {tcp unix : Nat} (hne : tcp ≠ unix) (appCfg : ApplicationConfig)
    (others : List Int) :
    Staffed (started tcp unix appCfg) (initialFamily (tcp :: unix :: others)) := by
  have hlistener : ∀ p, (started tcp unix appCfg).heap p ≠ none →
      (p = tcpListenerSocket ∧ (started tcp unix appCfg).descriptorOf p = tcp) ∨
      (p = unixListenerSocket ∧ (started tcp unix appCfg).descriptorOf p = unix) := by
    intro p hp
    by_cases htcp : p = tcpListenerSocket
    · exact Or.inl ⟨htcp, by simp [htcp, started, Memory.descriptorOf]⟩
    · by_cases hunix : p = unixListenerSocket
      · have hother : unixListenerSocket ≠ tcpListenerSocket := by decide
        exact Or.inr ⟨hunix, by simp [hunix, started, Memory.descriptorOf, hother]⟩
      · simp [started, htcp, hunix] at hp
  have htable : ∀ d number, (initialFamily (tcp :: unix :: others)).table d ≠
      some (.dispatcher number) := by
    intro d number
    simp only [initialFamily]
    split <;> simp
  refine
    { single := Nat.zero_le 1
      waiting := List.nodup_nil
      connected := fun number hmem => absurd hmem List.not_mem_nil
      seated := fun d number hd => absurd hd (htable d number)
      different := fun d _ number hd _ => absurd hd (htable d number)
      once := fun client number _ hmem _ => absurd hmem List.not_mem_nil
      earlier := fun client number hmem => absurd hmem List.not_mem_nil
      nodup := List.nodup_nil
      distinct := ?_
      opened := ?_
      dispatcher := ?_ }
  · intro p q hp hq heq
    rcases hlistener p hp with ⟨rfl, hp⟩ | ⟨rfl, hp⟩ <;>
      rcases hlistener q hq with ⟨rfl, hq⟩ | ⟨rfl, hq⟩
    · rfl
    · exact absurd (Int.ofNat_inj.mp (hp.symm.trans (heq.trans hq))) hne
    · exact absurd (Int.ofNat_inj.mp (hq.symm.trans (heq.symm.trans hp))) hne
    · rfl
  · intro p hp
    rcases hlistener p hp with ⟨_, hp⟩ | ⟨_, hp⟩ <;> simp [hp, initialFamily]
  · intro p socket hsocket hdispatcher
    have hconnection := ((shape_listening tcp unix appCfg).isDispatcher_iff hsocket).mp hdispatcher
    simp [started, hconnection.1, hconnection.2] at hsocket

/-- In every run at most one child is unreaped, the listed dispatchers are different
children, and no client is sent to two dispatchers that run. -/
theorem one_dispatcher (tcp unix iterations : Nat) (hne : tcp ≠ unix)
    (appCfg : ApplicationConfig) (others : List Int) :
    Safe (family unix) anyReply OneDispatcher
      ⟨started tcp unix appCfg, initialFamily (tcp :: unix :: others), main iterations⟩ := by
  apply Sat.safe
  have hdescriptors : (tcp : Int) ≠ unix := by exact_mod_cast hne
  apply sat_main_invariant (Supervised tcp unix)
  · exact fun s w h => h.shape
  · exact fun s =>
      { guarantee := fun s' w c hsim _ h => (h.staffed.similar hsim).oneDispatcher c
        reply := fun _ _ c _ _ _ hc hreply _ h => settled_reply (settled_of_calm c hc) hreply ▸ h
        act := fun _ _ _ ha h => ⟨h.shape, h.staffed.act ha⟩ }
  · exact fun s s' w hsim h => ⟨h.shape.similar hsim, h.staffed.similar hsim⟩
  · intro s w revents hempty h
    exact ⟨h.shape.polled hempty revents,
      (h.staffed.lists h.staffed.nodup).similar (s.similar_polled revents)⟩
  · apply (staffed_create_dispatcher (staffed_started hne appCfg others) rfl).mono
    rintro _ w _ ⟨rfl, hstaffed⟩
    refine ⟨rfl, ?_⟩
    have hfirst : Staffed { started tcp unix appCfg with
        socketsList := ⟨[tcpListenerSocket], MAX_SOCKETS, by decide⟩ } w :=
      hstaffed.lists (List.nodup_singleton _)
    refine sat_note_quiet (staffed_quiet _ _) (by trivial) (Memory.Similar.refl _) hfirst ?_
    intro w hstaffed
    have hboth : Staffed (listening tcp unix appCfg) w :=
      hstaffed.lists (shape_listening tcp unix appCfg).nodup
    refine sat_note_quiet (staffed_quiet _ _) (by trivial) (Memory.Similar.refl _) hboth ?_
    exact fun w hstaffed => ⟨shape_listening tcp unix appCfg, hstaffed⟩
  · exact fun s w h => supervised_prepare h
  · exact fun p s w h => supervised_delSocket h p
  · exact fun s w h => supervised_processClientConnection hdescriptors h
  · exact fun s w h => supervised_processDispatcherConnection h
  · intro s w h
    apply (staffed_restartDispatcher h.staffed).mono
    rintro _ w _ ⟨rfl, hstaffed⟩
    exact ⟨h.shape, hstaffed⟩
  · exact fun s w h => (staffed_waitpid h.staffed).mono fun _ _ _ _ => trivial

/-- The theorem for the descriptors that a listener usually gets. -/
theorem one_dispatcher_of_three_four : 3 ≠ 4 ∧
    Safe (family 4) anyReply OneDispatcher
      ⟨started 3 4 {}, initialFamily [3, 4], main 10⟩ :=
  ⟨by decide, one_dispatcher 3 4 10 (by decide) {} []⟩

end Mylsnr

end SocketDispatcher
