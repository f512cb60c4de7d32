import SocketDispatcher.Mydisp.Rules

/-!
# Greetings

Whether a client that has not been greeted is polled for writing, in surroundings
that give every reply.  The request is made once, when the client is received;
{lit}`pollSockets` takes it back before it knows the outcome of the poll, and the
main loop renews only the request for reading.

Main results:

- Theorem {lit}`greets_of_reported`: as long as every poll reports every waiting
  client, and a client that is not answered is dropped and removed, waiting clients
  are polled for writing at every poll.
- Theorem {lit}`timeout_loses_greeting`: one poll that times out takes the request
  back for good.
-/

namespace SocketDispatcher

open Interaction

namespace Mydisp

/-- The client has not been greeted yet. -/
def Hello (m : Memory) (p : Ptr) : Prop :=
  ∃ socket, m.heap p = some socket ∧ socket.clientStatus = .HELLO

/-- No record is kept. -/
def recordNothing (_ : Unit) : Call → Reply → Unit :=
  fun _ _ => ()

/-- Every waiting client is polled for writing. -/
def Greets (m : Memory) (_ : Unit) : Call → Prop
  | .poll pollInfo _ =>
      List.Forall₂ (fun p entry => entry.fd = m.descriptorOf p ∧
        (Hello m p → hasBit entry.events POLLOUT = true)) m.socketsList.sockets pollInfo
  | _ => True

/-- The returned events make {lit}`processClient` answer or drop a client. -/
def answerable (revents : Events) : Bool :=
  hasBit revents POLLOUT || hasBit revents POLLIN || dropBits revents

/-- The write that is to provoke an error. -/
def probe : List Byte := ascii "EXIT\n"

/-- Every poll fails for good or reports every waiting client; a waiting client
that has closed its side and cannot be answered fails the probe; and a waiting
client is dropped only when it can be removed. -/
def Reported (m : Memory) (_ : Unit) : Call → Reply → Prop
  | .poll .., r =>
      ∀ p ∈ m.socketsList.sockets, Hello m p →
        (r.ret = -1 ∧ r.errno ≠ EINTR) ∨
        (r.ret ≠ -1 ∧ r.ret ≠ 0 ∧
          answerable (reventsFor m.socketsList.sockets r.revents p) = true)
  | .bioWrite p message, r =>
      message = probe → ∀ socket, m.heap p = some socket → socket.clientStatus = .HELLO →
        socket.isWriteAvailable = false → r.ret < 0
  | .note (.clientDropped p), _ =>
      Hello m p → m.socketsList.sockets.length < m.socketsList.maxSize ∧
        firstWithDescriptor m p = some p
  | _, _ => True

/-! ## The invariant -/

/-- Every waiting client has asked to be polled for writing, or is still to be
handled in this cycle and will be answered or dropped. -/
structure Greetable (descriptor : Int) (ps : List Ptr) (s : Memory) : Prop where
  shape : Shape descriptor s
  collected : ∀ p ∈ ps, p ∈ s.outputSocketsList.sockets
  nodup : ps.Nodup
  unix : ¬Hello s unixSocket
  waiting : ∀ p ∈ s.socketsList.sockets, ∀ socket, s.heap p = some socket →
    socket.clientStatus = .HELLO → hasBit socket.events POLLOUT = true ∨ p ∈ ps
  reported : ∀ p ∈ ps, ∀ socket, s.heap p = some socket →
    socket.clientStatus = .HELLO → answerable socket.revents = true

section Steps

variable {descriptor : Int} {s s' s'' : Memory} {ps : List Ptr} {p : Ptr}

theorem Greetable.globals (h : Greetable descriptor ps s) (appCfg : ApplicationConfig)
    (ssl : SslGlobals) (cmptr : Option Int) :
    Greetable descriptor ps { s with appCfg := appCfg, ssl := ssl, cmptr := cmptr } :=
  { h with shape := h.shape.globals appCfg ssl cmptr }

/-- A new client has asked to be polled for writing. -/
theorem Greetable.join (h : Greetable descriptor ps s) (tcp : Socket) :
    Greetable descriptor ps (Mydisp.join s tcp) where
  shape := h.shape.join
  collected := h.collected
  nodup := h.nodup
  unix := by
    have hne : unixSocket ≠ s.next + 1 := Nat.ne_of_lt (Nat.lt_succ_of_lt h.shape.unix_lt)
    simpa [Hello, Mydisp.join, hne] using h.unix
  waiting p hp socket hsocket hhello := by
    by_cases hnew : p = s.next + 1
    · left
      simp only [Mydisp.join, hnew, Function.update_self, Option.some.injEq] at hsocket
      rw [← hsocket]
      exact hasBit_or_self (by decide) _
    · simp only [Mydisp.join, ne_eq, hnew, not_false_eq_true, Function.update_of_ne] at hsocket
      rcases SocketsList.mem_putSocket hp with hp | hp
      · exact h.waiting p hp socket hsocket hhello
      · exact absurd hp hnew
  reported p hp socket hsocket hhello := by
    have hne : p ≠ s.next + 1 := by
      rintro rfl
      exact h.shape.live _ (Or.inr (Or.inl (h.collected _ hp))) (h.shape.fresh _ (Nat.le_succ _))
    simp only [Mydisp.join, ne_eq, hne, not_false_eq_true, Function.update_of_ne] at hsocket
    exact h.reported p hp socket hsocket hhello

theorem Greetable.refuse (h : Greetable descriptor ps s) :
    Greetable descriptor ps (Mydisp.refuse s) :=
  { h with shape := h.shape.refuse }

/-- A client that is no longer waiting has been handled. -/
theorem Greetable.handled (h : Greetable descriptor (p :: ps) s) (htouches : Touches p s s')
    (hp : p ≠ unixSocket) (hgreeted : ¬Hello s' p) : Greetable descriptor ps s' where
  shape := h.shape.similar htouches.similar
  collected q hq := by
    rw [htouches.similar.outputSocketsList]
    exact h.collected q (List.mem_cons_of_mem p hq)
  nodup := (List.nodup_cons.mp h.nodup).2
  unix := by
    rw [Hello, htouches.others unixSocket (Ne.symm hp)]
    exact h.unix
  waiting q hq socket hsocket hhello := by
    have hqp : q ≠ p := by
      rintro rfl
      exact hgreeted ⟨socket, hsocket, hhello⟩
    rw [htouches.similar.socketsList] at hq
    rw [htouches.others q hqp] at hsocket
    rcases h.waiting q hq socket hsocket hhello with hasked | hmem
    · exact Or.inl hasked
    · exact Or.inr ((List.mem_cons.mp hmem).resolve_left hqp)
  reported q hq socket hsocket hhello := by
    have hqp : q ≠ p := fun heq => (List.nodup_cons.mp h.nodup).1 (heq ▸ hq)
    rw [htouches.others q hqp] at hsocket
    exact h.reported q (List.mem_cons_of_mem p hq) socket hsocket hhello

/-- A dropped client that was still waiting is removed. -/
theorem Greetable.dropped (h : Greetable descriptor (p :: ps) s) (htouches : Touches p s s')
    (hp : p ≠ unixSocket)
    (hremovable : Hello s' p → s'.socketsList.sockets.length < s'.socketsList.maxSize ∧
      firstWithDescriptor s' p = some p)
    (hpruned : Memory.Pruned { s' with socketsList :=
      (SocketsList.delSocket s'.descriptorOf s'.socketsList (s'.descriptorOf p)).1 } s'') :
    Greetable descriptor ps s'' := by
  have hshape' := h.shape.similar htouches.similar
  exact
    { shape := (hshape'.delSocket _).pruned hpruned
      collected := by
        intro q hq
        rw [hpruned.outputSocketsList]
        change q ∈ s'.outputSocketsList.sockets
        rw [htouches.similar.outputSocketsList]
        exact h.collected q (List.mem_cons_of_mem p hq)
      nodup := (List.nodup_cons.mp h.nodup).2
      unix := by
        rintro ⟨socket, hsocket, hhello⟩
        have hsocket' := hpruned.object hsocket
        apply h.unix
        refine ⟨socket, ?_, hhello⟩
        rw [← htouches.others unixSocket (Ne.symm hp)]
        exact hsocket'
      waiting := by
        intro q hq socket hsocket hhello
        rw [hpruned.socketsList] at hq
        have hsocket' : s'.heap q = some socket := hpruned.object hsocket
        have hlisted := (SocketsList.delSocket_sublist _ _ _).subset hq
        have hqp : q ≠ p := by
          rintro rfl
          obtain ⟨hroom, hfirst⟩ := hremovable ⟨socket, hsocket', hhello⟩
          have herase := (SocketsList.delSocket_first hroom hfirst).2
          change q ∈ (SocketsList.delSocket _ _ _).1.sockets at hq
          rw [herase] at hq
          exact hshape'.nodup.not_mem_erase hq
        rw [htouches.similar.socketsList] at hlisted
        rw [htouches.others q hqp] at hsocket'
        rcases h.waiting q hlisted socket hsocket' hhello with hasked | hmem
        · exact Or.inl hasked
        · exact Or.inr ((List.mem_cons.mp hmem).resolve_left hqp)
      reported := by
        intro q hq socket hsocket hhello
        have hqp : q ≠ p := fun heq => (List.nodup_cons.mp h.nodup).1 (heq ▸ hq)
        have hsocket' : s'.heap q = some socket := hpruned.object hsocket
        rw [htouches.others q hqp] at hsocket'
        exact h.reported q (List.mem_cons_of_mem p hq) socket hsocket' hhello }

/-- The first loop of a poll changes no status. -/
theorem hello_reset (s : Memory) (p : Ptr) : Hello s.reset p ↔ Hello s p := by
  unfold Hello
  rw [Memory.reset_heap]
  cases s.heap p <;> split <;> simp [Socket.setEvents, Socket.setRevents]

/-- The second loop of a poll changes no status. -/
theorem hello_polled (hnodup : s.socketsList.sockets.Nodup) (revents : List Events)
    (p : Ptr) : Hello (s.polled revents) p ↔ Hello s p := by
  rw [← hello_reset s p]
  unfold Hello
  rw [Memory.polled_heap hnodup]
  cases s.reset.heap p <;> split <;> simp [Socket.setRevents]

/-- At the poll, waiting clients are polled for writing. -/
theorem greets_poll (h : Greetable descriptor [] s) {w : Unit} {timeout : Int} :
    Greets s.reset w (.poll (s.pollInfo s.socketsList.sockets) timeout) := by
  change List.Forall₂ _ s.reset.socketsList.sockets _
  rw [Memory.pollInfo_eq_map h.shape.nodup, Memory.reset_socketsList,
    List.forall₂_map_right_iff, List.forall₂_same]
  intro p hp
  refine ⟨(s.similar_reset.descriptorOf p).symm, fun hhello => ?_⟩
  rcases (hello_reset s p).mp hhello with ⟨socket, hsocket, hhello⟩
  rcases h.waiting p hp socket hsocket hhello with hasked | hmem
  · simpa [Memory.pollFd, hsocket] using hasked
  · cases hmem

/-- A poll that reports every waiting client leaves them to be handled. -/
theorem Greetable.polled (h : Greetable descriptor [] s)
    (hempty : s.outputSocketsList.sockets = []) {revents : List Events}
    (hreport : ∀ p ∈ s.socketsList.sockets, Hello s p →
      answerable (reventsFor s.socketsList.sockets revents p) = true) :
    Greetable descriptor (s.polled revents).outputSocketsList.sockets (s.polled revents) := by
  have hshape := h.shape.polled hempty revents
  have hreported : ∀ p ∈ s.socketsList.sockets, ∀ socket,
      (s.polled revents).heap p = some socket → socket.clientStatus = .HELLO →
      answerable (reventsFor s.socketsList.sockets revents p) = true := by
    intro p hp socket hsocket hhello
    exact hreport p hp ((hello_polled h.shape.nodup revents p).mp ⟨socket, hsocket, hhello⟩)
  have hnonzero : ∀ revents, answerable revents = true → revents ≠ NO_EVENTS := by
    rintro _ hanswerable rfl
    exact absurd hanswerable (by decide)
  exact
    { shape := hshape
      collected := fun p hp => hp
      nodup := hshape.outputNodup
      unix := fun hunix => h.unix ((hello_polled h.shape.nodup revents unixSocket).mp hunix)
      waiting := by
        intro p hp socket hsocket hhello
        rw [Memory.polled_socketsList] at hp
        right
        rw [h.shape.polled_output hempty revents, List.mem_filter]
        exact ⟨hp, by simpa using hnonzero _ (hreported p hp socket hsocket hhello)⟩
      reported := by
        intro p hp socket hsocket hhello
        have hlisted := h.shape.collected hempty revents p hp
        have hanswerable := hreported p hlisted socket hsocket hhello
        rw [Memory.polled_heap h.shape.nodup, if_pos (hnonzero _ hanswerable)] at hsocket
        obtain ⟨socket₀, _, rfl⟩ := Option.map_eq_some_iff.mp hsocket
        exact hanswerable }

/-- The part of a cycle before the poll. -/
theorem Greetable.prepared (h : Greetable descriptor [] s) (hprepared : Prepared s s') :
    Greetable descriptor [] s' where
  shape := h.shape.prepared hprepared
  collected _ hp := nomatch hp
  nodup := List.nodup_nil
  unix := by
    rintro ⟨socket', hsocket', hhello⟩
    obtain ⟨socket, events, hsocket, rfl⟩ := hprepared.object hsocket'
    exact h.unix ⟨socket, hsocket, hhello⟩
  waiting p hp socket' hsocket' hhello := by
    obtain ⟨socket, events, hsocket, rfl⟩ := hprepared.object hsocket'
    rw [hprepared.socketsList] at hp
    rcases h.waiting p hp socket hsocket hhello with hasked | hmem
    · exact Or.inl (hasBit_or_of_hasBit hasked events)
    · cases hmem
  reported _ hp := nomatch hp

end Steps

/-! ## The functions of the main loop -/

/-- Every call but a poll. -/
def Unrestricted (c : Call) : Prop :=
  ∀ pollInfo timeout, c ≠ .poll pollInfo timeout

theorem unrestricted_quiet (I : Memory → Prop) :
    Quiet (observer recordNothing) Reported Greets I Unrestricted (fun _ => True) where
  guarantee s w c _ hc _ := by
    cases c with
    | poll pollInfo timeout => exact absurd rfl (hc pollInfo timeout)
    | _ => trivial
  reply _ _ _ _ _ _ _ _ _ _ := trivial
  act _ a _ _ _ := nomatch a

section Cycle

variable {descriptor : Int} {fuel : Nat} {s s' : Memory} {w : Unit} {ps : List Ptr} {p : Ptr}

/-- What a conversation leaves behind: a client that is kept is no longer waiting. -/
def Answered (p : Ptr) (s : Memory) (s' : Memory) (_ : Unit) (ok : Bool) : Prop :=
  Touches p s s' ∧ (ok = true → ¬Hello s' p)

theorem answered_of_status {socket : Socket} {w : Unit} {ok : Bool} (h : Touches p s s')
    (hp : s'.heap p = some socket) (hstatus : socket.clientStatus ≠ .HELLO) :
    Answered p s s' w ok := by
  refine ⟨h, ?_⟩
  rintro _ ⟨socket', hsocket', hhello⟩
  rw [hp, Option.some.injEq] at hsocket'
  exact hstatus (hsocket' ▸ hhello)

/-- Writing to a client changes no memory. -/
theorem greet_write {message : List Byte} {Q : Memory → Unit → Int → Prop} {socket : Socket}
    (hp : s.heap p = some socket) (hssl : socket.isSslSocket = true)
    (hQ : ∀ w bytes, Q s w bytes) :
    Sat (observer recordNothing) Reported Greets (write p message) Q s w := by
  rw [write, sat_bind, sat_deref_of_some hp, sat_ite, if_pos hssl, sat_bind]
  exact sat_ask_quiet (unrestricted_quiet fun _ => True) (by intro _ _; simp) trivial trivial
    fun r w _ => hQ w r.ret

/-- A client that can be written to, or is not waiting, is not waiting afterwards. -/
theorem greet_answerClient {socket : Socket} (h : Touches p s s')
    (hp : s'.heap p = some socket) (hssl : socket.isSslSocket = true)
    (hready : socket.clientStatus = .HELLO → socket.isWriteAvailable = true) :
    Sat (observer recordNothing) Reported Greets (answerClient p) (Answered p s) s' w := by
  rw [answerClient, sat_bind, sat_deref_of_some hp, sat_ite]
  split
  next =>
    cases hstatus : socket.clientStatus with
    | HELLO =>
        rw [sat_bind]
        refine greet_write hp hssl fun w bytes => ?_
        rw [sat_bind, sat_modifySocket]
        have hheap : (s'.modifySocket p (Socket.setClientStatus .ECHO)).heap p =
            some (socket.setClientStatus .ECHO) := by
          simp [hp]
        exact answered_of_status (h.modifySocket .echo) hheap (by simp [Socket.setClientStatus])
    | ECHO =>
        rw [sat_bind]
        refine greet_write hp hssl fun w bytes => ?_
        exact answered_of_status h hp (by simp [hstatus])
    | BYE =>
        rw [sat_bind]
        refine greet_write hp hssl fun w bytes => ?_
        exact answered_of_status h hp (by simp [hstatus])
    | NONE => exact answered_of_status h hp (by simp [hstatus])
  next hwritable => exact answered_of_status h hp fun hhello => hwritable (hready hhello)

/-- A conversation with a client whose events were reported answers it or drops
it. -/
theorem greet_processClient {socket : Socket} (hp : s.heap p = some socket)
    (hssl : socket.isSslSocket = true)
    (hanswerable : socket.clientStatus = .HELLO → answerable socket.revents = true) :
    Sat (observer recordNothing) Reported Greets (processClient p) (Answered p s) s w := by
  have hdropped : ∀ s' w, Touches p s s' → Answered p s s' w false :=
    fun s' w h => ⟨h, fun hfalse => absurd hfalse Bool.false_ne_true⟩
  have hquiet := unrestricted_quiet fun _ => True
  rw [processClient, sat_bind, sat_deref_of_some hp, sat_ite]
  split
  next => exact hdropped s w (Touches.refl p s)
  next hisDropped =>
    rw [sat_ite]
    split
    next =>
      rw [sat_bind]
      refine sat_ask_quiet hquiet (by intro _ _; simp) trivial trivial fun buffer w _ => ?_
      rw [sat_bind, read, sat_bind, sat_deref_of_some hp, sat_ite, if_pos hssl, sat_bind]
      refine sat_ask_quiet hquiet (by intro _ _; simp) trivial trivial fun r w _ => ?_
      rw [sat_pure, sat_ite]
      split
      next =>
        rw [sat_bind, write, sat_bind, sat_deref_of_some hp, sat_ite, if_pos hssl, sat_bind,
          sat_ask_closed]
        refine ⟨trivial, ?_⟩
        intro probed w _ hreported
        rw [sat_pure, sat_ite]
        split
        next => exact hdropped s w (Touches.refl p s)
        next hwritten =>
          apply greet_answerClient (Touches.refl p s) hp hssl
          intro hhello
          by_contra hwritable
          exact hwritten (hreported rfl socket hp hhello (by simpa using hwritable))
      next =>
        rw [sat_ite]
        split
        next =>
          have hanswer : ∀ s' socket', Touches p s s' → s'.heap p = some socket' →
              socket'.isSslSocket = true → Sat (observer recordNothing) Reported Greets
                (do
                  modifySocket p (Socket.setRevents POLLOUT)
                  answerClient p) (Answered p s) s' w := by
            intro s' socket' h hp' hssl'
            rw [sat_bind, sat_modifySocket]
            have hheap : (s'.modifySocket p (Socket.setRevents POLLOUT)).heap p =
                some (socket'.setRevents POLLOUT) := by
              simp [hp']
            have hwritable : (socket'.setRevents POLLOUT).isWriteAvailable = true :=
              show hasBit POLLOUT POLLOUT = true by decide
            exact greet_answerClient (h.modifySocket .answer) hheap hssl' fun _ => hwritable
          rw [sat_bind, sat_when]
          split
          next =>
            rw [sat_modifySocket]
            exact hanswer _ (socket.setClientStatus .BYE) ((Touches.refl p s).modifySocket .bye)
              (by simp [hp]) hssl
          next => exact hanswer s socket (Touches.refl p s) hp hssl
        next => exact hdropped s w (Touches.refl p s)
    next hreadable =>
      apply greet_answerClient (Touches.refl p s) hp hssl
      intro hhello
      have h := hanswerable hhello
      simp only [answerable, Bool.or_eq_true] at h
      rcases h with (h | h) | h
      · exact h
      · exact absurd h hreadable
      · exact absurd h hisDropped

/-- One entry of the output list. -/
theorem greet_processReEvents (h : Greetable descriptor (p :: ps) s) :
    Sat (observer recordNothing) Reported Greets (processReEvents unixSocket fuel p)
      (fun s _ failed => if failed then True else Greetable descriptor ps s) s w := by
  have hcollected := h.collected p (List.mem_cons_self ..)
  have hlive : s.heap p ≠ none := h.shape.live p (Or.inr (Or.inl hcollected))
  have hquiet := unrestricted_quiet fun _ => True
  apply sat_processReEvents h.shape hlive
  · rintro rfl
    have htail : Greetable descriptor ps s :=
      { h with
        collected := fun q hq => h.collected q (List.mem_cons_of_mem _ hq)
        nodup := (List.nodup_cons.mp h.nodup).2
        waiting := by
          intro q hq socket hsocket hhello
          rcases h.waiting q hq socket hsocket hhello with hasked | hmem
          · exact Or.inl hasked
          · rcases List.mem_cons.mp hmem with rfl | hmem
            · exact absurd ⟨socket, hsocket, hhello⟩ h.unix
            · exact Or.inr hmem
        reported := fun q hq => h.reported q (List.mem_cons_of_mem _ hq) }
    have hprocess : Sat (observer recordNothing) Reported Greets
        (dispatcherProcess unixSocket fuel) (fun s _ _ => Greetable descriptor ps s) s w := by
      have hbackground : Quiet (observer recordNothing) Reported Greets
          (Greetable descriptor ps) (Background descriptor) (fun _ => True) := by
        apply (unrestricted_quiet _).mono fun _ hI => hI
        rintro c hc pollInfo timeout rfl
        exact hc
      have haccepting : Quiet (observer recordNothing) Reported Greets (fun _ => True)
          (Accepting 0) (fun _ => True) := by
        apply hquiet.mono fun _ hI => hI
        rintro c hc pollInfo timeout rfl
        rcases hc with hc | hc <;> exact hc
      apply sat_dispatcherProcess_quiet hbackground haccepting
      · exact fun s h => h.shape
      · exact fun s _ => Nat.zero_le _
      · exact fun s appCfg ssl cmptr h => h.globals appCfg ssl cmptr
      · exact fun s w tcp h _ _ => h.join tcp
      · exact fun s w h _ => h.refuse
      · exact fun s w ok h _ => h
      · exact htail
      · trivial
    apply hprocess.mono
    intro s w ok h
    refine sat_note_quiet hquiet (by intro _ _; simp) trivial trivial fun w _ => ?_
    cases ok with
    | true => exact h
    | false => trivial
  · intro hp
    rcases Option.ne_none_iff_exists'.mp hlive with ⟨socket, hsocket⟩
    have hssl := h.shape.isSslSocket hp hsocket
    have hanswerable := h.reported p (List.mem_cons_self ..) socket hsocket
    apply (greet_processClient hsocket hssl hanswerable).mono
    rintro s' w ok ⟨htouches, hgreeted⟩
    cases ok with
    | true => exact h.handled htouches hp (hgreeted rfl)
    | false =>
        change Sat (observer recordNothing) Reported Greets (note (.clientDropped p)) _ s' w
        rw [sat_note, sat_ask_closed]
        refine ⟨trivial, ?_⟩
        intro r w _ hremovable
        apply (sat_delSocket_quiet hquiet (fun _ _ _ => by simp) rfl rfl ?_).mono
        · intro s'' w _ hpruned
          exact h.dropped htouches hp hremovable hpruned.1
        · exact sat_note_quiet hquiet (by intro _ _; simp) trivial trivial fun _ _ => ⟨rfl, trivial⟩

/-- The poll. -/
theorem greet_pollSockets (h : Greetable descriptor [] s)
    (hempty : s.outputSocketsList.sockets = []) :
    Sat (observer recordNothing) Reported Greets pollSockets (fun s _ errorType =>
      match errorType with
      | .NONE => Greetable descriptor s.outputSocketsList.sockets s
      | .ERROR => True
      | _ => Greetable descriptor [] s) s w := by
  have hshape := h.shape.similar s.similar_reset
  apply sat_pollSockets
  · intro _ _ _
    trivial
  · rw [sat_ask_closed]
    refine ⟨greets_poll h, ?_⟩
    intro r _ _ hreported
    have hquiet : (∀ p ∈ s.socketsList.sockets, ¬Hello s p) →
        Greetable descriptor [] s.reset := fun hnone =>
      { shape := hshape
        collected := fun _ hp => nomatch hp
        nodup := List.nodup_nil
        unix := fun hunix => h.unix ((hello_reset s unixSocket).mp hunix)
        waiting := fun p hp socket hsocket hhello => by
          rw [Memory.reset_socketsList] at hp
          exact absurd ((hello_reset s p).mp ⟨socket, hsocket, hhello⟩) (hnone p hp)
        reported := fun _ hp => nomatch hp }
    have hreport : ∀ p ∈ s.socketsList.sockets, Hello s p →
        (r.ret = -1 ∧ r.errno ≠ EINTR) ∨ (r.ret ≠ -1 ∧ r.ret ≠ 0 ∧
          answerable (reventsFor s.socketsList.sockets r.revents p) = true) := by
      intro p hp hhello
      have h := hreported p (by simpa using hp) ((hello_reset s p).mpr hhello)
      simpa using h
    refine ⟨fun hret herrno => hquiet ?_, fun _ _ => trivial, fun hret => hquiet ?_,
      fun hret hzero => ?_⟩
    · intro p hp hhello
      rcases hreport p hp hhello with ⟨_, h⟩ | ⟨h, _⟩
      · exact h herrno
      · exact h hret
    · intro p hp hhello
      rcases hreport p hp hhello with ⟨h, _⟩ | ⟨_, h, _⟩
      · omega
      · exact h hret
    · apply h.polled hempty
      intro p hp hhello
      rcases hreport p hp hhello with ⟨h, _⟩ | ⟨_, _, h⟩
      · exact absurd h hret
      · exact h

end Cycle

/-! ## The main loop -/

/-- The dispatcher enters its loop with nobody waiting. -/
theorem greetable_started (descriptor : Nat) :
    Greetable descriptor [] (started descriptor) where
  shape := shape_started descriptor
  collected _ hp := nomatch hp
  nodup := List.nodup_nil
  unix := by simp [Hello, started]
  waiting p hp socket hsocket hhello := by
    have hunix : p = unixSocket := by simpa [started] using hp
    subst hunix
    simp only [started, if_pos, Option.some.injEq] at hsocket
    rw [← hsocket] at hhello
    cases hhello
  reported _ hp := nomatch hp

/-- In every run whose polls report every waiting client, and in which a client that
cannot be answered is dropped and removed, every waiting client is polled for
writing at every poll. -/
theorem greets_of_reported (descriptor fuel cycles : Nat) :
    Safe (observer recordNothing) Reported Greets
      ⟨started descriptor, (), mainLoop unixSocket fuel cycles⟩ := by
  apply Sat.safe
  have hquiet := unrestricted_quiet fun _ => True
  apply sat_mainLoop (fun s _ => Greetable descriptor [] s)
    (fun s _ => Greetable descriptor [] s ∧ s.outputSocketsList.sockets = [])
    (fun s _ => Greetable descriptor [] s) (fun _ _ => True)
    (fun ps s _ => Greetable descriptor ps s)
  · intro s w h
    have hpreparing : Quiet (observer recordNothing) Reported Greets (fun _ => True) Preparing
        (fun _ => True) := by
      apply hquiet.mono fun _ hI => hI
      rintro c hc pollInfo timeout rfl
      exact hc
    apply (sat_prepare_quiet hpreparing trivial).mono
    intro s' _ _ hprepared
    exact ⟨h.prepared hprepared.1, hprepared.1.output⟩
  · intro s w h
    apply (greet_pollSockets h.1 h.2).mono
    intro s w errorType h
    cases errorType <;> exact h
  · intro p ps s w h
    exact greet_processReEvents h
  · exact fun s _ h => h
  · intro s w h
    exact sat_note_quiet hquiet (by intro _ _; simp) trivial trivial fun _ _ => h
  · intro s w _
    exact sat_note_quiet hquiet (by intro _ _; simp) trivial trivial fun _ _ => trivial
  · exact greetable_started descriptor

/-- After the configuration one client arrives, and the next poll times out.  At the poll
after that nobody waits for the client to become writable, and it has not been greeted. -/
theorem timeout_loses_greeting :
    ¬Safe (observer recordNothing) anyReply Greets
      ⟨started 3, (), mainLoop unixSocket 1 4⟩ :=
  not_safe_of_exec
    (fun s _ c =>
      match c with
      | .poll pollInfo _ => (s.socketsList.sockets.zip pollInfo).all fun (p, entry) =>
          (s.heap p).map Socket.clientStatus != some .HELLO || hasBit entry.events POLLOUT
      | _ => true)
    (by
      intro s w c hG
      split
      next pollInfo timeout =>
        rw [List.all_eq_true]
        rintro ⟨p, entry⟩ hmem
        have hentry := (List.forall₂_iff_zip.mp hG).2 hmem
        by_cases hhello : Hello s p
        · simp [hentry.2 hhello]
        · simpa [Hello] using Or.inl fun socket hsocket hstatus =>
            hhello ⟨socket, hsocket, hstatus⟩
      next => rfl)
    (configured true configuration ++ arrival true 4 ++
      [.inr {}, .inr { ret := 0 }, .inr {}, .inr {}])
    (by decide)

end Mydisp

end SocketDispatcher
