import SocketDispatcher.Mydisp.Rules
import SocketDispatcher.SocketsPoller.Outcome

/-!
# Replies

The order of the replies that a client is given.  The record of the surroundings is
the conversation with every client: who was greeted, who was answered in the present
cycle, and from whom the last call has read.  A cycle calls {lit}`processClient` at
most once for a client, so a client that is answered at most once a cycle is answered
at most once a call.

Main results:

- Theorem {lit}`hasBit_requested`: a socket is reported writable only if that was
  requested.
- Theorem {lit}`orderly_processClient`: what one conversation adds to the record.
- Theorem {lit}`disciplined`: in every run, a client is greeted at most once, echoes
  follow the greeting, and echoes and farewells follow bytes of the client.
-/

namespace SocketDispatcher

open Interaction

namespace Mydisp

/-! ## Messages -/

def helloMessage : List Byte := ascii "HELLO!!!!\n"

def echoMessage : List Byte := ascii "ECHOO!!!!\n"

def byeMessage : List Byte := ascii "BYE...\n"

/-- The three replies of {lit}`processClient`. -/
def IsReply (message : List Byte) : Prop :=
  message = helloMessage ∨ message = echoMessage ∨ message = byeMessage

instance (message : List Byte) : Decidable (IsReply message) :=
  inferInstanceAs (Decidable (_ ∨ _ ∨ _))

/-! ## Conversations -/

/-- What the clients were told, and who has just been heard. -/
structure Conversations where
  /-- The clients that were greeted. -/
  greeted : List Ptr := []
  /-- The clients that were given a reply in this cycle. -/
  answered : List Ptr := []
  /-- The client that the last call has read at least one byte from. -/
  justRead : Option Ptr := none

/-- A message was written to a client. -/
def Conversations.tell (w : Conversations) (p : Ptr) (message : List Byte) : Conversations where
  greeted := if message = helloMessage then p :: w.greeted else w.greeted
  answered := if IsReply message then p :: w.answered else w.answered
  justRead := none

/-- The conversations after a call. -/
def recordReplies (w : Conversations) : Call → Reply → Conversations
  | .bioRead p .., r => { w with justRead := if 1 ≤ r.ret then some p else none }
  | .bioWrite p message, _ => w.tell p message
  | .note .loopEnd, _ => { w with answered := [], justRead := none }
  | _, _ => { w with justRead := none }

/-- Nobody is greeted twice, echoes follow the greeting, echoes and farewells follow
bytes that have just been read from the same client, and nobody is given two replies
in one cycle.  Nothing is written past the BIO. -/
def Disciplined (_ : Memory) (w : Conversations) : Call → Prop
  | .bioWrite p message =>
      (message = helloMessage → p ∉ w.greeted) ∧
      (message = echoMessage → p ∈ w.greeted) ∧
      (message = echoMessage ∨ message = byeMessage → w.justRead = some p) ∧
      (IsReply message → p ∉ w.answered)
  | .write .. => False
  | _ => True

/-- {lit}`poll` reports only requested bits and the three bits that it may always
report. -/
def PollsRequested (_ : Memory) (_ : Conversations) : Call → Reply → Prop
  | .poll pollInfo _, r =>
      ∀ i (hi : i < pollInfo.length),
        reventsAt r i &&& ~~~(pollInfo[i].events ||| POLLERR ||| POLLHUP ||| POLLNVAL) =
          NO_EVENTS
  | _, _ => True

/-! ## Bits -/

theorem hasBit_POLLOUT (events : Events) : hasBit events POLLOUT = events[2] := by
  have hmask : POLLOUT = BitVec.twoPow 16 2 := rfl
  have hget : events[2] = events.getLsbD 2 := rfl
  unfold hasBit
  rw [hmask, BitVec.and_twoPow, hget]
  cases events.getLsbD 2 <;> rfl

/-- A request for reading is no request for writing. -/
theorem hasBit_pollForRead (socket : Socket) :
    hasBit socket.pollForRead.events POLLOUT = hasBit socket.events POLLOUT := by
  have hread : POLLIN[2] = false := rfl
  simp [hasBit_POLLOUT, Socket.pollForRead, hread]

/-- Among the requested bits and the errors, writability has to be requested. -/
theorem hasBit_requested {events revents : Events}
    (h : revents &&& ~~~(events ||| POLLERR ||| POLLHUP ||| POLLNVAL) = NO_EVENTS)
    (hrevents : hasBit revents POLLOUT = true) : hasBit events POLLOUT = true := by
  have herr : POLLERR[2] = false := rfl
  have hhup : POLLHUP[2] = false := rfl
  have hnval : POLLNVAL[2] = false := rfl
  rw [hasBit_POLLOUT] at hrevents ⊢
  have hbit := congrArg (fun v : Events => v[2]) h
  simpa [NO_EVENTS, hrevents, herr, hhup, hnval] using hbit

/-! ## The invariant -/

/-- The state of one client.  A request for writing is only pending for a client that
waits for its greeting and is not to be handled in this cycle; a client that is to be
handled and was reported writable waits for its greeting. -/
structure Turn (greeted : List Ptr) (todo : Prop) (p : Ptr) (socket : Socket) : Prop where
  asking : hasBit socket.events POLLOUT = true → socket.clientStatus = .HELLO ∧ ¬todo
  writable : todo → socket.isWriteAvailable = true → socket.clientStatus = .HELLO
  hello : socket.clientStatus = .HELLO → p ∉ greeted
  echo : socket.clientStatus = .ECHO → p ∈ greeted

/-- What holds while the given entries of the output list are still to be handled. -/
structure Orderly (descriptor : Int) (ps : List Ptr) (s : Memory) (w : Conversations) :
    Prop where
  shape : Shape descriptor s
  collected : ∀ p ∈ ps, p ∈ s.outputSocketsList.sockets
  nodup : ps.Nodup
  turn : ∀ p socket, s.heap p = some socket → Turn w.greeted (p ∈ ps) p socket
  old : ∀ p ∈ w.greeted, p < s.next
  unanswered : ∀ p ∈ ps, p ∉ w.answered

/-- Nobody has been given a reply in between. -/
structure Silence (w w' : Conversations) : Prop where
  greeted : w'.greeted = w.greeted
  answered : w'.answered = w.answered

theorem Silence.refl (w : Conversations) : Silence w w :=
  ⟨rfl, rfl⟩

/-- A client that is left alone may be left for later. -/
theorem Turn.mono {greeted greeted' : List Ptr} {todo todo' : Prop} {p : Ptr} {socket : Socket}
    (h : Turn greeted todo p socket) (htodo : todo' ↔ todo)
    (hgreeted : p ∈ greeted' ↔ p ∈ greeted) : Turn greeted' todo' p socket where
  asking hasked := ⟨(h.asking hasked).1, fun htodo' => (h.asking hasked).2 (htodo.mp htodo')⟩
  writable htodo' := h.writable (htodo.mp htodo')
  hello hhello hmem := h.hello hhello (hgreeted.mp hmem)
  echo hecho := hgreeted.mpr (h.echo hecho)

/-- A client that is not to be handled may be asked to read. -/
theorem Turn.pollForRead {greeted : List Ptr} {todo : Prop} {p : Ptr} {socket : Socket}
    (h : Turn greeted todo p socket) : Turn greeted todo p socket.pollForRead where
  asking hasked := h.asking (hasBit_pollForRead socket ▸ hasked)
  writable := h.writable
  hello := h.hello
  echo := h.echo

/-- A client that is not to be handled, without a pending request for writing. -/
theorem Turn.idle {greeted : List Ptr} {p : Ptr} {socket : Socket}
    (hevents : hasBit socket.events POLLOUT = false)
    (hello : socket.clientStatus = .HELLO → p ∉ greeted)
    (echo : socket.clientStatus = .ECHO → p ∈ greeted) : Turn greeted False p socket where
  asking hasked := absurd (hevents.symm.trans hasked) Bool.false_ne_true
  writable htodo := htodo.elim
  hello := hello
  echo := echo

section Steps

variable {descriptor : Int} {s s' : Memory} {w w' : Conversations} {ps : List Ptr} {p : Ptr}

theorem Orderly.silence (h : Orderly descriptor ps s w) (hsilence : Silence w w') :
    Orderly descriptor ps s w' where
  shape := h.shape
  collected := h.collected
  nodup := h.nodup
  turn := hsilence.greeted ▸ h.turn
  old := hsilence.greeted ▸ h.old
  unanswered := hsilence.answered ▸ h.unanswered

theorem Orderly.globals (h : Orderly descriptor ps s w) (appCfg : ApplicationConfig)
    (ssl : SslGlobals) (cmptr : Option Int) :
    Orderly descriptor ps { s with appCfg := appCfg, ssl := ssl, cmptr := cmptr } w :=
  { h with shape := h.shape.globals appCfg ssl cmptr }

/-- A received client waits for its greeting. -/
theorem Orderly.join (h : Orderly descriptor ps s w) (tcp : Socket) :
    Orderly descriptor ps (Mydisp.join s tcp) w where
  shape := h.shape.join
  collected := h.collected
  nodup := h.nodup
  turn := by
    have hfresh : s.next + 1 ∉ ps := fun hmem =>
      h.shape.not_referenced (Nat.le_succ _) (Or.inr (Or.inl (h.collected _ hmem)))
    have hunknown : s.next + 1 ∉ w.greeted := fun hmem =>
      Nat.not_succ_le_self _ (Nat.le_of_succ_le (h.old _ hmem))
    intro p socket hsocket
    by_cases hnew : p = s.next + 1
    · subst hnew
      simp only [Mydisp.join, Function.update_self, Option.some.injEq] at hsocket
      subst hsocket
      exact ⟨fun _ => ⟨rfl, hfresh⟩, fun htodo => absurd htodo hfresh, fun _ => hunknown,
        fun hecho => by cases hecho⟩
    · simp only [Mydisp.join, ne_eq, hnew, not_false_eq_true, Function.update_of_ne] at hsocket
      exact h.turn p socket hsocket
  old p hp := Nat.lt_add_right 2 (h.old p hp)
  unanswered := h.unanswered

theorem Orderly.refuse (h : Orderly descriptor ps s w) :
    Orderly descriptor ps (Mydisp.refuse s) w :=
  { h with
    shape := h.shape.refuse
    old := fun p hp => Nat.lt_add_right 2 (h.old p hp) }

/-- The conversation with one client has changed nothing but that client, which has no
pending request for writing. -/
theorem Orderly.handled (h : Orderly descriptor (p :: ps) s w) (htouches : Touches p s s')
    {socket : Socket} (hp : s'.heap p = some socket)
    (hevents : hasBit socket.events POLLOUT = false)
    (hhello : socket.clientStatus = .HELLO → p ∉ w'.greeted)
    (hecho : socket.clientStatus = .ECHO → p ∈ w'.greeted)
    (hgreeted : ∀ q, q ≠ p → (q ∈ w'.greeted ↔ q ∈ w.greeted))
    (hanswered : ∀ q, q ≠ p → (q ∈ w'.answered ↔ q ∈ w.answered)) :
    Orderly descriptor ps s' w' where
  shape := h.shape.similar htouches.similar
  collected q hq := by
    rw [htouches.similar.outputSocketsList]
    exact h.collected q (List.mem_cons_of_mem p hq)
  nodup := (List.nodup_cons.mp h.nodup).2
  turn q socket' hsocket := by
    have hdone : p ∉ ps := (List.nodup_cons.mp h.nodup).1
    by_cases hqp : q = p
    · subst hqp
      obtain rfl := Option.some.inj (hp.symm.trans hsocket)
      exact (Turn.idle hevents hhello hecho).mono (by simp [hdone]) Iff.rfl
    · rw [htouches.others q hqp] at hsocket
      exact (h.turn q socket' hsocket).mono (by simp [hqp]) (hgreeted q hqp)
  old q hq := by
    rw [htouches.similar.next]
    by_cases hqp : q = p
    · have hlive := h.shape.live p (Or.inr (Or.inl (h.collected p (List.mem_cons_self ..))))
      by_contra hlt
      exact hlive (h.shape.fresh p (hqp ▸ Nat.le_of_not_lt hlt))
    · exact h.old q ((hgreeted q hqp).mp hq)
  unanswered q hq hmem := by
    have hqp : q ≠ p := fun heq => (List.nodup_cons.mp h.nodup).1 (heq ▸ hq)
    exact h.unanswered q (List.mem_cons_of_mem p hq) ((hanswered q hqp).mp hmem)

/-- Removing an entry of the list removes at most objects. -/
theorem Orderly.removed (h : Orderly descriptor ps s w) {d : Int}
    (hpruned : Memory.Pruned { s with socketsList :=
      (SocketsList.delSocket s.descriptorOf s.socketsList d).1 } s') :
    Orderly descriptor ps s' w where
  shape := (h.shape.delSocket d).pruned hpruned
  collected p hp := by
    rw [hpruned.outputSocketsList]
    exact h.collected p hp
  nodup := h.nodup
  turn p socket hsocket := h.turn p socket (hpruned.object hsocket)
  old p hp := hpruned.next ▸ h.old p hp
  unanswered := h.unanswered

/-- The part of a cycle before the poll. -/
theorem Orderly.prepared (h : Orderly descriptor [] s w) (hprepared : Prepared s s')
    (hturn : ∀ p socket, s'.heap p = some socket → Turn w.greeted (p ∈ []) p socket) :
    Orderly descriptor [] s' w where
  shape := h.shape.prepared hprepared
  collected _ hp := nomatch hp
  nodup := List.nodup_nil
  turn := hturn
  old p hp := hprepared.next ▸ h.old p hp
  unanswered _ hp := nomatch hp

/-- A socket of the list asked for what it is given, errors apart. -/
theorem requested_of_polls (hnodup : s.socketsList.sockets.Nodup) {timeout : Int} {r : Reply}
    (hpolls : PollsRequested s' w (.poll (s.pollInfo s.socketsList.sockets) timeout) r)
    {i : Nat} (hi : i < s.socketsList.sockets.length) {socket : Socket}
    (hsocket : s.heap s.socketsList.sockets[i] = some socket)
    (hrevents : hasBit (reventsAt r i) POLLOUT = true) : hasBit socket.events POLLOUT = true := by
  rw [Memory.pollInfo_eq_map hnodup] at hpolls
  have hentry := hpolls i (by simpa using hi)
  simp only [List.getElem_map, Memory.pollFd, hsocket, Option.map_some, Option.getD_some] at hentry
  exact hasBit_requested hentry hrevents

/-- A poll leaves the sockets with returned events to be handled. -/
theorem Orderly.outcome (h : Orderly descriptor [] s w) (hshape : Shape descriptor s')
    {r : Reply} (houtcome : Outcome s r s')
    (houtput : ∀ p ∈ s'.outputSocketsList.sockets, p ∈ s.socketsList.sockets)
    {s₀ : Memory} {timeout : Int}
    (hpolls : PollsRequested s₀ w (.poll (s.pollInfo s.socketsList.sockets) timeout) r)
    (hanswered : w.answered = []) :
    Orderly descriptor s'.outputSocketsList.sockets s' w where
  shape := hshape
  collected _ hp := hp
  nodup := hshape.outputNodup
  turn p socket' hsocket' := by
    by_cases hp : p ∈ s.socketsList.sockets
    · obtain ⟨i, hi, rfl⟩ := List.getElem_of_mem hp
      obtain ⟨socket, hsocket⟩ := Option.ne_none_iff_exists'.mp (h.shape.live _ (Or.inl hp))
      rw [houtcome.listed i hi socket hsocket, Option.some.injEq] at hsocket'
      subst hsocket'
      have hturn := h.turn _ socket hsocket
      have hreset : hasBit NO_EVENTS POLLOUT = false := rfl
      refine ⟨fun hasked => ?_, fun _ hwritable => ?_, hturn.hello, hturn.echo⟩
      · exact absurd (hreset.symm.trans hasked) Bool.false_ne_true
      · exact (hturn.asking (requested_of_polls h.shape.nodup hpolls hi hsocket hwritable)).1
    · rw [houtcome.unlisted p hp] at hsocket'
      refine (h.turn p socket' hsocket').mono ?_ Iff.rfl
      simpa using fun hmem => hp (houtput p hmem)
  old p hp := by
    rw [houtcome.rest]
    exact h.old p hp
  unanswered := by simp [hanswered]

end Steps

/-! ## The functions of the main loop -/

/-- The calls that give no reply to a client and complete no cycle. -/
def Silent : Call → Prop
  | .bioWrite _ message => ¬IsReply message
  | .write .. | .note .loopEnd => False
  | _ => True

theorem silent_of_background (descriptor : Int) : ∀ c, Background descriptor c → Silent c := by
  apply forall_background
  · apply forall_configuring <;> intros <;> trivial
  · exact fun _ _ _ => trivial

theorem silent_of_receiving : ∀ c, Receiving c → Silent c := by
  apply forall_receiving <;> intros <;> trivial

theorem silent_of_preparing : ∀ c, Preparing c → Silent c := by
  apply forall_preparing <;> intros <;> trivial

theorem silence_recordReplies {w₀ w : Conversations} (h : Silence w₀ w) {c : Call}
    (hc : Silent c) (r : Reply) : Silence w₀ (recordReplies w c r) := by
  cases c with
  | bioWrite p message =>
      have hreply : ¬IsReply message := hc
      have hhello : message ≠ helloMessage := fun heq => hreply (Or.inl heq)
      simpa [recordReplies, Conversations.tell, hreply, hhello] using
        (⟨h.greeted, h.answered⟩ : Silence w₀ { w with justRead := none })
  | note n =>
      cases n with
      | loopEnd => exact hc.elim
      | _ => exact ⟨h.greeted, h.answered⟩
  | _ => exact ⟨h.greeted, h.answered⟩

theorem silent_quiet (I : Memory → Prop) (w₀ : Conversations) :
    Quiet (observer recordReplies) PollsRequested Disciplined I Silent (Silence w₀) where
  guarantee s w c _ hc _ := by
    cases c with
    | bioWrite p message =>
        have hreply : ¬IsReply message := hc
        simp only [IsReply, not_or] at hreply
        simp [Disciplined, IsReply, hreply]
    | write => exact hc.elim
    | _ => trivial
  reply _ w c r _ _ hc hreply _ h := by
    obtain rfl := Option.some.inj hreply
    exact silence_recordReplies h hc r
  act _ a _ _ _ := nomatch a

section Cycle

variable {descriptor : Int} {fuel : Nat} {s s' : Memory} {w : Conversations}
variable {ps : List Ptr} {p : Ptr}

theorem tell_greeted_of_ne (w : Conversations) (message : List Byte) {q : Ptr} (hq : q ≠ p) :
    q ∈ (w.tell p message).greeted ↔ q ∈ w.greeted := by
  simp only [Conversations.tell]
  split <;> simp [hq]

theorem tell_answered_of_ne (w : Conversations) (message : List Byte) {q : Ptr} (hq : q ≠ p) :
    q ∈ (w.tell p message).answered ↔ q ∈ w.answered := by
  simp only [Conversations.tell]
  split <;> simp [hq]

/-- A client without a pending request for writing has been handled. -/
theorem Orderly.told (h : Orderly descriptor (p :: ps) s w) (message : List Byte)
    (htouches : Touches p s s') {socket : Socket} (hp : s'.heap p = some socket)
    (hevents : hasBit socket.events POLLOUT = false)
    (hhello : socket.clientStatus = .HELLO → p ∉ (w.tell p message).greeted)
    (hecho : socket.clientStatus = .ECHO → p ∈ (w.tell p message).greeted) :
    Orderly descriptor ps s' (w.tell p message) := by
  apply h.handled htouches hp hevents hhello hecho
  · exact fun q hq => tell_greeted_of_ne w message hq
  · exact fun q hq => tell_answered_of_ne w message hq

/-- So has a client that is told nothing. -/
theorem Orderly.ignored (h : Orderly descriptor (p :: ps) s w) (htouches : Touches p s s')
    {socket : Socket} (hp : s'.heap p = some socket)
    (hevents : hasBit socket.events POLLOUT = false)
    (hhello : socket.clientStatus = .HELLO → p ∉ w.greeted)
    (hecho : socket.clientStatus = .ECHO → p ∈ w.greeted) : Orderly descriptor ps s' w := by
  apply h.handled htouches hp hevents hhello hecho
  · exact fun _ _ => Iff.rfl
  · exact fun _ _ => Iff.rfl

/-- Writing to a client adds to the record. -/
theorem replies_write {message : List Byte} {Q : Memory → Conversations → Int → Prop}
    {socket : Socket} (hp : s.heap p = some socket) (hssl : socket.isSslSocket = true)
    (hG : Disciplined s w (.bioWrite p message)) (hQ : ∀ bytes, Q s (w.tell p message) bytes) :
    Sat (observer recordReplies) PollsRequested Disciplined (write p message) Q s w := by
  rw [write, sat_bind, sat_deref_of_some hp, sat_ite, if_pos hssl, sat_bind, sat_ask_closed]
  refine ⟨hG, fun r w' hreply _ => ?_⟩
  obtain rfl := Option.some.inj hreply
  exact hQ r.ret

/-- A client is answered if it waits for its greeting, or if it has just been heard. -/
theorem orderly_answerClient {socket : Socket} (h : Orderly descriptor (p :: ps) s w)
    (hpu : p ≠ unixSocket) (htouches : Touches p s s') (hp : s'.heap p = some socket)
    (hevents : hasBit socket.events POLLOUT = false)
    (hhello : socket.clientStatus = .HELLO → p ∉ w.greeted)
    (hecho : socket.clientStatus = .ECHO → p ∈ w.greeted)
    (hheard : socket.isWriteAvailable = true →
      socket.clientStatus = .HELLO ∨ w.justRead = some p) :
    Sat (observer recordReplies) PollsRequested Disciplined (answerClient p)
      (fun s w _ => Orderly descriptor ps s w) s' w := by
  have hssl : socket.isSslSocket = true :=
    (h.shape.similar htouches.similar).isSslSocket hpu hp
  have hanswered : p ∉ w.answered := h.unanswered p (List.mem_cons_self ..)
  have hignored : Orderly descriptor ps s' w := h.ignored htouches hp hevents hhello hecho
  rw [answerClient, sat_bind, sat_deref_of_some hp, sat_ite]
  split
  next hwritable =>
    have hjustRead : socket.clientStatus ≠ .HELLO → w.justRead = some p :=
      fun hstatus => (hheard hwritable).resolve_left hstatus
    cases hstatus : socket.clientStatus with
    | HELLO =>
        rw [sat_bind]
        apply replies_write hp hssl
        · refine ⟨fun _ => hhello hstatus, fun heq => absurd heq (by decide), fun heq => ?_,
            fun _ => hanswered⟩
          exact absurd heq (by decide)
        · intro bytes
          rw [sat_bind, sat_modifySocket]
          have hheap : (s'.modifySocket p (Socket.setClientStatus .ECHO)).heap p =
              some (socket.setClientStatus .ECHO) := by
            simp [hp]
          apply h.told helloMessage (htouches.modifySocket .echo) hheap hevents
          · intro hfalse
            cases hfalse
          · intro _
            simp [Conversations.tell]
    | ECHO =>
        rw [sat_bind]
        apply replies_write hp hssl
        · refine ⟨fun heq => absurd heq (by decide), fun _ => hecho hstatus, fun _ => ?_,
            fun _ => hanswered⟩
          exact hjustRead (by simp [hstatus])
        · intro bytes
          apply h.told echoMessage htouches hp hevents
          · intro hfalse
            simp [hstatus] at hfalse
          · intro _
            exact hecho hstatus
    | BYE =>
        rw [sat_bind]
        apply replies_write hp hssl
        · refine ⟨fun heq => absurd heq (by decide), fun heq => absurd heq (by decide),
            fun _ => ?_, fun _ => hanswered⟩
          exact hjustRead (by simp [hstatus])
        · intro bytes
          apply h.told byeMessage htouches hp hevents <;> simp [hstatus]
    | NONE => exact hignored
  next => exact hignored

/-- A conversation gives at most one reply, and a client that does not wait for its
greeting is only answered after it has been heard. -/
theorem orderly_processClient (h : Orderly descriptor (p :: ps) s w) (hpu : p ≠ unixSocket) :
    Sat (observer recordReplies) PollsRequested Disciplined (processClient p)
      (fun s w _ => Orderly descriptor ps s w) s w := by
  have hcollected := h.collected p (List.mem_cons_self ..)
  have hlive : s.heap p ≠ none := h.shape.live p (Or.inr (Or.inl hcollected))
  obtain ⟨socket, hp⟩ := Option.ne_none_iff_exists'.mp hlive
  have hssl := h.shape.isSslSocket hpu hp
  have hturn := h.turn p socket hp
  have hevents : hasBit socket.events POLLOUT = false := by
    by_contra hasked
    exact (hturn.asking (by simpa using hasked)).2 (List.mem_cons_self ..)
  have htouches := Touches.refl p s
  have hwaits : socket.isWriteAvailable = true → socket.clientStatus = .HELLO :=
    hturn.writable (List.mem_cons_self ..)
  have hquiet := silent_quiet (fun _ => True)
  rw [processClient, sat_bind, sat_deref_of_some hp, sat_ite]
  split
  next => exact h.ignored htouches hp hevents hturn.hello hturn.echo
  next =>
    rw [sat_ite]
    split
    next =>
      rw [sat_bind]
      refine sat_ask_quiet (hquiet w) (by trivial) trivial (Silence.refl w)
        fun buffer w₁ hsilence => ?_
      have h := h.silence hsilence
      have hturn := h.turn p socket hp
      rw [sat_bind, read, sat_bind, sat_deref_of_some hp, sat_ite, if_pos hssl, sat_bind,
        sat_ask_closed]
      refine ⟨trivial, fun r w₂ hreply _ => ?_⟩
      obtain rfl := Option.some.inj hreply
      have h := h.silence (silence_recordReplies (Silence.refl w₁)
        (show Silent (.bioRead p buffer.bytes 100) from trivial) r)
      rw [sat_pure, sat_ite]
      split
      next =>
        -- the probe is no reply, and the client is only answered if it waits
        rw [sat_bind, write, sat_bind, sat_deref_of_some hp, sat_ite, if_pos hssl, sat_bind]
        have hprobe : ¬IsReply (ascii "EXIT\n") := by decide
        refine sat_ask_quiet (hquiet _) (by exact hprobe) trivial (Silence.refl _)
          fun probed w₃ hsilence => ?_
        have h := h.silence hsilence
        have hturn := h.turn p socket hp
        rw [sat_pure, sat_ite]
        split
        next => exact h.ignored htouches hp hevents hturn.hello hturn.echo
        next =>
          apply orderly_answerClient h hpu htouches hp hevents hturn.hello hturn.echo
          exact fun hwritable => Or.inl (hwaits hwritable)
      next =>
        rw [sat_ite]
        split
        next hread =>
          have hheard : (recordReplies w₁ (.bioRead p buffer.bytes 100) r).justRead = some p := by
            have hone : 1 ≤ r.ret := hread
            simp [recordReplies, hone]
          rw [sat_bind, sat_when]
          split
          next =>
            rw [sat_modifySocket, sat_bind, sat_modifySocket]
            have hheap : ((s.modifySocket p (Socket.setClientStatus .BYE)).modifySocket p
                (Socket.setRevents POLLOUT)).heap p =
                  some ((socket.setClientStatus .BYE).setRevents POLLOUT) := by
              simp [hp]
            apply orderly_answerClient h hpu
              ((htouches.modifySocket .bye).modifySocket .answer) hheap hevents
            · intro hfalse
              cases hfalse
            · intro hfalse
              cases hfalse
            · exact fun _ => Or.inr hheard
          next =>
            rw [sat_bind, sat_modifySocket]
            have hheap : (s.modifySocket p (Socket.setRevents POLLOUT)).heap p =
                some (socket.setRevents POLLOUT) := by
              simp [hp]
            apply orderly_answerClient h hpu (htouches.modifySocket .answer) hheap hevents
              hturn.hello hturn.echo
            exact fun _ => Or.inr hheard
        next => exact h.ignored htouches hp hevents hturn.hello hturn.echo
    next =>
      apply orderly_answerClient h hpu htouches hp hevents hturn.hello hturn.echo
      exact fun hwritable => Or.inl (hwaits hwritable)

/-- A message of the listener gives no reply to a client that is in the list. -/
theorem orderly_dispatcherProcess (h : Orderly descriptor ps s w) :
    Sat (observer recordReplies) PollsRequested Disciplined (dispatcherProcess unixSocket fuel)
      (fun s w _ => Orderly descriptor ps s w) s w := by
  have hbackground : Quiet (observer recordReplies) PollsRequested Disciplined
      (fun s => Orderly descriptor ps s w) (Background descriptor) (Silence w) :=
    (silent_quiet _ w).mono (fun _ hI => hI) (silent_of_background _)
  have hreceiving : Quiet (observer recordReplies) PollsRequested Disciplined (fun _ => True)
      Receiving (Silence w) :=
    (silent_quiet _ w).mono (fun _ hI => hI) silent_of_receiving
  apply sat_dispatcherProcess_background hbackground
  · exact fun s socket hI hsocket => hI.shape.descriptor_unix hsocket
  · exact fun s appCfg hI => hI.globals appCfg s.ssl s.cmptr
  · exact fun s ssl hI => hI.globals s.appCfg ssl s.cmptr
  · intro s w₁ hI hJ
    apply sat_reception (I := fun s => Orderly descriptor ps s w)
      (Q := fun s w _ => Orderly descriptor ps s w) hreceiving (fun s hI => hI.shape) _ _ _ hI hJ
    · exact fun s cmptr hI => hI.globals s.appCfg s.ssl cmptr
    · intro s w₁ tcp hI hJ
      have hquiet := silent_quiet (fun _ => True) w
      apply sat_acceptClient hI.shape.toTidy
      · intro _ w₂ hacts
        exact hquiet.guarantee _ w₂ _ trivial trivial (hacts.keeps hquiet.act hJ)
      · intro _
        exact sat_note_quiet hquiet (by trivial) trivial hJ fun w₂ hJ => (hI.silence hJ).join tcp
      · intro _
        have hbusy : ¬IsReply busyMessage := by decide
        refine sat_note_quiet hquiet (by trivial) trivial hJ fun _ hJ => ?_
        refine sat_ask_quiet hquiet (by exact hbusy) trivial hJ fun _ _ hJ => ?_
        exact sat_ask_quiet hquiet (by trivial) trivial hJ fun _ w₂ hJ => (hI.silence hJ).refuse
    · exact fun s w₁ hI hJ => hI.silence hJ
  · exact fun s w₁ ok hI hJ => hI.silence hJ
  · exact h
  · exact Silence.refl w

/-- One entry of the output list. -/
theorem orderly_processReEvents (h : Orderly descriptor (p :: ps) s w) :
    Sat (observer recordReplies) PollsRequested Disciplined (processReEvents unixSocket fuel p)
      (fun s w failed => if failed then True else Orderly descriptor ps s w) s w := by
  have hcollected := h.collected p (List.mem_cons_self ..)
  have hlive : s.heap p ≠ none := h.shape.live p (Or.inr (Or.inl hcollected))
  have hquiet := silent_quiet (fun _ => True)
  apply sat_processReEvents h.shape hlive
  · intro hpu
    have htail : Orderly descriptor ps s w := by
      obtain ⟨socket, hp⟩ := Option.ne_none_iff_exists'.mp hlive
      have hturn := h.turn p socket hp
      apply h.ignored (Touches.refl p s) hp _ hturn.hello hturn.echo
      by_contra hasked
      exact (hturn.asking (by simpa using hasked)).2 (List.mem_cons_self ..)
    apply (orderly_dispatcherProcess htail).mono
    intro s w ok h
    refine sat_note_quiet (hquiet w) (by trivial) trivial (Silence.refl w) fun w₁ hsilence => ?_
    cases ok with
    | true => exact h.silence hsilence
    | false => trivial
  · intro hpu
    apply (orderly_processClient h hpu).mono
    intro s w ok h
    cases ok with
    | true => exact h
    | false =>
        refine sat_note_quiet (hquiet w) (by trivial) trivial (Silence.refl w)
          fun w₁ hsilence => ?_
        have h := h.silence hsilence
        apply (sat_delSocket_quiet (hquiet w₁) (fun _ => trivial) rfl rfl ?_).mono
        · rintro s' w₂ _ ⟨hpruned, hsilence⟩
          exact (h.removed hpruned).silence hsilence
        · exact sat_note_quiet (hquiet w₁) (by trivial) trivial (Silence.refl w₁)
            fun w₂ hsilence => ⟨rfl, hsilence⟩

/-- The part of a cycle before the poll requests reading only. -/
theorem orderly_prepare (h : Orderly descriptor [] s w) :
    Sat (observer recordReplies) PollsRequested Disciplined prepare (fun s' w' _ =>
      Orderly descriptor [] s' w' ∧ Silence w w' ∧ s'.outputSocketsList.sockets = []) s w := by
  have hturns : Quiet (observer recordReplies) PollsRequested Disciplined
      (fun s' => ∀ p socket, s'.heap p = some socket → Turn w.greeted (p ∈ []) p socket)
      Preparing (Silence w) :=
    (silent_quiet _ w).mono (fun _ hI => hI) silent_of_preparing
  have hpreparing : Quiet (observer recordReplies) PollsRequested Disciplined (fun _ => True)
      Preparing (Silence w) :=
    (silent_quiet _ w).mono (fun _ hI => hI) silent_of_preparing
  have hwithin : Within
      (fun s' => ∀ p socket, s'.heap p = some socket → Turn w.greeted (p ∈ []) p socket)
      Preparing prepare := by
    apply within_prepare
    · intro s' q hturn p socket' hsocket'
      rw [Memory.modifySocket_heap] at hsocket'
      split at hsocket'
      next =>
        obtain ⟨socket, hsocket, rfl⟩ := Option.map_eq_some_iff.mp hsocket'
        exact (hturn p socket hsocket).pollForRead
      next => exact hturn p socket' hsocket'
    · exact fun s' hturn => hturn
    · intro s' q hturn p socket hsocket
      rw [Memory.erase_heap] at hsocket
      split at hsocket
      next => contradiction
      next => exact hturn p socket hsocket
  have hturn := hwithin.sat hturns h.turn (Silence.refl w)
  have hprepare := sat_prepare_quiet (s := s) hpreparing (Silence.refl w)
  apply (hprepare.and hturn).mono
  rintro s' w' _ ⟨⟨hprepared, hsilence⟩, hturn, _⟩
  exact ⟨(h.prepared hprepared hturn).silence hsilence, hsilence, hprepared.output⟩

/-- The poll. -/
theorem orderly_pollSockets (h : Orderly descriptor [] s w) (hanswered : w.answered = [])
    (hempty : s.outputSocketsList.sockets = []) :
    Sat (observer recordReplies) PollsRequested Disciplined pollSockets (fun s w errorType =>
      match errorType with
      | .NONE => Orderly descriptor s.outputSocketsList.sockets s w
      | .ERROR => True
      | _ => Orderly descriptor [] s w) s w := by
  apply sat_pollSockets
  · intro _ _ _
    trivial
  · rw [sat_ask_closed]
    refine ⟨trivial, fun r w' hreply hpolls => ?_⟩
    obtain rfl := Option.some.inj hreply
    have hsilence := silence_recordReplies (Silence.refl w)
      (show Silent (.poll (s.pollInfo s.socketsList.sockets) pollTimeout) from trivial) r
    have hreset : errorTypeOf r ≠ .NONE → Orderly descriptor [] s.reset w := by
      intro hnone
      have hout : s.reset.outputSocketsList.sockets = [] := by simpa using hempty
      have horderly := h.outcome (h.shape.similar s.similar_reset) (outcome_reset hnone)
        (by simp [hempty]) hpolls hanswered
      rwa [hout] at horderly
    refine ⟨fun hret herrno => ?_, fun _ _ => trivial, fun hzero => ?_, fun hret hzero => ?_⟩
    · exact (hreset (by simp [errorTypeOf, hret, herrno])).silence hsilence
    · exact (hreset (by simp [errorTypeOf, hzero])).silence hsilence
    · have hnone : errorTypeOf r = .NONE := by simp [errorTypeOf, hret, hzero]
      have hroom : s.outputSocketsList.sockets.length + s.socketsList.sockets.length ≤
          s.outputSocketsList.maxSize := by
        have hbounded := s.socketsList.bounded
        rw [hempty, h.shape.outputMaxSize]
        rw [h.shape.maxSize] at hbounded
        simpa using hbounded
      exact (h.outcome (h.shape.polled hempty r.revents)
        (outcome_polled hnone h.shape.nodup hroom)
        (h.shape.collected hempty r.revents) hpolls hanswered).silence hsilence

end Cycle

/-! ## The main loop -/

/-- The dispatcher enters its loop with nobody greeted. -/
theorem orderly_started (descriptor : Nat) : Orderly descriptor [] (started descriptor) {} where
  shape := shape_started descriptor
  collected _ hp := nomatch hp
  nodup := List.nodup_nil
  turn p socket hsocket := by
    by_cases hp : p = unixSocket
    · subst hp
      simp only [started, if_pos, Option.some.injEq] at hsocket
      subst hsocket
      have hnone : hasBit NO_EVENTS POLLOUT = false := rfl
      constructor
      · intro hasked
        exact absurd (hnone.symm.trans hasked) Bool.false_ne_true
      · intro hunlisted
        cases hunlisted
      · intro hhello
        cases hhello
      · intro hecho
        cases hecho
    · simp [started, hp] at hsocket
  old _ hp := nomatch hp
  unanswered _ hp := nomatch hp

/-- In every run whose polls report only what they may report, every client is greeted
at most once, an echo follows the greeting, an echo or a farewell follows bytes that
{lit}`processClient` has just read from the same client, and no client is given two
replies in one cycle. -/
theorem disciplined (descriptor fuel cycles : Nat) :
    Safe (observer recordReplies) PollsRequested Disciplined
      ⟨started descriptor, {}, mainLoop unixSocket fuel cycles⟩ := by
  apply Sat.safe
  apply sat_mainLoop (fun s w => Orderly descriptor [] s w ∧ w.answered = [])
    (fun s w => Orderly descriptor [] s w ∧ w.answered = [] ∧
      s.outputSocketsList.sockets = [])
    (fun s w => Orderly descriptor [] s w) (fun _ _ => True)
    (fun ps s w => Orderly descriptor ps s w)
  · rintro s w ⟨h, hanswered⟩
    apply (orderly_prepare h).mono
    rintro s' w' _ ⟨h, hsilence, hempty⟩
    exact ⟨h, hsilence.answered.trans hanswered, hempty⟩
  · rintro s w ⟨h, hanswered, hempty⟩
    apply (orderly_pollSockets h hanswered hempty).mono
    intro s w errorType h
    cases errorType <;> exact h
  · intro p ps s w h
    exact orderly_processReEvents h
  · exact fun s w h => h
  · intro s w h
    rw [sat_note, sat_ask_closed]
    refine ⟨trivial, fun r w' hreply _ => ?_⟩
    obtain rfl := Option.some.inj hreply
    exact ⟨{ h with unanswered := fun _ hp => nomatch hp }, rfl⟩
  · intro s w _
    rw [sat_note, sat_ask_closed]
    exact ⟨trivial, fun _ _ _ _ => trivial⟩
  · exact ⟨orderly_started descriptor, rfl⟩

end Mydisp

end SocketDispatcher
