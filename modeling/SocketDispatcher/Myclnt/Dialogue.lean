import SocketDispatcher.Mydisp.Greeting
import SocketDispatcher.Myclnt.Confidentiality

/-!
# Taking turns

A client reads before it sends, and sends one line after each read; the dispatcher
answers what it reads.  So each of them may come to wait for the other one.  The world
holds the bytes that are on their way on every connection.  Between two calls of the
dispatcher any of the clients may move.

Main results:

- Theorem {lit}`fluent_act`: whatever a client does that takes turns, it does not come
  to wait for nothing.
- Theorem {lit}`talking_processClient`: the dispatcher answers whatever it reads.
- Theorem {lit}`attentive_mainLoop`: whenever the dispatcher polls, it polls every client
  for reading that has been greeted and waits without a reply on its way, and the client
  has sent bytes that have not been read.
-/

namespace SocketDispatcher

open Interaction

namespace Myclnt

open Mydisp (Shape Touches Talk Heeded unixSocket)

/-! ## Dialogues -/

/-- The connection of a client. -/
structure Dialogue extends InFlight where
  /-- The client reads next. -/
  waiting : Bool := true
  /-- A call on the connection has failed, at either end. -/
  broken : Bool := false

/-- What a client does on its own. -/
inductive ClientMove where
  /-- It reads so many bytes. -/
  | hear (n : Nat)
  | say (message : List Byte)
  | leave

namespace Dialogue

def fail (d : Dialogue) : Dialogue :=
  { d with broken := true }

/-- The dispatcher reads. -/
def heard (d : Dialogue) (size : Nat) (r : Reply) : Option Dialogue :=
  if r.ret ≤ 0 then some d.fail
  else (takeFrom d.toDispatcher size r).map fun queue => { d with toDispatcher := queue }

/-- The dispatcher writes. -/
def told (d : Dialogue) (message : List Byte) (r : Reply) : Option Dialogue :=
  if r.ret ≤ 0 then some d.fail
  else (appendTo d.toClient message r).map fun queue => { d with toClient := queue }

/-- A client takes turns as long as nothing has failed: it sends once after each read. -/
def act (d : Dialogue) : ClientMove → Option Dialogue
  | .hear n =>
      if (d.waiting = true ∨ d.broken = true) ∧ n ≠ 0 ∧ n ≤ d.toClient.length then
        some { d with toClient := d.toClient.drop n, waiting := false }
      else none
  | .say message =>
      if (d.waiting = false ∨ d.broken = true) ∧ message ≠ [] then
        some { d with toDispatcher := d.toDispatcher ++ message, waiting := true }
      else none
  | .leave => some d.fail

/-- The client waits, and nothing is on its way to it. -/
structure Stalled (d : Dialogue) : Prop where
  waiting : d.waiting = true
  intact : d.broken = false
  unanswered : d.toClient = []

/-- A client that waits for nothing on its way has sent something that the dispatcher has
not read yet. -/
def Fluent (d : Dialogue) : Prop :=
  d.Stalled → d.toDispatcher ≠ []

theorem fluent_of_broken {d : Dialogue} (h : d.broken = true) : d.Fluent := by
  intro hstalled
  rw [hstalled.intact] at h
  contradiction

/-- A client that takes turns does not come to wait for nothing. -/
theorem fluent_act {d d' : Dialogue} {move : ClientMove} (hact : d.act move = some d') :
    d'.Fluent := by
  cases move with
  | hear n =>
      simp only [act] at hact
      split at hact
      next =>
        obtain rfl := Option.some.inj hact
        intro hstalled
        exact absurd hstalled.waiting Bool.false_ne_true
      next => contradiction
  | say message =>
      simp only [act] at hact
      split at hact
      next hsays =>
        obtain rfl := Option.some.inj hact
        intro _ hnone
        exact hsays.2 (List.append_eq_nil_iff.mp hnone).2
      next => contradiction
  | leave =>
      obtain rfl := Option.some.inj hact
      exact fluent_of_broken rfl

/-- A write that succeeds takes some of the message. -/
theorem take_ne_nil {message : List Byte} {r : Reply} (hmessage : message ≠ [])
    (hret : 0 < r.ret) : message.take r.ret.toNat ≠ [] := by
  intro hnone
  rcases List.take_eq_nil_iff.mp hnone with hzero | hnil
  · omega
  · exact hmessage hnil

section Dispatcher

variable {d d' : Dialogue} {size : Nat} {message : List Byte} {r : Reply}

/-- What a write of the dispatcher does. -/
theorem told_cases (h : d.told message r = some d') :
    d' = d.fail ∨ (0 < r.ret ∧
      d' = { d with toClient := d.toClient ++ message.take r.ret.toNat }) := by
  simp only [told] at h
  split at h
  next => exact Or.inl (Option.some.inj h).symm
  next hret =>
    obtain ⟨queue, hqueue, rfl⟩ := Option.map_eq_some_iff.mp h
    simp only [appendTo] at hqueue
    split at hqueue
    next =>
      obtain rfl := Option.some.inj hqueue
      exact Or.inr ⟨Int.not_le.mp hret, rfl⟩
    next => contradiction

/-- What a read of the dispatcher does. -/
theorem heard_cases (h : d.heard size r = some d') :
    d' = d.fail ∨ (0 < r.ret ∧ ∃ queue, d' = { d with toDispatcher := queue }) := by
  simp only [heard] at h
  split at h
  next => exact Or.inl (Option.some.inj h).symm
  next hret =>
    obtain ⟨queue, -, rfl⟩ := Option.map_eq_some_iff.mp h
    exact Or.inr ⟨Int.not_le.mp hret, queue, rfl⟩

/-- An answer is on its way, or the connection is broken. -/
theorem fluent_told (hmessage : message ≠ []) (htold : d.told message r = some d') :
    d'.Fluent := by
  rcases told_cases htold with rfl | ⟨hret, rfl⟩
  · exact fluent_of_broken rfl
  · intro hstalled
    have hnone := (List.append_eq_nil_iff.mp hstalled.unanswered).2
    exact absurd hnone (take_ne_nil hmessage hret)

/-- Writing anything does no harm. -/
theorem Fluent.told (h : d.Fluent) (htold : d.told message r = some d') : d'.Fluent := by
  rcases told_cases htold with rfl | ⟨-, rfl⟩
  · exact fluent_of_broken rfl
  · intro hstalled
    have hnone := (List.append_eq_nil_iff.mp hstalled.unanswered).1
    exact h ⟨hstalled.waiting, hstalled.intact, hnone⟩

/-- A read that fails breaks the connection. -/
theorem fluent_heard (hret : r.ret ≤ 0) (hheard : d.heard size r = some d') : d'.Fluent := by
  rcases heard_cases hheard with rfl | ⟨hpos, -⟩
  · exact fluent_of_broken rfl
  · omega

end Dispatcher

end Dialogue

/-- Every client takes turns. -/
def dialogues : Kernel (Ptr → Dialogue) Call Reply (Ptr × ClientMove) where
  reply w c r :=
    match c with
    | .bioRead p _ size => ((w p).heard size r).map (Function.update w p)
    | .bioWrite p message => ((w p).told message r).map (Function.update w p)
    | _ => some w
  act w a := ((w a.1).act a.2).map (Function.update w a.1)

/-- No client waits in vain: whoever waits without a reply on its way has not been greeted
yet, or has sent bytes that the dispatcher polls it for. -/
def Attentive (m : Memory) (w : Ptr → Dialogue) : Call → Prop
  | .poll pollInfo _ =>
      List.Forall₂ (fun p entry => entry.fd = m.descriptorOf p ∧
        (p ≠ unixSocket → (w p).Stalled → Mydisp.Hello m p ∨
          ((w p).toDispatcher ≠ [] ∧ hasBit entry.events POLLIN = true)))
        m.socketsList.sockets pollInfo
  | _ => True

/-! ## What the memory remembers -/

/-- The client at {lit}`p` has been greeted. -/
def Greeted (s : Memory) (p : Ptr) : Prop :=
  p ≠ unixSocket ∧ ∃ socket, s.heap p = some socket ∧ socket.clientStatus ≠ .HELLO

/-- Every client is to be greeted or has been, and then {lit}`P` holds of it. -/
structure Talks (descriptor : Int) (P : Ptr → Prop) (s : Memory) : Prop where
  shape : Shape descriptor s
  status : ∀ p socket, p ≠ unixSocket → s.heap p = some socket → socket.clientStatus ≠ .NONE
  greeted : ∀ p, Greeted s p → P p

/-- No client that has been greeted waits in vain. -/
def Talking (descriptor : Int) (s : Memory) (w : Ptr → Dialogue) : Prop :=
  Talks descriptor (fun p => (w p).Fluent) s

/-- No object has changed its status. -/
def KeepsStatus (s s' : Memory) : Prop :=
  ∀ p socket', s'.heap p = some socket' →
    ∃ socket, s.heap p = some socket ∧ socket'.clientStatus = socket.clientStatus

section Talks

variable {descriptor : Int} {P P' : Ptr → Prop} {s s' : Memory} {p : Ptr}

theorem Talks.mono (h : Talks descriptor P s) (himp : ∀ p, P p → P' p) :
    Talks descriptor P' s :=
  ⟨h.shape, h.status, fun p hp => himp p (h.greeted p hp)⟩

theorem Talks.keeps (h : Talks descriptor P s) (hshape : Shape descriptor s')
    (hkeeps : KeepsStatus s s') : Talks descriptor P s' where
  shape := hshape
  status p socket' hp hsocket' := by
    obtain ⟨socket, hsocket, hstatus⟩ := hkeeps p socket' hsocket'
    rw [hstatus]
    exact h.status p socket hp hsocket
  greeted p hp := by
    obtain ⟨hpu, socket', hsocket', hhello⟩ := hp
    obtain ⟨socket, hsocket, hstatus⟩ := hkeeps p socket' hsocket'
    exact h.greeted p ⟨hpu, socket, hsocket, hstatus ▸ hhello⟩

theorem keepsStatus_of_heap (h : s'.heap = s.heap) : KeepsStatus s s' :=
  fun _ socket' hsocket' => ⟨socket', h ▸ hsocket', rfl⟩

theorem Talks.prepared (h : Talks descriptor P s) (hprepared : Prepared s s') :
    Talks descriptor P s' := by
  refine h.keeps (h.shape.prepared hprepared) fun p socket' hsocket' => ?_
  obtain ⟨socket, events, hsocket, rfl⟩ := hprepared.object hsocket'
  exact ⟨socket, hsocket, rfl⟩

theorem Talks.pruned (h : Talks descriptor P s) (hpruned : s.Pruned s') :
    Talks descriptor P s' :=
  h.keeps (h.shape.pruned hpruned) fun _ socket hsocket => ⟨socket, hpruned.object hsocket, rfl⟩

theorem Talks.delSocket (h : Talks descriptor P s) (d : Int) :
    Talks descriptor P
      { s with socketsList := (SocketsList.delSocket s.descriptorOf s.socketsList d).1 } :=
  h.keeps (h.shape.delSocket d) (keepsStatus_of_heap rfl)

theorem Talks.globals (h : Talks descriptor P s) (appCfg : ApplicationConfig) (ssl : SslGlobals)
    (cmptr : Option Int) :
    Talks descriptor P { s with appCfg := appCfg, ssl := ssl, cmptr := cmptr } :=
  h.keeps (h.shape.globals appCfg ssl cmptr) (keepsStatus_of_heap rfl)

theorem Talks.refuse (h : Talks descriptor P s) : Talks descriptor P (Mydisp.refuse s) :=
  h.keeps h.shape.refuse (keepsStatus_of_heap rfl)

/-- A new client has not been greeted. -/
theorem Talks.join (h : Talks descriptor P s) (tcp : Socket) :
    Talks descriptor P (Mydisp.join s tcp) := by
  have hnew : ∀ p socket, (Mydisp.join s tcp).heap p = some socket →
      socket.clientStatus = .HELLO ∨ s.heap p = some socket := by
    intro p socket hsocket
    by_cases hp : p = s.next + 1
    · simp only [Mydisp.join, hp, Function.update_self, Option.some.injEq] at hsocket
      exact Or.inl (hsocket ▸ rfl)
    · simp only [Mydisp.join, ne_eq, hp, not_false_eq_true, Function.update_of_ne] at hsocket
      exact Or.inr hsocket
  refine ⟨h.shape.join, fun p socket hp hsocket => ?_, fun p hp => ?_⟩
  · rcases hnew p socket hsocket with hhello | hsocket
    · rw [hhello]
      decide
    · exact h.status p socket hp hsocket
  · obtain ⟨hpu, socket, hsocket, hhello⟩ := hp
    exact h.greeted p ⟨hpu, socket, (hnew p socket hsocket).resolve_left hhello, hhello⟩

theorem keepsStatus_reset (s : Memory) : KeepsStatus s s.reset := by
  intro p socket' hsocket'
  rw [Memory.reset_heap] at hsocket'
  split at hsocket'
  next =>
    obtain ⟨socket, hsocket, rfl⟩ := Option.map_eq_some_iff.mp hsocket'
    exact ⟨socket, hsocket, rfl⟩
  next => exact ⟨socket', hsocket', rfl⟩

theorem KeepsStatus.trans {s'' : Memory} (h : KeepsStatus s s') (h' : KeepsStatus s' s'') :
    KeepsStatus s s'' := by
  intro p socket'' hsocket''
  obtain ⟨socket', hsocket', hstatus'⟩ := h' p socket'' hsocket''
  obtain ⟨socket, hsocket, hstatus⟩ := h p socket' hsocket'
  exact ⟨socket, hsocket, hstatus'.trans hstatus⟩

theorem keepsStatus_polled (hnodup : s.socketsList.sockets.Nodup) (revents : List Events) :
    KeepsStatus s (s.polled revents) := by
  apply (keepsStatus_reset s).trans
  intro p socket' hsocket'
  rw [Memory.polled_heap hnodup] at hsocket'
  split at hsocket'
  next =>
    obtain ⟨socket, hsocket, rfl⟩ := Option.map_eq_some_iff.mp hsocket'
    exact ⟨socket, hsocket, rfl⟩
  next => exact ⟨socket', hsocket', rfl⟩

/-- A conversation changes the status of its client only, and leaves it answered. -/
theorem Talks.touched (h : Talks descriptor P s) (htouches : Touches p s s') {socket : Socket}
    (hp : p ≠ unixSocket) (hsocket : s'.heap p = some socket)
    (hstatus : socket.clientStatus ≠ .NONE)
    (himp : ∀ q, q ≠ p → P q → P' q) (hanswered : socket.clientStatus ≠ .HELLO → P' p) :
    Talks descriptor P' s' where
  shape := h.shape.similar htouches.similar
  status q socket' hq hsocket' := by
    by_cases hqp : q = p
    · subst hqp
      obtain rfl := Option.some.inj (hsocket.symm.trans hsocket')
      exact hstatus
    · rw [htouches.others q hqp] at hsocket'
      exact h.status q socket' hq hsocket'
  greeted q hq := by
    obtain ⟨hqu, socket', hsocket', hhello⟩ := hq
    by_cases hqp : q = p
    · subst hqp
      obtain rfl := Option.some.inj (hsocket.symm.trans hsocket')
      exact hanswered hhello
    · rw [htouches.others q hqp] at hsocket'
      exact himp q hqp (h.greeted q ⟨hqu, socket', hsocket', hhello⟩)

end Talks

/-! ## One client -/

/-- The calls that read nothing from a client of {lit}`P`, and do not poll. -/
def Leaving (P : Ptr → Prop) : Call → Prop
  | .poll .. => False
  | .bioRead p _ _ => ¬P p
  | _ => True

theorem fluent_update {P : Ptr → Prop} {w : Ptr → Dialogue} {p : Ptr} {d : Dialogue}
    (hw : ∀ q, q ≠ p → P q → (w q).Fluent) (hp : P p → d.Fluent) :
    ∀ q, P q → (Function.update w p d q).Fluent := by
  intro q hq
  by_cases hqp : q = p
  · subst hqp
    rw [Function.update_self]
    exact hp hq
  · rw [Function.update_of_ne hqp]
    exact hw q hqp hq

/-- Whatever else happens, the clients of {lit}`P` do not come to wait in vain. -/
theorem fluent_quiet {I : Memory → Prop} {P : Ptr → Prop} :
    Quiet dialogues anyReply Attentive I (Leaving P) (fun w => ∀ p, P p → (w p).Fluent) where
  guarantee s w c _ hc _ := by
    cases c with
    | poll => exact hc.elim
    | _ => trivial
  reply s w c r w' _ hc hreply _ hw := by
    cases c with
    | bioRead p buffer size =>
        obtain ⟨d, -, rfl⟩ := Option.map_eq_some_iff.mp hreply
        exact fluent_update (fun q _ => hw q) fun hp => absurd hp hc
    | bioWrite p message =>
        obtain ⟨d, htold, rfl⟩ := Option.map_eq_some_iff.mp hreply
        exact fluent_update (fun q _ => hw q) fun hp => (hw p hp).told htold
    | _ => exact Option.some.inj hreply ▸ hw
  act w a w' hact hw := by
    obtain ⟨d, hd, rfl⟩ := Option.map_eq_some_iff.mp hact
    exact fluent_update (fun q _ => hw q) fun _ => Dialogue.fluent_act hd

section Client

variable {descriptor : Int} {P : Ptr → Prop} {p : Ptr} {socket : Socket} {s s' : Memory}
variable {w : Ptr → Dialogue}

/-- A client that has been written to has an answer on its way. -/
theorem talking_write {message : List Byte} {Q : Memory → (Ptr → Dialogue) → Int → Prop}
    (hsocket : s.heap p = some socket) (hssl : socket.isSslSocket = true)
    (hmessage : message ≠ []) (hw : ∀ q, q ≠ p ∧ P q → (w q).Fluent)
    (hQ : ∀ w bytes, (∀ q, q = p ∨ P q → (w q).Fluent) → Q s w bytes) :
    Sat dialogues anyReply Attentive (write p message) Q s w := by
  have hquiet := fluent_quiet (I := fun _ => True) (P := fun q => q ≠ p ∧ P q)
  rw [write, sat_bind, sat_deref_of_some hsocket, sat_ite, if_pos hssl, sat_bind]
  apply sat_ask_keeps hquiet.act hw
  · exact fun _ _ => trivial
  · intro w r w' hw hreply _
    obtain ⟨d, htold, rfl⟩ := Option.map_eq_some_iff.mp hreply
    apply hQ
    apply fluent_update
    · exact fun q hqp hq => hw q ⟨hqp, hq.resolve_left hqp⟩
    · exact fun _ => Dialogue.fluent_told hmessage htold

/-- A client that can be written to, or does not wait in vain, does not wait in vain
afterwards. -/
theorem talking_answerClient (h : Talks descriptor P s) (htouches : Touches p s s')
    (hp : p ≠ unixSocket) (hsocket : s'.heap p = some socket) (hssl : socket.isSslSocket = true)
    (hstatus : socket.clientStatus ≠ .NONE) (hw : ∀ q, q ≠ p ∧ P q → (w q).Fluent)
    (hidle : socket.isWriteAvailable = false → socket.clientStatus ≠ .HELLO → (w p).Fluent) :
    Sat dialogues anyReply Attentive (Mydisp.answerClient p)
      (fun s' w' _ => s.Similar s' ∧ Talking descriptor s' w') s' w := by
  have hwritten : ∀ w : Ptr → Dialogue, (∀ q, q = p ∨ P q → (w q).Fluent) →
      s.Similar s' ∧ Talking descriptor s' w := fun w hw =>
    ⟨htouches.similar, h.touched htouches hp hsocket hstatus (fun q _ hq => hw q (Or.inr hq))
      fun _ => hw p (Or.inl rfl)⟩
  rw [Mydisp.answerClient, sat_bind, sat_deref_of_some hsocket, sat_ite]
  split
  next =>
    cases hnow : socket.clientStatus with
    | HELLO =>
        rw [sat_bind]
        apply talking_write hsocket hssl (by decide) hw
        intro w bytes hw
        rw [sat_bind, sat_modifySocket]
        have hheap : (s'.modifySocket p (Socket.setClientStatus .ECHO)).heap p =
            some (socket.setClientStatus .ECHO) := by
          simp [hsocket]
        have htouches' := htouches.modifySocket .echo
        exact ⟨htouches'.similar, h.touched htouches' hp hheap (by simp [Socket.setClientStatus])
          (fun q _ hq => hw q (Or.inr hq)) fun _ => hw p (Or.inl rfl)⟩
    | ECHO =>
        rw [sat_bind]
        exact talking_write hsocket hssl (by decide) hw fun w _ hw => hwritten w hw
    | BYE =>
        rw [sat_bind]
        exact talking_write hsocket hssl (by decide) hw fun w _ hw => hwritten w hw
    | NONE => exact absurd hnow hstatus
  next hwritable =>
    exact ⟨htouches.similar, h.touched htouches hp hsocket hstatus
      (fun q hqp hq => hw q ⟨hqp, hq⟩) (hidle (by simpa using hwritable))⟩

/-- A client that has just been heard is answered. -/
theorem talking_answerHeard (h : Talks descriptor P s) (htouches : Touches p s s')
    (hp : p ≠ unixSocket) (hsocket : s'.heap p = some socket) (hssl : socket.isSslSocket = true)
    (hstatus : socket.clientStatus ≠ .NONE) (hw : ∀ q, q ≠ p ∧ P q → (w q).Fluent) :
    Sat dialogues anyReply Attentive
      (do
        modifySocket p (Socket.setRevents POLLOUT)
        Mydisp.answerClient p)
      (fun s' w' _ => s.Similar s' ∧ Talking descriptor s' w') s' w := by
  rw [sat_bind, sat_modifySocket]
  have hheap : (s'.modifySocket p (Socket.setRevents POLLOUT)).heap p =
      some (socket.setRevents POLLOUT) := by
    simp [hsocket]
  have hwritable : (socket.setRevents POLLOUT).isWriteAvailable = true :=
    show hasBit POLLOUT POLLOUT = true by decide
  apply talking_answerClient h (htouches.modifySocket .answer) hp hheap hssl hstatus hw
  intro hno
  rw [hwritable] at hno
  contradiction

/-- The dispatcher answers whatever it reads. -/
theorem talking_processClient (h : Talking descriptor s w) (hp : p ≠ unixSocket)
    (hsocket : s.heap p = some socket) :
    Sat dialogues anyReply Attentive (Mydisp.processClient p)
      (fun s' w' _ => s.Similar s' ∧ Talking descriptor s' w') s w := by
  have hssl := h.shape.isSslSocket hp hsocket
  have hstatus := h.status p socket hp hsocket
  have htouches := Touches.refl p s
  have hothers : ∀ q, q ≠ p ∧ (w q).Fluent → (w q).Fluent := fun q hq => hq.2
  rw [Mydisp.processClient, sat_bind, sat_deref_of_some hsocket, sat_ite]
  split
  next => exact ⟨Memory.Similar.refl s, h⟩
  next =>
    rw [sat_ite]
    split
    next =>
      rw [sat_bind]
      refine sat_ask_quiet (fluent_quiet (I := fun _ => True)) (by trivial) trivial hothers
        fun buffer w' hw => ?_
      rw [sat_bind, read, sat_bind, sat_deref_of_some hsocket, sat_ite, if_pos hssl, sat_bind]
      apply sat_ask_keeps (fluent_quiet (I := fun _ => True)).act hw
      · exact fun _ _ => trivial
      intro w' r w'' hw hreply _
      obtain ⟨d, hheard, rfl⟩ := Option.map_eq_some_iff.mp hreply
      -- what has been read is owed an answer, unless the connection is broken
      have howed : ∀ q, q ≠ p ∧ (w q).Fluent → (Function.update w' p d q).Fluent := by
        intro q hq
        rw [Function.update_of_ne hq.1]
        exact hw q hq
      have hfailed : r.ret ≤ 0 → (Function.update w' p d p).Fluent := by
        intro hret
        rw [Function.update_self]
        exact Dialogue.fluent_heard hret hheard
      rw [sat_pure, sat_ite]
      split
      next hzero =>
        rw [sat_bind]
        apply talking_write hsocket hssl (by decide) howed
        intro w' written hw
        rw [sat_ite]
        split
        next =>
          exact ⟨Memory.Similar.refl s, h.touched htouches hp hsocket hstatus
            (fun q _ hq => hw q (Or.inr hq)) fun _ => hw p (Or.inl rfl)⟩
        next =>
          exact talking_answerClient h htouches hp hsocket hssl hstatus
            (fun q hq => hw q (Or.inr hq.2)) fun _ _ => hw p (Or.inl rfl)
      next hzero =>
        rw [sat_ite]
        split
        next hpos =>
          rw [sat_bind, sat_when]
          split
          next =>
            rw [sat_modifySocket]
            have hheap : (s.modifySocket p (Socket.setClientStatus .BYE)).heap p =
                some (socket.setClientStatus .BYE) := by
              simp [hsocket]
            exact talking_answerHeard h (htouches.modifySocket .bye) hp hheap hssl
              (by simp [Socket.setClientStatus]) howed
          next => exact talking_answerHeard h htouches hp hsocket hssl hstatus howed
        next hneg =>
          exact ⟨Memory.Similar.refl s, h.touched htouches hp hsocket hstatus
            (fun q hqp hq => howed q ⟨hqp, hq⟩) fun _ => hfailed (by omega)⟩
    next =>
      exact talking_answerClient h htouches hp hsocket hssl hstatus hothers
        fun _ hgreeted => h.greeted p ⟨hp, socket, hsocket, hgreeted⟩

end Client

/-! ## The main loop -/

section MainLoop

variable {descriptor : Int} {fuel cycles : Nat} {p : Ptr} {ps : List Ptr}
variable {s s' : Memory} {w w' : Ptr → Dialogue}

/-- At the poll no client waits in vain. -/
theorem attentive_poll (h : Talking descriptor s w)
    (hheeded : ∀ p ∈ s.socketsList.sockets, Heeded s p)
    (hw : ∀ p, (w p).Fluent → (w' p).Fluent) {timeout : Int} :
    Attentive s.reset w' (.poll (s.pollInfo s.socketsList.sockets) timeout) := by
  change List.Forall₂ _ s.reset.socketsList.sockets _
  rw [Memory.pollInfo_eq_map h.shape.nodup, Memory.reset_socketsList,
    List.forall₂_map_right_iff, List.forall₂_same]
  intro p hp
  refine ⟨(s.similar_reset.descriptorOf p).symm, fun hpu hstalled => ?_⟩
  obtain ⟨socket, hsocket⟩ := Option.ne_none_iff_exists'.mp (h.shape.live p (Or.inl hp))
  have htype : socket.socketType ≠ .UNIX := by
    rw [show socket.socketType = .SSL from
      congrArg (·.2.2.2.1) (h.shape.client p socket hpu hsocket)]
    decide
  by_cases hhello : socket.clientStatus = .HELLO
  · exact Or.inl ((Mydisp.hello_reset s p).mpr ⟨socket, hsocket, hhello⟩)
  · right
    refine ⟨hw p (h.greeted p ⟨hpu, socket, hsocket, hhello⟩) hstalled, ?_⟩
    simpa [Memory.pollFd, hsocket] using hheeded p hp socket hsocket htype

/-- The poll. -/
theorem talking_pollSockets (h : Talking descriptor s w)
    (hheeded : ∀ p ∈ s.socketsList.sockets, Heeded s p)
    (hempty : s.outputSocketsList.sockets = []) :
    Sat dialogues anyReply Attentive pollSockets (fun s' w' _ => Talking descriptor s' w') s w := by
  have hreset : ∀ w' : Ptr → Dialogue, (∀ p, (w p).Fluent → (w' p).Fluent) →
      Talking descriptor s.reset w' := fun w' hw =>
    (h.mono hw).keeps (h.shape.similar s.similar_reset) (keepsStatus_reset s)
  apply sat_pollSockets
  · exact fun _ _ _ => trivial
  · apply sat_ask_keeps (fluent_quiet (I := fun _ => True)).act fun p (hp : (w p).Fluent) => hp
    · exact fun w' hw => attentive_poll h hheeded hw
    · intro w₁ r w' hw hreply _
      obtain rfl := Option.some.inj hreply
      refine ⟨fun _ _ => hreset w₁ hw, fun _ _ => hreset w₁ hw, fun _ => hreset w₁ hw,
        fun _ _ => ?_⟩
      exact (h.mono hw).keeps (h.shape.polled hempty r.revents)
        (keepsStatus_polled h.shape.nodup r.revents)

/-- A message of the listener brings at most a client that is to be greeted. -/
theorem talking_dispatcherProcess (h : Talking descriptor s w) :
    Sat dialogues anyReply Attentive (Mydisp.dispatcherProcess unixSocket fuel)
      (fun s' w' _ => Talking descriptor s' w' ∧
        s'.outputSocketsList = s.outputSocketsList) s w := by
  let I (s' : Memory) : Prop := Talks descriptor (fun p => (w p).Fluent) s' ∧
    s'.outputSocketsList = s.outputSocketsList
  have hbackground : Quiet dialogues anyReply Attentive I (Mydisp.Background descriptor)
      (fun w' => ∀ p, (w p).Fluent → (w' p).Fluent) := by
    apply fluent_quiet.mono fun _ hI => hI
    apply Mydisp.forall_background
    · apply Mydisp.forall_configuring <;> intros <;> trivial
    · exact fun _ _ _ => trivial
  have haccepting : Quiet dialogues anyReply Attentive (fun _ => True) (Mydisp.Accepting 0)
      (fun w' => ∀ p, (w p).Fluent → (w' p).Fluent) := by
    apply fluent_quiet.mono fun _ hI => hI
    apply Mydisp.forall_accepting
    · apply Mydisp.forall_receiving <;> intros <;> trivial
    · apply Mydisp.forall_admitting <;> intros <;> trivial
  apply (Mydisp.sat_dispatcherProcess_quiet (I := I)
    (Q := fun s' w' _ => I s' ∧ ∀ p, (w p).Fluent → (w' p).Fluent) hbackground haccepting
    _ _ _ _ _ _ ⟨h, rfl⟩ fun _ hp => hp).mono
  · rintro s' w' _ ⟨⟨h', houtput⟩, hw⟩
    exact ⟨h'.mono hw, houtput⟩
  · exact fun s' hI => hI.1.shape
  · exact fun s' _ => Nat.zero_le _
  · exact fun s' appCfg ssl cmptr hI => ⟨hI.1.globals appCfg ssl cmptr, hI.2⟩
  · exact fun s' w' tcp hI hw _ => ⟨⟨hI.1.join tcp, hI.2⟩, hw⟩
  · exact fun s' w' hI hw => ⟨⟨hI.1.refuse, hI.2⟩, hw⟩
  · exact fun s' w' ok hI hw => ⟨hI, hw⟩

/-- One entry of the output list. -/
theorem talking_processReEvents (h : Talking descriptor s w)
    (hp : p ∈ s.outputSocketsList.sockets) :
    Sat dialogues anyReply Attentive (Mydisp.processReEvents unixSocket fuel p)
      (fun s' w' _ => Talking descriptor s' w' ∧
        s'.outputSocketsList = s.outputSocketsList) s w := by
  have hlive := h.shape.live p (Or.inr (Or.inl hp))
  apply Mydisp.sat_processReEvents h.shape hlive
  · intro _
    apply (talking_dispatcherProcess h).mono
    rintro s' w' ok ⟨h', houtput⟩
    exact sat_note_quiet (fluent_quiet (I := fun _ => True)) (by trivial) trivial (fun _ hp => hp)
      fun w'' hw => ⟨h'.mono hw, houtput⟩
  · intro hpu
    obtain ⟨socket, hsocket⟩ := Option.ne_none_iff_exists'.mp hlive
    apply (talking_processClient h hpu hsocket).mono
    rintro s' w' ok ⟨hsim, h'⟩
    cases ok with
    | true => exact ⟨h', hsim.outputSocketsList⟩
    | false =>
        refine sat_note_quiet (fluent_quiet (I := fun _ => True)) (by trivial) trivial
          (fun _ hp => hp) fun w₁ hw₁ => ?_
        have hquiet := fluent_quiet (I := fun _ => True) (P := fun p => (w₁ p).Fluent)
        apply (sat_delSocket_quiet hquiet (fun _ => trivial) rfl rfl ?_).mono
        · rintro s'' w₂ _ ⟨hpruned, hw₂⟩
          refine ⟨(((h'.mono hw₁).mono hw₂).delSocket _).pruned hpruned, ?_⟩
          rw [hpruned.outputSocketsList]
          exact hsim.outputSocketsList
        · exact sat_note_quiet hquiet (by trivial) trivial (fun _ hp => hp)
            fun w₂ hw₂ => ⟨rfl, hw₂⟩

/-- No client that has been greeted waits in vain at a poll. -/
theorem attentive_mainLoop (h : Talking descriptor s w) :
    Sat dialogues anyReply Attentive (Mydisp.mainLoop unixSocket fuel cycles)
      (fun _ _ _ => True) s w := by
  have hend : ∀ s w, Talking descriptor s w → Sat dialogues anyReply Attentive (note .loopEnd)
      (fun s w _ => Talking descriptor s w) s w := fun s w h =>
    sat_note_quiet (fluent_quiet (I := fun _ => True)) (by trivial) trivial (fun _ hp => hp)
      fun w' hw => h.mono hw
  apply Mydisp.sat_mainLoop (Talking descriptor)
    (fun s w => Talking descriptor s w ∧ (∀ p ∈ s.socketsList.sockets, Heeded s p) ∧
      s.outputSocketsList.sockets = [])
    (Talking descriptor) (Talking descriptor)
    (fun ps s w => Talking descriptor s w ∧ ∀ p ∈ ps, p ∈ s.outputSocketsList.sockets)
  · intro s w h
    have hquiet := fluent_quiet (I := fun _ => True) (P := fun p => (w p).Fluent)
    apply (Mydisp.sat_prepare_heeded h.shape hquiet trivial (fun _ => trivial)
      fun _ hp => hp).mono
    rintro s' w' _ ⟨⟨hprepared, hheeded⟩, hw⟩
    exact ⟨(h.mono hw).prepared hprepared, hheeded, hprepared.output⟩
  · rintro s w ⟨h, hheeded, hempty⟩
    apply (talking_pollSockets h hheeded hempty).mono
    intro s w errorType h
    cases errorType with
    | NONE => exact ⟨h, fun p hp => hp⟩
    | _ => exact h
  · rintro p ps s w ⟨h, hcollected⟩
    apply (talking_processReEvents h (hcollected p (List.mem_cons_self ..))).mono
    rintro s' w' failed ⟨h', houtput⟩
    cases failed with
    | true => exact h'
    | false =>
        refine ⟨h', fun q hq => ?_⟩
        rw [houtput]
        exact hcollected q (List.mem_cons_of_mem p hq)
  · exact fun s w h => h.1
  · exact hend
  · exact fun s w h => (hend s w h).mono fun _ _ _ _ => trivial
  · exact h

end MainLoop

/-- The dispatcher enters its loop without clients. -/
theorem talking_started (descriptor : Nat) (w : Ptr → Dialogue) :
    Talking descriptor (Mydisp.started descriptor) w where
  shape := Mydisp.shape_started descriptor
  status p socket hp hsocket := by simp [Mydisp.started, hp] at hsocket
  greeted p hp := by
    obtain ⟨hpu, socket, hsocket, -⟩ := hp
    simp [Mydisp.started, hpu] at hsocket

end Myclnt

end SocketDispatcher
