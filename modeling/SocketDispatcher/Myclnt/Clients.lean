import SocketDispatcher.Library.Simulation
import SocketDispatcher.Myclnt.Dialogue

/-!
# The dispatcher and its clients

The clients of a dispatcher were described by the turns they take.  Here every
connection has the client's own program at its other end: the system of a dispatcher
and any number of clients, in which every call of a client happens between two steps of
the dispatcher.

Main results:

- Theorem {lit}`client_conforms`: the client's program takes turns.
- Theorem {lit}`nobody_waits_in_vain`: the dispatcher and a client that has been greeted
  never wait for each other.
-/

namespace SocketDispatcher

open Interaction

namespace Myclnt

/-! ## The client's end -/

namespace Dialogue

/-- The client reads. -/
def listens (d : Dialogue) (size : Nat) (r : Reply) : Option Dialogue :=
  if r.ret ≤ 0 then some d.fail
  else
    (takeFrom d.toClient size r).map fun queue =>
      { d with toClient := queue, waiting := false }

/-- The client writes. -/
def speaks (d : Dialogue) (message : List Byte) (r : Reply) : Option Dialogue :=
  if r.ret ≤ 0 then some d.fail
  else
    (appendTo d.toDispatcher message r).map fun queue =>
      { d with toDispatcher := queue, waiting := true }

/-- The client reads next, or writes next, unless the connection is broken. -/
def Next (b : Bool) (d : Dialogue) : Prop :=
  d.waiting = b ∨ d.broken = true

section Turns

variable {d d' : Dialogue} {size : Nat} {message : List Byte} {r : Reply}

/-- A read of a client whose turn it is to read. -/
theorem act_of_listens (h : d.Next true) (hlistens : d.listens size r = some d') :
    (∃ move, d.act move = some d') ∧ d'.Next false := by
  simp only [listens] at hlistens
  split at hlistens
  next =>
    obtain rfl := Option.some.inj hlistens
    exact ⟨⟨.leave, rfl⟩, Or.inr rfl⟩
  next hret =>
    obtain ⟨queue, hqueue, rfl⟩ := Option.map_eq_some_iff.mp hlistens
    simp only [takeFrom] at hqueue
    split at hqueue
    next hbytes =>
      obtain ⟨hlength, -, hqueued⟩ := hbytes
      obtain rfl := Option.some.inj hqueue
      have hread : r.bytes.length ≠ 0 := by omega
      refine ⟨⟨.hear r.bytes.length, ?_⟩, Or.inl rfl⟩
      simp only [act]
      rw [if_pos ⟨h, hread, hqueued.length_le⟩]
    next => contradiction

/-- A write of a client whose turn it is to write. -/
theorem act_of_speaks (h : d.Next false) (hmessage : message ≠ [])
    (hspeaks : d.speaks message r = some d') :
    (∃ move, d.act move = some d') ∧ d'.Next true := by
  simp only [speaks] at hspeaks
  split at hspeaks
  next =>
    obtain rfl := Option.some.inj hspeaks
    exact ⟨⟨.leave, rfl⟩, Or.inr rfl⟩
  next hret =>
    obtain ⟨queue, hqueue, rfl⟩ := Option.map_eq_some_iff.mp hspeaks
    simp only [appendTo] at hqueue
    split at hqueue
    next =>
      obtain rfl := Option.some.inj hqueue
      have hsent := take_ne_nil hmessage (Int.not_le.mp hret)
      refine ⟨⟨.say (message.take r.ret.toNat), ?_⟩, Or.inl rfl⟩
      simp only [act]
      rw [if_pos ⟨h, hsent⟩]
    next => contradiction

end Turns

end Dialogue

/-- The kernel under a client.  The dispatcher may read and write between two calls, which
is no turn of the client's, and the connection may break. -/
def clientEnd : Kernel Dialogue Call Reply Dialogue where
  reply d c r :=
    match c with
    | .bioRead _ _ size => d.listens size r
    | .bioWrite _ message => d.speaks message r
    | _ => some d
  act d d' :=
    if d'.waiting = d.waiting ∧ (d.broken = true → d'.broken = true) then some d' else none

/-- The calls of a client before and between its turns. -/
def Unspoken : Call → Prop
  | .bioRead .. | .bioWrite .. => False
  | _ => True

theorem clientEnd_unspoken {d d' : Dialogue} {c : Call} {r : Reply} (hc : Unspoken c)
    (h : clientEnd.reply d c r = some d') : d' = d := by
  cases c with
  | bioRead => exact hc.elim
  | bioWrite => exact hc.elim
  | _ => exact (Option.some.inj h).symm

theorem next_act {b : Bool} : ∀ d a d', clientEnd.act d a = some d' →
    Dialogue.Next b d → Dialogue.Next b d' := by
  intro d a d' hact h
  simp only [clientEnd] at hact
  split at hact
  next hsame =>
    obtain rfl := Option.some.inj hact
    obtain ⟨hwaiting, hbroken⟩ := hsame
    exact h.imp (fun h => hwaiting.trans h) hbroken
  next => contradiction

/-- A move of one client is a move of the surroundings of the dispatcher. -/
theorem dialogues_acts {w : Ptr → Dialogue} {p : Ptr} {d : Dialogue} {move : ClientMove}
    (hact : (w p).act move = some d) : dialogues.Acts w (Function.update w p d) :=
  Relation.ReflTransGen.single ⟨(p, move), Option.map_eq_some_iff.mpr ⟨d, hact, rfl⟩⟩

/-! ## The client's program -/

section Client

variable {p q : Ptr} {s : Memory} {d : Dialogue} {socket : Socket} {iterations : Nat}
variable {b : Bool}

theorem unspoken_quiet {I : Memory → Prop} :
    Quiet clientEnd anyReply (MovesAt clientEnd dialogues p) I Unspoken
      (Dialogue.Next b) where
  guarantee s d c _ hc _ r d' hreply w hw := by
    obtain rfl := clientEnd_unspoken hc hreply
    rw [← hw, Function.update_eq_self]
    exact Kernel.acts_refl _ _
  reply s d c r d' _ hc hreply _ h := (clientEnd_unspoken hc hreply) ▸ h
  act := next_act

/-- A client may read when it is its turn to. -/
theorem conforms_read (hsocket : s.heap q = some socket) (hssl : socket.isSslSocket = true)
    {buffer : List Byte} {size : Nat} {Q : Memory → Dialogue → Int × List Byte → Prop}
    (h : d.Next true) (hQ : ∀ d a, Dialogue.Next false d → Q s d a) :
    Sat clientEnd anyReply (MovesAt clientEnd dialogues p) (read q buffer size) Q s d := by
  rw [read, sat_bind, sat_deref_of_some hsocket, sat_ite, if_pos hssl, sat_bind]
  apply sat_ask_keeps next_act h
  · intro d h r d' hreply w hw
    obtain ⟨⟨move, hact⟩, -⟩ := Dialogue.act_of_listens h hreply
    exact dialogues_acts (hw.symm ▸ hact)
  · intro d r d' h hreply _
    exact hQ d' _ (Dialogue.act_of_listens h hreply).2

/-- A client may write when it is its turn to. -/
theorem conforms_write (hsocket : s.heap q = some socket) (hssl : socket.isSslSocket = true)
    {message : List Byte} {Q : Memory → Dialogue → Int → Prop} (hmessage : message ≠ [])
    (h : d.Next false) (hQ : ∀ d a, Dialogue.Next true d → Q s d a) :
    Sat clientEnd anyReply (MovesAt clientEnd dialogues p) (write q message) Q s d := by
  rw [write, sat_bind, sat_deref_of_some hsocket, sat_ite, if_pos hssl, sat_bind]
  apply sat_ask_keeps next_act h
  · intro d h r d' hreply w hw
    obtain ⟨⟨move, hact⟩, -⟩ := Dialogue.act_of_speaks h hmessage hreply
    exact dialogues_acts (hw.symm ▸ hact)
  · intro d r d' h hreply _
    exact hQ d' _ (Dialogue.act_of_speaks h hmessage hreply).2

/-- An empty line is replaced, so something is sent in any case. -/
theorem line_ne_nil (word : List Byte) : line word ≠ [] := by
  unfold line
  split
  · decide
  · assumption

/-- Body of the loop: one read, and one write. -/
theorem conforms_converse (hsocket : s.heap q = some socket)
    (hssl : socket.isSslSocket = true) (h : d.Next true) :
    Sat clientEnd anyReply (MovesAt clientEnd dialogues p) (converse q)
      (fun s' d' _ => s' = s ∧ d'.Next true) s d := by
  have hquiet (b : Bool) := unspoken_quiet (p := p) (b := b) (I := fun _ => True)
  rw [converse_eq, sat_bind]
  refine sat_ask_quiet (hquiet true) (by trivial) trivial h fun recvBuffer d h => ?_
  rw [sat_bind]
  apply conforms_read hsocket hssl h
  intro d _ h
  rw [sat_bind]
  refine sat_ask_quiet (hquiet false) (by trivial) trivial h fun userInputLine d h => ?_
  rw [sat_bind]
  apply conforms_write hsocket hssl (line_ne_nil _) h
  exact fun d _ h => ⟨rfl, h⟩

/-- Nothing is said before the handshake is over. -/
theorem conforms_createSocket (host : List Byte) (port : Nat) (h : d.Next true) :
    Sat clientEnd anyReply (MovesAt clientEnd dialogues p)
      (TcpSslConnectSocketFactory.createSocket host port)
      (fun s' d' q => d'.Next true ∧
        (q = nullptr ∨ ∃ socket, s'.heap q = some socket ∧ socket.isSslSocket = true)) s d := by
  have hask : ∀ {c d} {Q : Memory → Dialogue → Reply → Prop}, Unspoken c →
      Dialogue.Next true d → (∀ r d', Dialogue.Next true d' → Q s d' r) →
      Sat clientEnd anyReply (MovesAt clientEnd dialogues p) (Program.ask c) Q s d :=
    fun hc h hQ => sat_ask_quiet (unspoken_quiet (I := fun _ => True)) hc trivial h hQ
  rw [TcpSslConnectSocketFactory.createSocket, sat_bind]
  refine hask trivial h fun hostEntry d h => ?_
  cases hostEntry.data with
  | none => exact ⟨h, Or.inl rfl⟩
  | some h_length =>
      dsimp only
      rw [sat_ite]
      split
      · exact ⟨h, Or.inl rfl⟩
      · rw [sat_bind]
        refine hask trivial h fun sockfd d h => ?_
        rw [sat_dite]
        split
        · exact ⟨h, Or.inl rfl⟩
        · rw [sat_bind]
          refine hask trivial h fun connected d h => ?_
          rw [sat_ite]
          split
          · rw [sat_bind]
            exact hask trivial h fun _ d h => ⟨h, Or.inl rfl⟩
          · rw [sat_bind]
            refine hask trivial h fun handshake d h => ?_
            rw [sat_ite]
            split
            · rw [sat_bind]
              exact hask trivial h fun _ d h => ⟨h, Or.inl rfl⟩
            · rw [sat_makeShared]
              exact ⟨h, Or.inr ⟨_, by rw [Memory.alloc_heap, if_pos rfl], rfl⟩⟩

/-- The client's program takes turns. -/
theorem client_conforms (p : Ptr) (iterations : Nat) :
    Safe clientEnd anyReply (MovesAt clientEnd dialogues p) ⟨booted, {}, main iterations⟩ := by
  have hmain : Sat clientEnd anyReply (MovesAt clientEnd dialogues p) (main iterations)
      (fun _ _ _ => True) booted {} := by
    refine (conforms_createSocket _ _ (Or.inl rfl)).seq fun s d q hcreated => ?_
    rw [sat_ite]
    split
    next => trivial
    next hnull =>
      obtain ⟨h, hq⟩ := hcreated
      obtain ⟨socket, hsocket, hssl⟩ := hq.resolve_left hnull
      have hloop : Sat clientEnd anyReply (MovesAt clientEnd dialogues p)
          (Program.repeatUntil (converse q) iterations) (fun _ d _ => Dialogue.Next true d)
          s d := by
        apply sat_repeatUntil (fun s d => s.heap q = some socket ∧ Dialogue.Next true d)
          (fun _ d => Dialogue.Next true d) _ iterations ⟨hsocket, h⟩
        rintro s d ⟨hsocket, h⟩
        apply (conforms_converse hsocket hssl h).mono
        rintro _ d stop ⟨rfl, h⟩
        cases stop with
        | true => exact h
        | false => exact ⟨hsocket, h⟩
      refine hloop.seq fun s d _ h => ?_
      rw [sat_bind]
      have hrelease := within_release (I := fun _ => True) (P := Unspoken) (fun _ _ _ => trivial)
        (fun _ => trivial) q
      exact (hrelease.sat unspoken_quiet trivial h).mono fun _ _ _ _ => trivial
  exact hmain.safe

end Client

/-! ## The system -/

/-- The surroundings of a dispatcher: on every connection a client runs its program. -/
def clients : Kernel (Ptr → Config Memory Dialogue Call Reply Int) Call Reply (Ptr × Reply) :=
  clientEnd.among dialogues

/-- What the dispatcher does on a connection is no turn of the client. -/
theorem clientEnd_acts {w w' : Ptr → Dialogue} {c : Call} {r : Reply}
    (hreply : dialogues.reply w c r = some w') (p : Ptr) : clientEnd.Acts (w p) (w' p) := by
  have hone : ∀ {d d' : Dialogue}, d'.waiting = d.waiting → (d.broken = true → d'.broken = true) →
      clientEnd.Acts d d' := fun hwaiting hbroken =>
    Relation.ReflTransGen.single ⟨_, if_pos ⟨hwaiting, hbroken⟩⟩
  have hupdate : ∀ {q : Ptr} {d : Dialogue}, clientEnd.Acts (w q) d →
      clientEnd.Acts (w p) (Function.update w q d p) := by
    intro q d hacts
    by_cases hp : p = q
    · subst hp
      rw [Function.update_self]
      exact hacts
    · rw [Function.update_of_ne hp]
      exact Kernel.acts_refl _ _
  cases c with
  | bioRead q buffer size =>
      obtain ⟨d, hheard, rfl⟩ := Option.map_eq_some_iff.mp hreply
      apply hupdate
      rcases Dialogue.heard_cases hheard with rfl | ⟨-, queue, rfl⟩
      · exact hone rfl fun _ => rfl
      · exact hone rfl id
  | bioWrite q message =>
      obtain ⟨d, htold, rfl⟩ := Option.map_eq_some_iff.mp hreply
      apply hupdate
      rcases Dialogue.told_cases htold with rfl | ⟨-, rfl⟩
      · exact hone rfl fun _ => rfl
      · exact hone rfl id
  | _ => exact Option.some.inj hreply ▸ Kernel.acts_refl _ _

/-- In the system of the dispatcher and its clients, whenever the dispatcher polls, every
listed client that waits for a reply, with none on its way, has not been greeted yet, or has
sent bytes that the dispatcher polls it for. -/
theorem nobody_waits_in_vain (descriptor fuel cycles : Nat) (iterations : Ptr → Nat) :
    Safe clients anyReply (fun m peers => Attentive m fun p => (peers p).world)
      ⟨Mydisp.started descriptor, fun p => ⟨booted, {}, main (iterations p)⟩,
        Mydisp.mainLoop Mydisp.unixSocket fuel cycles⟩ := by
  have hsimulates : clients.Simulates dialogues
      (fun peers => ∀ p, Safe clientEnd anyReply (MovesAt clientEnd dialogues p) (peers p))
      fun peers p => (peers p).world :=
    among_simulates fun _ _ _ _ hreply p => clientEnd_acts hreply p
  have hdispatcher : Safe dialogues anyReply Attentive
      ⟨Mydisp.started descriptor, fun _ => {}, Mydisp.mainLoop Mydisp.unixSocket fuel cycles⟩ :=
    (attentive_mainLoop (talking_started descriptor fun _ => {})).safe
  exact hdispatcher.simulate hsimulates fun p => client_conforms p (iterations p)

/-- The client on the third connection connects, is received by a configured dispatcher and
greeted, and sends a letter. -/
def sentLetter : List ((Ptr × Reply) ⊕ Reply) :=
  let connects : List Reply :=
    [{ data := some 4, bytes := [127, 0, 0, 1] }, { ret := 3 }, {}, { ret := 1 }]
  let greets : List Reply :=
    [{}, { ret := 1, revents := [NO_EVENTS, POLLOUT] }, { ret := 10 }, {}]
  let sends : List Reply :=
    [{}, { ret := 10, bytes := ascii "HELLO!!!!\n" }, { bytes := ascii "A" }, { ret := 1 }]
  connects.map (fun r => .inl (3, r)) ++
    Mydisp.configured true Mydisp.configuration ++ Mydisp.arrival true 4 ++
    greets.map .inr ++ sends.map fun r => .inl (3, r)

-- now it waits, and the dispatcher has not read the letter yet
example : ((exec clients ⟨Mydisp.started 3, fun _ => ⟨booted, {}, main 2⟩,
    Mydisp.mainLoop Mydisp.unixSocket 1 4⟩ sentLetter).map fun cfg =>
      let d := (cfg.world 3).world
      decide (d.waiting = true ∧ d.broken = false ∧ d.toClient = [] ∧
        d.toDispatcher = ascii "A")) = some true := by
  decide

end Myclnt

end SocketDispatcher
