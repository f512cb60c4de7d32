import SocketDispatcher.Mydisp.Lifecycle

/-!
# Conduct towards clients and the listener

What the dispatcher does to its peers, over whole runs of {lit}`main`.  The record of the
surroundings says whether a client has been refused and what has become of it since.

Main results:

- Theorem {lit}`turns_away`: a received client joins the list, or is told that it is full
  and its descriptor is closed next.  Whatever the peers send and whatever the calls return,
  no assertion fails, and the dispatcher dies only of a client that it receives without a
  context.
-/

namespace SocketDispatcher

open Interaction

namespace Mydisp

/-! ## Received clients -/

/-- How far the dispatcher has come with a received client. -/
inductive Refusal where
  /-- Nobody is being received or refused. -/
  | idle
  /-- A client has been received. -/
  | received
  /-- The list was full for this client. -/
  | refused (p : Ptr) (d : Int)
  /-- The client has been told so. -/
  | told (d : Int)
deriving DecidableEq

def recordRefusal : Refusal → Call → Reply → Refusal
  | .idle, .note (.createSocket (some _)), _ => .received
  | .received, .note (.putSocket p d stored), _ => if stored then .idle else .refused p d
  | .refused _ d, .bioWrite _ _, _ => .told d
  | .told _, .close _, _ => .idle
  | w, _, _ => w

/-- The texts that {lit}`processClient` sends. -/
def clientTexts : List (List Byte) :=
  [ascii "HELLO!!!!\n", ascii "ECHOO!!!!\n", ascii "BYE...\n", ascii "EXIT\n"]

/-- The socket is a client whose events are being handled. -/
def Handled (m : Memory) (p : Ptr) : Prop :=
  p ∈ m.outputSocketsList.sockets ∧ p ≠ unixSocket

/-- The client is listed, or there was no room for it and it is in no list. -/
def Offered (m : Memory) (p : Ptr) (stored : Bool) : Prop :=
  if stored then p ∈ m.socketsList.sockets
  else m.socketsList.sockets.length = MAX_SOCKETS ∧ p ∉ m.socketsList.sockets ∧
    p ∉ m.outputSocketsList.sockets

/-- A received client is offered to the list at once, unless there is no context, of which
the dispatcher dies.  A refused client is told so and closed at once, and it is in no list.
Other than that, only clients with events are read and written, they are never given that
message, the connection to the listener is only read, and nothing crashes. -/
def Courteous (m : Memory) : Refusal → Call → Prop
  | .received, .note (.putSocket p _ stored) => Offered m p stored
  | .received, c => c = .crash ∧ m.ssl.sslGlobalCtx = none
  | .refused p _, c => c = .bioWrite p busyMessage
  | .told d, c => c = .close d
  | .idle, .bioRead p _ _ => Handled m p
  | .idle, .bioWrite p message => Handled m p ∧ message ∈ clientTexts
  | .idle, .recv fd _ _ _ => fd = m.descriptorOf unixSocket
  | .idle, .recvmsg fd _ _ => fd = m.descriptorOf unixSocket
  | .idle, .note (.putSocket p _ stored) =>
      p = unixSocket ∧ stored = true ∧ p ∈ m.socketsList.sockets
  | .idle, .write _ _ => False
  | .idle, .sendmsg _ _ _ => False
  | .idle, .crash => False
  | .idle, _ => True

/-! ## Frames without crashes -/

section Frames

variable {I : Memory → Prop} {P : Call → Prop}

/-- Dereferencing a live pointer does not crash. -/
theorem within_deref_live {α : Type} {p : Ptr} {f : Socket → Proc α}
    (hlive : ∀ s, I s → s.heap p ≠ none)
    (hf : ∀ s socket, I s → s.heap p = some socket → Within I P (f socket)) :
    Within I P (deref p >>= f) := by
  rw [deref_bind]
  intro s hs
  dsimp only
  cases hp : s.heap p with
  | some socket => exact hf s socket hs hp
  | none => exact absurd hp (hlive s hs)

/-- The calls of a conversation with a live client. -/
inductive Speaking (p : Ptr) : Call → Prop where
  | automatic (size : Nat) : Speaking p (.automatic size)
  | read (buffer : List Byte) (size : Nat) : Speaking p (.bioRead p buffer size)
  | write {message : List Byte} (hmessage : message ∈ clientTexts) :
      Speaking p (.bioWrite p message)

/-- A conversation with a live client. -/
theorem within_processClient_live {p : Ptr}
    (hlive : ∀ s, I s → ∃ socket, s.heap p = some socket ∧ socket.isSslSocket = true)
    (hkeep : ∀ s f, Talk f → I s → I (s.modifySocket p f)) :
    Within I (Speaking p) (processClient p) := by
  have hne : ∀ s, I s → s.heap p ≠ none := by
    intro s hs hnone
    obtain ⟨socket, hsocket, -⟩ := hlive s hs
    rw [hnone] at hsocket
    contradiction
  have hssl : ∀ s socket, I s → s.heap p = some socket → socket.isSslSocket = true := by
    intro s socket hs hsocket
    obtain ⟨socket', hsocket', hssl⟩ := hlive s hs
    rw [hsocket, Option.some.injEq] at hsocket'
    exact hsocket' ▸ hssl
  have hmodify : ∀ f, Talk f → Within I (Speaking p) (modifySocket p f) :=
    fun f hf => within_modify fun s hs => hkeep s f hf hs
  have hread : ∀ buffer size, Within I (Speaking p) (read p buffer size) := by
    intro buffer size
    refine within_deref_live hne fun s socket hs hsocket => ?_
    rw [if_pos (hssl s socket hs hsocket)]
    exact within_bind (within_ask (.read buffer size)) fun r => within_pure _
  have hwrite : ∀ message ∈ clientTexts, Within I (Speaking p) (write p message) := by
    intro message hmessage
    refine within_deref_live hne fun s socket hs hsocket => ?_
    rw [if_pos (hssl s socket hs hsocket)]
    exact within_bind (within_ask (.write hmessage)) fun r => within_pure _
  have hanswer : Within I (Speaking p) (answerClient p) := by
    refine within_deref_live hne fun s socket _ _ => within_ite ?_ (within_pure _)
    cases socket.clientStatus with
    | HELLO =>
        refine within_bind (hwrite _ (by simp [clientTexts])) fun bytes => ?_
        exact within_bind (hmodify _ .echo) fun _ => within_pure _
    | ECHO => exact within_bind (hwrite _ (by simp [clientTexts])) fun bytes => within_pure _
    | BYE => exact within_bind (hwrite _ (by simp [clientTexts])) fun bytes => within_pure _
    | NONE => exact within_pure _
  refine within_deref_live hne fun s socket _ _ => ?_
  refine within_ite (within_pure _) (within_ite ?_ hanswer)
  refine within_bind (within_ask (.automatic 100)) fun buffer => ?_
  refine within_bind (hread _ _) fun bytes => within_ite ?_ (within_ite ?_ (within_pure _))
  · refine within_bind (hwrite _ (by simp [clientTexts])) fun written => ?_
    exact within_ite (within_pure _) hanswer
  · refine within_bind (within_when (hmodify _ .bye)) fun _ => ?_
    exact within_bind (hmodify _ .answer) fun _ => hanswer

end Frames

/-! ## The main loop -/

/-- The calls that neither receive a client, nor refuse one, nor speak to one. -/
def Harmless (descriptor : Int) : Call → Prop
  | .recv fd .. | .recvmsg fd .. => fd = descriptor
  | .automatic _ | .malloc | .poll .. | .close _ => True
  | .sslCtxNew | .sslLoad .. | .errGetError => True
  | .note (.putSocket ..) | .note (.createSocket (some _)) => False
  | .note _ => True
  | _ => False

section MainLoop

variable {descriptor : Int} {fuel cycles : Nat} {s : Memory}

theorem recordRefusal_of_harmless {c : Call} (hc : Harmless descriptor c) (r : Reply) :
    recordRefusal .idle c r = .idle := by
  cases c with
  | note n =>
      cases n with
      | createSocket o =>
          cases o with
          | none => rfl
          | some d => exact hc.elim
      | _ => rfl
  | _ => rfl

/-- Between two clients, harmless calls are allowed. -/
theorem courteous_of_harmless {c : Call} (hs : s.descriptorOf unixSocket = descriptor)
    (hc : Harmless descriptor c) : Courteous s .idle c := by
  cases c with
  | note n => cases n <;> first | exact hc.elim | trivial
  | recv => exact Eq.trans hc hs.symm
  | recvmsg => exact Eq.trans hc hs.symm
  | _ => first | exact hc.elim | trivial

theorem harmless_quiet {I : Memory → Prop} {P : Call → Prop}
    (hI : ∀ s, I s → s.descriptorOf unixSocket = descriptor)
    (hP : ∀ c, P c → Harmless descriptor c) :
    Quiet (observer recordRefusal) anyReply Courteous I P (· = .idle) := by
  apply observer_quiet
  · exact fun s c hs hc => courteous_of_harmless (hI s hs) (hP c hc)
  · exact fun c r hc => recordRefusal_of_harmless (hP c hc) r

/-- Closing and marking are harmless in every memory. -/
theorem marking_quiet : Quiet (observer recordRefusal) anyReply Courteous (fun _ => True)
    (fun c => (∃ d, c = .close d) ∨ ∃ n, c = .note n ∧ ∀ d, Harmless d c) (· = .idle) := by
  apply observer_quiet
  · rintro s _ - (⟨d, rfl⟩ | ⟨n, rfl, hn⟩)
    · trivial
    · exact courteous_of_harmless rfl (hn _)
  · rintro _ r (⟨d, rfl⟩ | ⟨n, rfl, hn⟩)
    · rfl
    · exact recordRefusal_of_harmless (hn 0) r

/-- Marking a program point. -/
theorem courteous_note {n : Note} (hn : ∀ d, Harmless d (.note n))
    {Q : Memory → Refusal → Unit → Prop} (hQ : Q s .idle ()) :
    Sat (observer recordRefusal) anyReply Courteous (note n) Q s .idle := by
  refine sat_note_quiet marking_quiet (Or.inr ⟨n, rfl, hn⟩) trivial rfl ?_
  rintro _ rfl
  exact hQ

/-- A received client joins the list, or is told that there is no room and closed, or the
dispatcher dies without a context. -/
theorem courteous_acceptClient {tcp : Socket} {Q : Memory → Refusal → Unit → Prop}
    (hs : Shape descriptor s) (hjoin : Q (join s tcp) .idle ()) (hrefuse : Q (refuse s) .idle ()) :
    Sat (observer recordRefusal) anyReply Courteous (acceptClient s.next) Q (s.alloc tcp)
      .received := by
  apply sat_acceptClient hs.toTidy
  · intro hctx w₁ hacts
    rw [(Kernel.acts_iff_of_isEmpty _).mp hacts]
    exact ⟨rfl, hctx⟩
  · intro hroom
    have hput := (SocketsList.putSocket_eq_true_iff s.socketsList (s.next + 1)).mpr hroom
    rw [sat_note, sat_ask_observer]
    exact ⟨SocketsList.mem_putSocket_self hput, fun _ => hjoin⟩
  · intro hfull
    have hnew : ¬s.Referenced (s.next + 1) := hs.not_referenced (Nat.le_succ _)
    rw [sat_note, sat_ask_observer]
    refine ⟨⟨hfull.trans hs.maxSize, fun hmem => hnew (Or.inl hmem),
      fun hmem => hnew (Or.inr (Or.inl hmem))⟩, fun _ => ?_⟩
    rw [sat_ask_observer]
    refine ⟨rfl, fun _ => ?_⟩
    rw [sat_ask_observer]
    exact ⟨rfl, fun _ => hrefuse⟩

/-- What a cycle keeps while it handles the collected sockets. -/
def Serving (descriptor : Int) (output : SocketsList Ptr) (s : Memory) : Prop :=
  Shape descriptor s ∧ s.outputSocketsList = output

theorem serving_quiet {output : SocketsList Ptr} : Quiet (observer recordRefusal) anyReply Courteous
    (Serving descriptor output) (Harmless descriptor) (· = .idle) :=
  harmless_quiet (fun _ hs => hs.1.descriptorOf_unix) fun _ hc => hc

theorem courteous_dispatcherProcess {output : SocketsList Ptr} (hs : Serving descriptor output s) :
    Sat (observer recordRefusal) anyReply Courteous (dispatcherProcess unixSocket fuel)
      (fun s w _ => Serving descriptor output s ∧ w = .idle) s .idle := by
  have hglobals : ∀ s appCfg ssl cmptr, Serving descriptor output s →
      Serving descriptor output { s with appCfg := appCfg, ssl := ssl, cmptr := cmptr } :=
    fun s appCfg ssl cmptr h => ⟨h.1.globals appCfg ssl cmptr, h.2⟩
  apply sat_dispatcherProcess_live descriptor fun s w => Serving descriptor output s ∧ w = .idle
  · rintro s w w₁ ⟨hs, -⟩ hnone
    exact absurd hnone (hs.1.live _ hs.1.unix_referenced)
  · exact fun s w socket hinv hsocket => hinv.1.1.descriptor_unix hsocket
  · rintro s w size ⟨hs, hw⟩
    exact sat_ask_quiet serving_quiet (by trivial) hs hw fun _ w hw => ⟨hs, hw⟩
  · rintro s w buffer ⟨hs, hw⟩
    exact sat_ask_quiet serving_quiet (by exact rfl) hs hw fun _ w hw => ⟨hs, hw⟩
  · rintro s w ⟨hs, hw⟩
    let after (o : Option Int) : Refusal := if o.isSome then .received else .idle
    have hcreate : Sat (observer recordRefusal) anyReply Courteous (createSocket unixSocket fuel)
        (fun s' w' p => w' = after (createdDescriptor s' p) ∧
          Created (Serving descriptor output) s' p) s w := by
      apply sat_createSocket_live (fun o w => w = after o) serving_quiet trivial trivial
      · intro s socket buf hs hsocket
        exact hs.1.descriptor_unix hsocket
      · intro s w w₁ hs _ hnone
        exact absurd hnone (hs.1.live _ hs.1.unix_referenced)
      · rintro s _ o rfl
        rw [sat_note, sat_ask_observer]
        refine ⟨trivial, fun _ => ⟨rfl, ?_⟩⟩
        cases o <;> rfl
      · exact fun s cmptr h => hglobals s s.appCfg s.ssl cmptr h
      · exact hs
      · exact hw
    apply hcreate.mono
    rintro s w p ⟨rfl, ⟨rfl, hs⟩ | ⟨s₀, newfd, hpos, hs, rfl, rfl⟩⟩
    · rw [if_pos rfl]
      exact ⟨hs, rfl⟩
    · have hnull := hs.1.next_ne_nullptr
      have hafter : after (createdDescriptor (s₀.alloc (tcpSocket newfd hpos)) s₀.next) =
          .received := by
        rw [createdDescriptor, if_neg hnull]
        rfl
      rw [if_neg hnull, hafter]
      apply courteous_acceptClient hs.1
      · exact ⟨⟨hs.1.join, hs.2⟩, rfl⟩
      · exact ⟨⟨hs.1.refuse, hs.2⟩, rfl⟩
  · rintro s w buffer ⟨hs, hw⟩
    refine sat_ask_quiet serving_quiet (by exact rfl) hs hw fun r w hw => ?_
    refine ⟨fun _ => ⟨hs, hw⟩, fun _ => ?_⟩
    have hconfig : Within (Serving descriptor output) (Harmless descriptor)
        (processConfig (memcpy buffer r.bytes) r.ret.toNat) :=
      within_processConfig_openSsl (fun _ => trivial) (fun _ _ _ => trivial) trivial
        (fun _ _ => trivial) trivial (fun s appCfg h => hglobals s appCfg s.ssl s.cmptr h)
        (fun s ssl h => hglobals s s.appCfg ssl s.cmptr h) _ _
    exact hconfig.sat serving_quiet hs hw
  · exact fun s w ok hinv => hinv
  · exact ⟨hs, rfl⟩

/-- A conversation is with a client that has events. -/
theorem courteous_processClient {p : Ptr} (hs : Shape descriptor s) (hp : p ≠ unixSocket)
    (hcollected : p ∈ s.outputSocketsList.sockets) :
    Sat (observer recordRefusal) anyReply Courteous (processClient p)
      (fun s' w _ => s.Similar s' ∧ w = .idle) s .idle := by
  have hquiet : Quiet (observer recordRefusal) anyReply Courteous s.Similar (Speaking p)
      (· = .idle) := by
    apply observer_quiet
    · intro s' c hsim hc
      have hhandled : Handled s' p := ⟨hsim.outputSocketsList ▸ hcollected, hp⟩
      cases hc with
      | automatic size => trivial
      | read buffer size => exact hhandled
      | write hmessage => exact ⟨hhandled, hmessage⟩
    · intro c r hc
      cases hc <;> rfl
  have hconversation : Within s.Similar (Speaking p) (processClient p) := by
    apply within_processClient_live
    · intro s' hsim
      have hs' := hs.similar hsim
      have hlive : s'.heap p ≠ none :=
        hs'.live p (Or.inr (Or.inl (hsim.outputSocketsList ▸ hcollected)))
      obtain ⟨socket, hsocket⟩ := Option.ne_none_iff_exists'.mp hlive
      exact ⟨socket, hsocket, hs'.isSslSocket hp hsocket⟩
    · exact fun s' f hf hsim => hsim.trans (s'.similar_modifySocket p hf.identity)
  exact hconversation.sat hquiet (Memory.Similar.refl s) rfl

/-- The main loop is orderly, and it leaves nobody half refused. -/
theorem courteous_mainLoop (hs : Shape descriptor s) :
    Sat (observer recordRefusal) anyReply Courteous (mainLoop unixSocket fuel cycles)
      (fun _ w _ => w = .idle) s .idle := by
  apply sat_mainLoop_left (fun s w => Shape descriptor s ∧ w = Refusal.idle)
    (fun s w => (Shape descriptor s ∧ s.outputSocketsList.sockets = []) ∧ w = Refusal.idle)
    (fun s w => Shape descriptor s ∧ w = Refusal.idle) (fun _ w => w = Refusal.idle)
    (fun _ w => w = Refusal.idle) (fun ps s w =>
      (Shape descriptor s ∧ ∀ p ∈ ps, p ∈ s.outputSocketsList.sockets) ∧ w = Refusal.idle)
  · rintro s w ⟨hs, hw⟩
    apply (sat_prepare_live hs marking_quiet (Or.inr ⟨_, rfl, fun _ => trivial⟩)
      (fun d => Or.inl ⟨d, rfl⟩) hw).mono
    rintro s' w _ ⟨hprepared, hw⟩
    exact ⟨⟨hs.prepared hprepared, hprepared.output⟩, hw⟩
  · rintro s w ⟨⟨hs, hempty⟩, hw⟩
    have hquiet : Quiet (observer recordRefusal) anyReply Courteous s.Similar (Harmless descriptor)
        (· = .idle) :=
      harmless_quiet (fun s' hsim => (hs.similar hsim).descriptorOf_unix) fun _ hc => hc
    apply (sat_pollSockets_quiet hquiet _ (fun _ _ => trivial) hw).mono
    · rintro s' w errorType ⟨rfl, hpolled⟩
      split at hpolled
      next hnone =>
        obtain ⟨revents, rfl⟩ := hpolled
        subst hnone
        exact ⟨⟨hs.polled hempty revents, fun p hp => hp⟩, rfl⟩
      next hfailed =>
        subst hpolled
        have hreset := hs.similar s.similar_reset
        cases errorType with
        | NONE => exact absurd rfl hfailed
        | ERROR => rfl
        | TIMEOUT => exact ⟨hreset, rfl⟩
        | INTERRUPTED => exact ⟨hreset, rfl⟩
    · intro hlength
      have hbounded := s.socketsList.bounded
      rw [hs.maxSize] at hbounded
      exact absurd hlength (Nat.not_lt.mpr (Nat.le_trans hbounded (by decide)))
  · rintro p ps s w ⟨⟨hs, hcollected⟩, rfl⟩
    have hp : p ∈ s.outputSocketsList.sockets := hcollected p (List.mem_cons_self ..)
    have htail : ∀ q ∈ ps, q ∈ s.outputSocketsList.sockets :=
      fun q hq => hcollected q (List.mem_cons_of_mem p hq)
    apply sat_processReEvents hs (hs.live p (Or.inr (Or.inl hp)))
    · intro _
      apply (courteous_dispatcherProcess ⟨hs, rfl⟩).mono
      rintro s' w ok ⟨hs', rfl⟩
      apply courteous_note (by intro; trivial)
      cases ok with
      | true => exact ⟨⟨hs'.1, hs'.2 ▸ htail⟩, rfl⟩
      | false => rfl
    · intro hpu
      apply (courteous_processClient hs hpu hp).mono
      rintro s' w ok ⟨hsim, rfl⟩
      have hs' := hs.similar hsim
      cases ok with
      | true => exact ⟨⟨hs', hsim.outputSocketsList ▸ htail⟩, rfl⟩
      | false =>
          apply courteous_note (by intro; trivial)
          apply (sat_delSocket_quiet marking_quiet (fun d => Or.inl ⟨d, rfl⟩) rfl rfl _).mono
          · rintro s'' w _ ⟨hpruned, hw⟩
            refine ⟨⟨(hs'.delSocket _).pruned hpruned, ?_⟩, hw⟩
            rw [hpruned.outputSocketsList]
            exact hsim.outputSocketsList ▸ htail
          · exact courteous_note (by intro; trivial) ⟨rfl, rfl⟩
  · exact fun s w h => ⟨h.1.1, h.2⟩
  · rintro s w ⟨hs, rfl⟩
    exact courteous_note (by intro; trivial) ⟨hs, rfl⟩
  · rintro s w rfl
    exact courteous_note (by intro; trivial) rfl
  · exact ⟨hs, rfl⟩

end MainLoop

/-! ## The whole program -/

/-- The record for the calls of {lit}`main`. -/
def recordMain : Refusal → UnixCall → Reply → Refusal
  | w, .system c, r => recordRefusal w c r
  | w, _, _ => w

/-- The connection is made before anybody is refused. -/
def CourteousMain (m : Memory) (w : Refusal) : UnixCall → Prop
  | .system c => Courteous m w c
  | _ => w = .idle

section Main

variable {W A : Type} {K : Kernel W Call Reply A} {H : Memory → W → Call → Reply → Prop}
variable {G : Memory → W → Call → Prop} {P : Call → Prop} {J : W → Prop} {s : Memory} {w : W}

/-- Where closing is quiet, so is the end of {lit}`main`. -/
theorem sat_leaveScope_quiet (hquiet : Quiet K H G (fun _ => True) P J)
    (hclose : ∀ d, P (.close d)) (hJ : J w) :
    Sat K H G leaveScope (fun _ w' _ => J w') s w := by
  have hrelease : ∀ p, Within (fun _ => True) P (release p) :=
    within_release (fun _ _ _ => trivial) hclose
  have hclear : Within (fun _ => True) P clearOutput :=
    within_clearOutput (fun _ _ => trivial) (fun _ _ _ => trivial) hclose
  have hsockets : Within (fun _ => True) P clearSockets := by
    apply within_get_bind
    intro s _
    exact within_bind (within_set trivial) fun _ => within_forEach hrelease
  have hlocals : Within (fun _ => True) P dropLocals := by
    apply within_get_bind
    intro s _
    exact within_bind (within_set trivial) fun _ => within_forEach hrelease
  have hleave : Within (fun _ => True) P leaveScope :=
    within_bind hclear fun _ => within_bind hsockets fun _ => hlocals
  exact (hleave.sat hquiet trivial hJ).mono fun _ _ _ h => h.2

theorem courteous_serve (fuel cycles : Nat) {sfd : Int} (hnonneg : 0 ≤ sfd) :
    Sat (observer recordRefusal) anyReply Courteous (serve unixSocket fuel cycles)
      (fun _ w _ => w = .idle) (booted.alloc (UnixSocketFactory.unixSocket sfd hnonneg)) .idle := by
  apply sat_serve hnonneg fun _ w => w = Refusal.idle
  · rintro descriptor - _ rfl
    rw [sat_note, sat_ask_observer]
    exact ⟨⟨rfl, rfl, by simp [started]⟩, fun _ => courteous_mainLoop (shape_started descriptor)⟩
  · intro s w hw
    exact sat_leaveScope_quiet marking_quiet (fun d => Or.inl ⟨d, rfl⟩) hw

theorem courteous_main (argv : List (List Byte)) (fuel cycles : Nat) :
    Sat (observer recordMain) anyReply CourteousMain (main argv fuel cycles)
      (fun _ w _ => w = .idle) booted .idle := by
  apply sat_main fun _ => rfl
  intro _ path
  have hidle : ∀ (c : UnixCall) (s : Memory) (w : Refusal), w = .idle →
      (∀ s, CourteousMain s .idle c) → (∀ r, recordMain .idle c r = .idle) →
      ∀ Q : Memory → Refusal → Reply → Prop, (∀ r, Q s .idle r) →
        Sat (observer recordMain) anyReply CourteousMain (Program.ask c) Q s w := by
    rintro c s _ rfl hG hrecord Q hQ
    rw [sat_ask_observer]
    refine ⟨hG s, fun r => ?_⟩
    rw [hrecord]
    exact hQ r
  apply UnixSocketFactory.sat_createSocket fun _ w => w = Refusal.idle
  · apply hidle _ _ _ rfl (fun _ => by rfl) (fun _ => by rfl)
    intro sfd
    refine ⟨fun _ => rfl, fun _ => ?_⟩
    apply hidle _ _ _ rfl (fun _ => by rfl) (fun _ => by rfl)
    exact fun r => ⟨fun _ => rfl, fun _ => rfl⟩
  · exact fun sfd w hw => hidle _ _ _ hw (fun _ => by rfl) (fun _ => by rfl) _ fun _ => rfl
  · exact fun sfd opts w hw => hidle _ _ _ hw (fun _ => by rfl) (fun _ => by rfl) _ fun _ => rfl
  · rintro sfd hnonneg w rfl
    have hnext : booted.next ≠ nullptr := by decide
    rw [if_neg hnext, sat_embed_iff]
    exact courteous_serve fuel cycles hnonneg

end Main

end Mydisp

end SocketDispatcher
