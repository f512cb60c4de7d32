import SocketDispatcher.Library.Simulation
import SocketDispatcher.Mydisp.Link
import SocketDispatcher.Mylsnr.Rules

/-!
# The connection of a dispatcher, seen from the listener

The link of a dispatcher was described by what the listener may send next.  Here the
listener's own program takes the place of that description: the system of both programs,
in which every call of the listener happens between two steps of the dispatcher.

Main results:

- Theorem {lit}`wired_main`: whatever the listener does to the connection is a move of
  the link.
- Theorem {lit}`refines_link`: every run of the system of both programs is, for the
  dispatcher, a run on the link.

Current gaps:

- A write takes all of its bytes or fails.
-/

namespace SocketDispatcher

open Interaction SegmentedStream

namespace Mylsnr

/-! ## The wire -/

/-- The connection of one dispatcher at the listener's end. -/
inductive Peer where
  /-- The listener accepts so many other dispatchers before this one. -/
  | waiting (before : Nat)
  | joined (d : Int)
  | left
deriving DecidableEq

/-- A connection of some dispatcher has been accepted. -/
def Peer.accept (d : Int) : Peer → Peer
  | .waiting 0 => .joined d
  | .waiting (before + 1) => .waiting before
  | peer => peer

/-- The open descriptors of the listener, and the link of one dispatcher. -/
structure Wire where
  opened : List Int
  peer : Peer
  link : Mydisp.Link := {}

/-- The bytes of a write as they are queued. -/
def sentSegment (bytes : List Byte) (control : Option Int) : Segment Byte Mydisp.Event where
  content := bytes
  first := if control.isSome then [.descriptor] else []
  last := if bytes = exitMessage then [.exit] else []
  stop := control.isSome

/-- How far a write brings the connection. -/
def sentPhase (bytes : List Byte) : Mydisp.Phase :=
  if bytes = exitMessage then .done
  else if bytes = configLabel then .labelled
  else .running

namespace Wire

/-- Bytes written to a descriptor, of which the link sees its own. -/
def send (w : Wire) (d : Int) (bytes : List Byte) (control : Option Int) : Wire :=
  if w.peer = .joined d then
    { w with link := w.link.put (sentSegment bytes control) (sentPhase bytes) }
  else w

def close (w : Wire) (d : Int) : Wire :=
  { opened := w.opened.filter (· ≠ d)
    peer := if w.peer = .joined d then .left else w.peer
    link := if w.peer = .joined d then { w.link with closed := true } else w.link }

end Wire

/-- The kernel under the listener.  A new descriptor is numbered differently from the open
ones.  Between two calls the dispatcher may read what is queued. -/
def wire (unix : Int) : Kernel Wire Call Reply Mydisp.Link where
  reply w c r :=
    match c with
    | .accept fd =>
        if r.ret < 0 then some w
        else if r.ret ∈ w.opened then none
        else
          some
            { w with
              opened := r.ret :: w.opened
              peer := if fd = unix then w.peer.accept r.ret else w.peer }
    | .write d bytes =>
        if r.ret < 0 then some w
        else if r.ret = bytes.length then some (w.send d bytes none)
        else none
    | .sendmsg d bytes control =>
        if r.ret < 0 then some w
        else if r.ret = bytes.length then some (w.send d bytes control)
        else none
    | .close d => some (w.close d)
    | _ => some w
  act w link :=
    if link.phase = w.link.phase ∧ link.closed = w.link.closed then
      some { w with link := link }
    else none

/-- The call is a move of the link, or does not touch it. -/
def Conforms (unix descriptor : Int) (names : ApplicationConfig) : Memory → Wire → Call → Prop :=
  Moves (wire unix) (Mydisp.link descriptor names) Wire.link

/-- The calls that do not touch the descriptors. -/
def Offwire : Call → Prop
  | .accept _ | .write .. | .sendmsg .. | .close _ => False
  | _ => True

theorem offwire_of_forking : ∀ c, Forking c → Offwire c := by
  apply forall_forking <;> trivial

theorem wire_offwire {unix : Int} {w w' : Wire} {c : Call} {r : Reply} (hc : Offwire c)
    (h : (wire unix).reply w c r = some w') : w' = w := by
  cases c with
  | accept => exact hc.elim
  | write => exact hc.elim
  | sendmsg => exact hc.elim
  | close => exact hc.elim
  | _ => exact (Option.some.inj h).symm

/-! ## What the world remembers -/

/-- The open descriptors are {lit}`opened`; the dispatcher's connection is one of them once
it has been accepted, and then has come as far as {lit}`ready` says. -/
structure Held (opened : List Int) (ready : Int → Mydisp.Phase → Prop) (w : Wire) : Prop where
  opened_eq : w.opened = opened
  waiting : ∀ before, w.peer = .waiting before →
    w.link.phase = .fresh ∧ w.link.closed = false
  joined : ∀ d, w.peer = .joined d →
    d ∈ opened ∧ w.link.closed = false ∧ ready d w.link.phase

/-- No request to exit has been sent. -/
def Running (_ : Int) (phase : Mydisp.Phase) : Prop :=
  phase ≠ .done

/-- One connection has come exactly so far. -/
def Exactly (d : Int) (phase₀ : Mydisp.Phase) (d' : Int) (phase : Mydisp.Phase) : Prop :=
  if d' = d then phase = phase₀ else phase ≠ .done

section Held

variable {opened : List Int} {ready ready' : Int → Mydisp.Phase → Prop} {w : Wire}

theorem Held.mono (h : Held opened ready w) (hready : ∀ d phase, ready d phase → ready' d phase) :
    Held opened ready' w where
  opened_eq := h.opened_eq
  waiting := h.waiting
  joined d hd := ⟨(h.joined d hd).1, (h.joined d hd).2.1, hready d _ (h.joined d hd).2.2⟩

theorem exactly_running {d : Int} {phase₀ : Mydisp.Phase} (hphase : phase₀ ≠ .done) (d' : Int)
    (phase : Mydisp.Phase) (h : Exactly d phase₀ d' phase) : Running d' phase := by
  unfold Exactly at h
  split at h
  next => exact h ▸ hphase
  next => exact h

end Held

section Calls

variable {unix descriptor : Int} {names : ApplicationConfig} {opened : List Int}
variable {ready ready' : Int → Mydisp.Phase → Prop} {s : Memory} {w : Wire}

/-- Reading by the dispatcher does not matter to the listener. -/
theorem held_act : ∀ w v w', (wire unix).act w v = some w' →
    Held opened ready w → Held opened ready w' := by
  intro w v w' hact h
  simp only [wire] at hact
  split at hact
  next hsame =>
    obtain rfl := Option.some.inj hact
    obtain ⟨hphase, hclosed⟩ := hsame
    exact ⟨h.opened_eq, fun before hpeer => hphase ▸ hclosed ▸ h.waiting before hpeer,
      fun d hpeer => hphase ▸ hclosed ▸ h.joined d hpeer⟩
  next => contradiction

/-- Other calls are quiet. -/
theorem offwire_quiet (I : Memory → Prop) :
    Quiet (wire unix) anyReply (Conforms unix descriptor names) I Offwire
      (Held opened ready) where
  guarantee s w c _ hc _ r w' hreply := by
    rw [wire_offwire hc hreply]
    exact Kernel.acts_refl _ _
  reply s w c r w' _ hc hreply _ h := (wire_offwire hc hreply) ▸ h
  act := held_act

/-- An accepted descriptor is new; if it is the dispatcher's, its link is fresh. -/
theorem sat_accept {fd : Int} {Q : Memory → Wire → Reply → Prop}
    (h : Held opened Running w)
    (hneg : ∀ r w, r.ret < 0 → Held opened Running w → Q s w r)
    (hnew : ∀ r w, 0 ≤ r.ret → r.ret ∉ opened →
      Held (r.ret :: opened) (Exactly r.ret .fresh) w → Q s w r) :
    Sat (wire unix) anyReply (Conforms unix descriptor names) (Program.ask (.accept fd)) Q s w := by
  apply sat_ask_keeps held_act h
  · intro w _ r w' hreply
    simp only [wire] at hreply
    split at hreply
    next =>
      obtain rfl := Option.some.inj hreply
      exact Kernel.acts_refl _ _
    next =>
      split at hreply
      next => contradiction
      next =>
        obtain rfl := Option.some.inj hreply
        exact Kernel.acts_refl _ _
  · intro w r w' h hreply _
    simp only [wire] at hreply
    split at hreply
    next hlt =>
      obtain rfl := Option.some.inj hreply
      exact hneg r w hlt h
    next hlt =>
      split at hreply
      next => contradiction
      next hfree =>
        obtain rfl := Option.some.inj hreply
        rw [h.opened_eq] at hfree
        apply hnew r _ (Int.not_lt.mp hlt) hfree
        have hother : ∀ d, w.peer = .joined d → Exactly r.ret .fresh d w.link.phase := by
          intro d hpeer
          obtain ⟨hd, -, hphase⟩ := h.joined d hpeer
          have hne : d ≠ r.ret := fun heq => hfree (heq ▸ hd)
          rw [Exactly, if_neg hne]
          exact hphase
        have hkept : ∀ d, w.peer = .joined d → d ∈ r.ret :: opened ∧
            w.link.closed = false ∧ Exactly r.ret .fresh d w.link.phase :=
          fun d hpeer => ⟨List.mem_cons_of_mem _ (h.joined d hpeer).1, (h.joined d hpeer).2.1,
            hother d hpeer⟩
        refine ⟨by rw [h.opened_eq], ?_, ?_⟩
        · intro before hpeer
          dsimp only at hpeer
          split at hpeer
          next =>
            cases hw : w.peer with
            | waiting n => exact h.waiting n hw
            | joined d => simp [hw, Peer.accept] at hpeer
            | left => simp [hw, Peer.accept] at hpeer
          next => exact h.waiting before hpeer
        · intro d hpeer
          dsimp only at hpeer
          split at hpeer
          next =>
            cases hw : w.peer with
            | waiting n =>
                obtain ⟨hphase, hclosed⟩ := h.waiting n hw
                cases n with
                | zero =>
                    obtain rfl : r.ret = d := by simpa [hw, Peer.accept] using hpeer
                    exact ⟨List.mem_cons_self, hclosed, by simpa [Exactly] using hphase⟩
                | succ n => simp [hw, Peer.accept] at hpeer
            | joined d' =>
                obtain rfl : d' = d := by simpa [hw, Peer.accept] using hpeer
                exact hkept d' hw
            | left => simp [hw, Peer.accept] at hpeer
          next => exact hkept d hpeer

/-- A write is taken whole or fails.  If it goes to the dispatcher, it is the next move of
the link. -/
theorem sat_send {d : Int} {bytes : List Byte} {control : Option Int} {c : Call}
    {Q : Memory → Wire → Reply → Prop} (sent failed : Int → Mydisp.Phase → Prop)
    (hc : c = .write d bytes ∧ control = none ∨ c = .sendmsg d bytes control)
    (hmove : ∀ link : Mydisp.Link, link.closed = false → ready d link.phase →
      ∃ a, link.act names a = some (link.put (sentSegment bytes control) (sentPhase bytes)))
    (hsent : sent d (sentPhase bytes))
    (hothers : ∀ d' phase, d' ≠ d → ready d' phase → sent d' phase)
    (hfailed : ∀ d' phase, ready d' phase → failed d' phase)
    (h : Held opened ready w)
    (hneg : ∀ r w, r.ret < 0 → Held opened failed w → Q s w r)
    (hdone : ∀ r w, 0 ≤ r.ret → Held opened sent w → Q s w r) :
    Sat (wire unix) anyReply (Conforms unix descriptor names) (Program.ask c) Q s w := by
  have hreply : ∀ w r w', (wire unix).reply w c r = some w' →
      (r.ret < 0 ∧ w' = w) ∨ (0 ≤ r.ret ∧ w' = w.send d bytes control) := by
    intro w r w' hreply
    rcases hc with ⟨rfl, rfl⟩ | rfl <;> simp only [wire] at hreply <;> split at hreply
    case inl.isTrue hlt => exact Or.inl ⟨hlt, (Option.some.inj hreply).symm⟩
    case inr.isTrue hlt => exact Or.inl ⟨hlt, (Option.some.inj hreply).symm⟩
    all_goals
      rename_i hlt
      split at hreply
      · exact Or.inr ⟨Int.not_lt.mp hlt, (Option.some.inj hreply).symm⟩
      · contradiction
  apply sat_ask_keeps held_act h
  · intro w h r w' hw'
    rcases hreply w r w' hw' with ⟨-, rfl⟩ | ⟨-, rfl⟩
    · exact Kernel.acts_refl _ _
    · by_cases hpeer : w.peer = .joined d
      · obtain ⟨-, hclosed, hready⟩ := h.joined d hpeer
        obtain ⟨a, ha⟩ := hmove w.link hclosed hready
        rw [Wire.send, if_pos hpeer]
        exact Relation.ReflTransGen.single ⟨a, ha⟩
      · rw [Wire.send, if_neg hpeer]
        exact Kernel.acts_refl _ _
  · intro w r w' h hw' _
    rcases hreply w r w' hw' with ⟨hlt, rfl⟩ | ⟨hge, rfl⟩
    · exact hneg r w' hlt (h.mono hfailed)
    · apply hdone r _ hge
      by_cases hpeer : w.peer = .joined d
      · obtain ⟨hd, hclosed, -⟩ := h.joined d hpeer
        rw [Wire.send, if_pos hpeer]
        refine ⟨h.opened_eq, fun before hwaiting => ?_, fun d' hd' => ?_⟩
        · rw [hpeer] at hwaiting
          contradiction
        · obtain rfl : d = d' := by simpa using hpeer.symm.trans hd'
          exact ⟨hd, hclosed, hsent⟩
      · rw [Wire.send, if_neg hpeer]
        refine ⟨h.opened_eq, h.waiting, fun d' hd' => ?_⟩
        obtain ⟨hopened, hclosed, hready⟩ := h.joined d' hd'
        refine ⟨hopened, hclosed, hothers d' _ ?_ hready⟩
        rintro rfl
        exact hpeer hd'

/-- A closed descriptor is not the dispatcher's any more. -/
theorem sat_close {d : Int} {Q : Memory → Wire → Reply → Prop} (h : Held opened ready w)
    (hQ : ∀ r w, Held (opened.filter (· ≠ d)) ready w → Q s w r) :
    Sat (wire unix) anyReply (Conforms unix descriptor names) (Program.ask (.close d)) Q s w := by
  apply sat_ask_keeps held_act h
  · intro w h r w' hw'
    obtain rfl := Option.some.inj hw'
    by_cases hpeer : w.peer = .joined d
    · have hact : w.link.act names .close = some { w.link with closed := true } := by
        simp [Mydisp.Link.act, (h.joined d hpeer).2.1]
      simp only [Wire.close, if_pos hpeer]
      exact Relation.ReflTransGen.single ⟨.close, hact⟩
    · simp only [Wire.close, if_neg hpeer]
      exact Kernel.acts_refl _ _
  · intro w r w' h hw' _
    obtain rfl := Option.some.inj hw'
    apply hQ
    by_cases hpeer : w.peer = .joined d
    · simp only [Wire.close, if_pos hpeer]
      exact ⟨by rw [h.opened_eq], fun _ hwaiting => by contradiction,
        fun _ hjoined => by contradiction⟩
    · simp only [Wire.close, if_neg hpeer]
      refine ⟨by rw [h.opened_eq], h.waiting, fun d' hd' => ?_⟩
      obtain ⟨hopened, hrest⟩ := h.joined d' hd'
      refine ⟨List.mem_filter.mpr ⟨hopened, ?_⟩, hrest⟩
      simp only [decide_eq_true_eq]
      rintro rfl
      exact hpeer hd'

end Calls

/-! ## The moves of the link -/

theorem head_configText (pid : Int) (names : ApplicationConfig) :
    (configText pid names).head? = some 80 := by
  simp [configText, ascii]

theorem configText_ne (pid : Int) (names : ApplicationConfig) :
    configText pid names ≠ exitMessage ∧ configText pid names ≠ configLabel := by
  have hhead := head_configText pid names
  constructor <;> intro heq <;> rw [heq] at hhead <;> revert hhead <;> decide

section Sends

variable {names : ApplicationConfig} {link : Mydisp.Link} (hopen : link.closed = false)
include hopen

theorem act_label (hphase : link.phase = .fresh) :
    link.act names .label =
      some (link.put (sentSegment configLabel none) (sentPhase configLabel)) := by
  simp only [Mydisp.Link.act, hopen, hphase]
  rfl

theorem act_client (hphase : link.phase ≠ .done) (d : Int) :
    link.act names .client = some (link.put (sentSegment [0, 0] (some d)) (sentPhase [0, 0])) := by
  cases hlink : link.phase with
  | done => exact absurd hlink hphase
  | _ =>
      simp only [Mydisp.Link.act, hopen, hlink]
      rfl

theorem act_exit (hphase : link.phase ≠ .done) :
    link.act names .exit =
      some (link.put (sentSegment exitMessage none) (sentPhase exitMessage)) := by
  cases hlink : link.phase with
  | done => exact absurd hlink hphase
  | _ =>
      simp only [Mydisp.Link.act, hopen, hlink]
      rfl

theorem act_text (hphase : link.phase = .labelled) (pid : Int) :
    link.act names (.text pid) = some (link.put (sentSegment (configText pid names) none)
      (sentPhase (configText pid names))) := by
  obtain ⟨hexit, hlabel⟩ := configText_ne pid names
  simp [Mydisp.Link.act, hopen, hphase, sentSegment, sentPhase, hexit, hlabel]

end Sends

/-! ## What the memory remembers -/

/-- Every connection has an open descriptor of its own. -/
structure Accounts (tcp unix : Int) (names : ApplicationConfig) (s : Memory)
    (opened : List Int) : Prop where
  shape : Shape tcp unix s
  appCfg : s.appCfg = names
  opened : ∀ p, IsConnection p → s.heap p ≠ none → s.descriptorOf p ∈ opened
  injective : ∀ p q, IsConnection p → IsConnection q → s.heap p ≠ none → s.heap q ≠ none →
    s.descriptorOf p = s.descriptorOf q → p = q

section Accounts

variable {tcp unix : Int} {names : ApplicationConfig} {s s' : Memory} {opened : List Int}

theorem Accounts.similar (h : Accounts tcp unix names s opened) (hsim : s.Similar s')
    (happCfg : s'.appCfg = s.appCfg) : Accounts tcp unix names s' opened where
  shape := h.shape.similar hsim
  appCfg := happCfg.trans h.appCfg
  opened p hp hlive := by
    rw [hsim.descriptorOf]
    exact h.opened p hp fun hnone => hlive ((hsim.heap_eq_none_iff p).mpr hnone)
  injective p q hp hq hlive hlive' heq := by
    rw [hsim.descriptorOf, hsim.descriptorOf] at heq
    exact h.injective p q hp hq (fun hnone => hlive ((hsim.heap_eq_none_iff p).mpr hnone))
      (fun hnone => hlive' ((hsim.heap_eq_none_iff q).mpr hnone)) heq

/-- Lists and variables do not matter beyond the shape. -/
theorem Accounts.lists (h : Accounts tcp unix names s opened) {list output : SocketsList Ptr}
    (hshape : Shape tcp unix { s with socketsList := list, outputSocketsList := output }) :
    Accounts tcp unix names { s with socketsList := list, outputSocketsList := output } opened :=
  ⟨hshape, h.appCfg, h.opened, h.injective⟩

/-- A successful poll only sets events and collects. -/
theorem Accounts.polled (h : Accounts tcp unix names s opened)
    (hempty : s.outputSocketsList.sockets = []) (revents : List Events) :
    Accounts tcp unix names (s.polled revents) opened := by
  have hsim := s.similar_polled revents
  have hshape := (h.shape.polled hempty revents).similar hsim.symm
  exact (h.lists hshape).similar hsim (s.polled_appCfg revents)

/-- A destroyed connection takes its descriptor with it, and no other one. -/
theorem Accounts.erase (h : Accounts tcp unix names s opened) {p : Ptr} {socket : Socket}
    (href : ¬s.Referenced p) (hsocket : s.heap p = some socket) :
    Accounts tcp unix names (s.erase p) (opened.filter (· ≠ socket.descriptor)) where
  shape := h.shape.pruned (Memory.pruned_erase href)
  appCfg := h.appCfg
  opened q hq hlive := by
    have hqp : q ≠ p := by
      rintro rfl
      simp at hlive
    have hlive' : s.heap q ≠ none := by simpa [hqp] using hlive
    have hdescriptor : (s.erase p).descriptorOf q = s.descriptorOf q := by
      simp [Memory.descriptorOf, hqp]
    have hp : IsConnection p := by
      refine ⟨?_, ?_⟩ <;> rintro rfl
      · exact href h.shape.tcp_referenced
      · exact href h.shape.unix_referenced
    rw [hdescriptor]
    refine List.mem_filter.mpr ⟨h.opened q hq hlive', ?_⟩
    simp only [decide_eq_true_eq]
    intro heq
    refine hqp (h.injective q p hq hp hlive' (by simp [hsocket]) ?_)
    rw [heq, Memory.descriptorOf, hsocket]
  injective q q' hq hq' hlive hlive' heq := by
    have hne : ∀ q, (s.erase p).heap q ≠ none →
        s.heap q ≠ none ∧ (s.erase p).descriptorOf q = s.descriptorOf q := by
      intro q hlive
      have hqp : q ≠ p := by
        rintro rfl
        simp at hlive
      exact ⟨by simpa [hqp] using hlive, by simp [Memory.descriptorOf, hqp]⟩
    obtain ⟨hlive, hdescriptor⟩ := hne q hlive
    obtain ⟨hlive', hdescriptor'⟩ := hne q' hlive'
    rw [hdescriptor, hdescriptor'] at heq
    exact h.injective q q' hq hq' hlive hlive' heq

/-- A new connection has a new descriptor. -/
theorem Accounts.connect (h : Accounts tcp unix names s opened) {d : Int} (hd : 0 ≤ d)
    (hfresh : d ∉ opened) : Accounts tcp unix names (connect s d hd) (d :: opened) where
  shape := h.shape.connect hd
  appCfg := h.appCfg
  opened p hp hlive := by
    by_cases hnew : p = s.next
    · simp [Memory.descriptorOf, Mylsnr.connect, connection, hnew]
    · have hlive' : s.heap p ≠ none := by simpa [Mylsnr.connect, hnew] using hlive
      have hmem := h.opened p hp hlive'
      have hdescriptor : (Mylsnr.connect s d hd).descriptorOf p = s.descriptorOf p := by
        simp [Memory.descriptorOf, Mylsnr.connect, hnew]
      rw [hdescriptor]
      exact List.mem_cons_of_mem d hmem
  injective p q hp hq hlive hlive' heq := by
    have hnew : (Mylsnr.connect s d hd).descriptorOf s.next = d := by
      simp [Memory.descriptorOf, Mylsnr.connect, connection]
    have hold : ∀ q, q ≠ s.next → (Mylsnr.connect s d hd).heap q ≠ none →
        s.heap q ≠ none ∧ (Mylsnr.connect s d hd).descriptorOf q = s.descriptorOf q := by
      intro q hne hlive
      exact ⟨by simpa [Mylsnr.connect, hne] using hlive,
        by simp [Memory.descriptorOf, Mylsnr.connect, hne]⟩
    by_cases hpn : p = s.next <;> by_cases hqn : q = s.next
    · rw [hpn, hqn]
    · obtain ⟨hlive', hdescriptor⟩ := hold q hqn hlive'
      rw [hpn, hnew, hdescriptor] at heq
      exact absurd (heq ▸ h.opened q hq hlive') hfresh
    · obtain ⟨hlive, hdescriptor⟩ := hold p hpn hlive
      rw [hqn, hnew, hdescriptor] at heq
      exact absurd (heq ▸ h.opened p hp hlive) hfresh
    · obtain ⟨hlive, hdescriptor⟩ := hold p hpn hlive
      obtain ⟨hlive', hdescriptor'⟩ := hold q hqn hlive'
      rw [hdescriptor, hdescriptor'] at heq
      exact h.injective p q hp hq hlive hlive' heq

/-- A connection that is gone again leaves only its descriptor behind, if at all. -/
theorem Accounts.attend (h : Accounts tcp unix names s opened) (content : Option Int)
    {opened' : List Int} (hopened : ∀ d ∈ opened, d ∈ opened') :
    Accounts tcp unix names (attend s content) opened' where
  shape := h.shape.attend content
  appCfg := h.appCfg
  opened p hp hlive := hopened _ (h.opened p hp hlive)
  injective := h.injective

theorem mem_filter_cons {d x : Int} (hfresh : d ∉ opened) (hx : x ∈ opened) :
    x ∈ (d :: opened).filter (· ≠ d) := by
  refine List.mem_filter.mpr ⟨List.mem_cons_of_mem d hx, ?_⟩
  simp only [decide_eq_true_eq]
  rintro rfl
  exact hfresh hx

end Accounts

/-! ## Operations of the listener -/

/-- Memory and world agree on the open connections. -/
def Connected (tcp unix : Int) (names : ApplicationConfig)
    (ready : Int → Mydisp.Phase → Prop) (s : Memory) (w : Wire) : Prop :=
  ∃ opened, Accounts tcp unix names s opened ∧ Held opened ready w

section Operations

variable {tcp unix descriptor : Int} {names : ApplicationConfig} {opened : List Int}
variable {ready : Int → Mydisp.Phase → Prop} {s : Memory} {w : Wire}

theorem connected_disposes : Disposes (wire unix) anyReply (Conforms unix descriptor names)
    (Connected tcp unix names ready) where
  erase s w p socket h href hsocket hprotected := by
    obtain ⟨opened, haccounts, -⟩ := h
    rw [haccounts.shape.unprotected hsocket] at hprotected
    contradiction
  close s w p socket h href hsocket _ := by
    obtain ⟨opened, haccounts, hheld⟩ := h
    exact sat_close hheld fun r w hheld => ⟨_, haccounts.erase href hsocket, hheld⟩

/-- The part of an iteration before the poll. -/
theorem connected_prepare (h : Connected tcp unix names ready s w) :
    Sat (wire unix) anyReply (Conforms unix descriptor names) prepare
      (fun s' w' _ => Connected tcp unix names ready s' w' ∧
        s'.outputSocketsList.sockets = []) s w := by
  obtain ⟨opened, haccounts, hheld⟩ := h
  have hdisposes : Disposes (wire unix) anyReply (Conforms unix descriptor names)
      (Connected tcp unix names ready) := connected_disposes
  rw [prepare, sat_bind]
  refine sat_note_quiet (offwire_quiet fun _ => True) (by trivial) trivial hheld fun w hheld => ?_
  rw [sat_bind]
  apply (sat_clearOutput_keeps hdisposes
    ⟨opened, haccounts.lists haccounts.shape.clearOutput, hheld⟩).mono
  rintro s₂ w _ ⟨hpruned, opened', haccounts, hheld⟩
  rw [sat_bind, sat_get]
  apply (sat_pollForReads fun p hp => haccounts.shape.live p (Or.inl hp)).mono
  rintro s' _ _ ⟨hreads, rfl⟩
  refine ⟨⟨opened', haccounts.similar hreads.similar (by rw [hreads.rest]), hheld⟩, ?_⟩
  rw [hreads.similar.outputSocketsList, hpruned.outputSocketsList]
  rfl

theorem connected_delSocket (p : Ptr) (h : Connected tcp unix names ready s w) :
    Sat (wire unix) anyReply (Conforms unix descriptor names) (delSocket p)
      (fun s' w' _ => Connected tcp unix names ready s' w' ∧
        s'.outputSocketsList = s.outputSocketsList) s w := by
  obtain ⟨opened, haccounts, hheld⟩ := h
  have hdisposes : Disposes (wire unix) anyReply (Conforms unix descriptor names)
      (Connected tcp unix names ready) := connected_disposes
  apply (sat_delSocket_keeps hdisposes rfl rfl _).mono
  · rintro s' w _ ⟨hpruned, h⟩
    exact ⟨h, hpruned.outputSocketsList⟩
  · refine sat_note_quiet (offwire_quiet fun _ => True) (by trivial) trivial hheld fun w hheld => ?_
    exact ⟨rfl, opened, haccounts.lists (haccounts.shape.delSocket _), hheld⟩

/-- An accepted client is sent to every dispatcher that has not been asked to exit. -/
theorem connected_processClientConnection (h : Connected tcp unix names Running s w) :
    Sat (wire unix) anyReply (Conforms unix descriptor names)
      (processClientConnection tcpListenerSocket)
      (fun s' w' _ => Connected tcp unix names Running s' w' ∧
        s'.outputSocketsList = s.outputSocketsList) s w := by
  obtain ⟨opened, haccounts, hheld⟩ := h
  have hs := haccounts.shape
  apply sat_processClientConnection hs
  apply sat_accept hheld
  · exact fun r w hneg hheld =>
      ⟨fun _ => ⟨⟨opened, haccounts, hheld⟩, rfl⟩, fun hd => absurd hneg (Int.not_lt.mpr hd)⟩
  · intro newfd w hd hfresh hheld
    refine ⟨fun hneg => absurd hneg (Int.not_lt.mpr hd), fun hd => ?_⟩
    have hrunning := hheld.mono (exactly_running (by decide))
    refine sat_ask_quiet (offwire_quiet fun _ => True) (by trivial) trivial hrunning
      fun r w hheld => ⟨fun _ => ?_, fun _ => ?_⟩
    · have hmore : ∀ x ∈ opened, x ∈ newfd.ret :: opened := fun x => List.mem_cons_of_mem _
      exact ⟨⟨_, ⟨hs, haccounts.appCfg, fun p hp hlive => hmore _ (haccounts.opened p hp hlive),
        haccounts.injective⟩, hheld⟩, rfl⟩
    · let client := s.alloc (connection newfd.ret hd .SSL)
      have hclient : client.heap s.next = some (connection newfd.ret hd .SSL) := by simp [client]
      have hlive : ∀ p ∈ client.socketsList.sockets, client.heap p ≠ none := by
        intro p hp
        have hlive := hs.live p (Or.inl hp)
        have hne : p ≠ s.next := Nat.ne_of_lt (hs.lt_next hlive)
        simpa [client, hne] using hlive
      apply (sat_sendToDispatchers (s := client) (c := s.next)
        (fun _ w => Held (newfd.ret :: opened) Running w) hlive _ _ hheld).mono
      · rintro s' w _ ⟨⟨content, rfl⟩, hheld⟩
        refine ⟨content, rfl, sat_close hheld fun r w hheld => ⟨⟨_, ?_, hheld⟩, rfl⟩⟩
        exact haccounts.attend content fun x hx => mem_filter_cons hfresh hx
      · exact fun p ps w socket _ _ hheld => hheld
      · intro p ps content w socket hp hsocket hdispatcher hheld
        refine Sat.mono (sat_sendSocket (Held (newfd.ret :: opened) Running)
          (Held (newfd.ret :: opened) Running) hsocket hclient hd ?_ ?_ ?_ ?_) ?_
        rotate_left 4
        · rintro s' w _ ⟨⟨content', rfl⟩, hheld⟩
          exact ⟨⟨content', rfl⟩, hheld⟩
        · exact sat_note_quiet (offwire_quiet fun _ => True) (by trivial) trivial hheld
            fun w hheld => hheld
        · exact fun w hheld => sat_ask_quiet (offwire_quiet fun _ => True) (by trivial) trivial
            hheld fun _ w hheld => hheld
        · intro content' w hheld
          apply sat_send Running Running (Or.inr rfl) (fun link hclosed hready =>
            ⟨_, act_client hclosed hready _⟩) _ (fun d' phase _ h => h) (fun d' phase h => h) hheld
          · exact fun r w _ hheld => hheld
          · exact fun r w _ hheld => hheld
          · exact (by decide : sentPhase [0, 0] ≠ .done)
        · exact fun w hheld => hheld

section Greet

-- the text must not be computed
attribute [local irreducible] configText

/-- An accepted dispatcher is sent its label and text first. -/
theorem connected_sendConfig {d : Int} (happCfg : s.appCfg = names)
    (h : Held opened (Exactly d .fresh) w) :
    Sat (wire unix) anyReply (Conforms unix descriptor names) (sendConfig d)
      (fun s' w' _ => s' = s ∧ Held opened Running w') s w := by
  subst happCfg
  have hexactly : ∀ link : Mydisp.Link, ∀ phase₀, Exactly d phase₀ d link.phase →
      link.phase = phase₀ := by
    intro link phase₀ hready
    simpa [Exactly] using hready
  have hother : ∀ phase₀ d' phase, d' ≠ d → Exactly d phase₀ d' phase → phase ≠ .done := by
    intro phase₀ d' phase hne hready
    rwa [Exactly, if_neg hne] at hready
  apply sat_sendConfig
  apply sat_send (Exactly d .labelled) Running (Or.inl ⟨rfl, rfl⟩) _ _ _
    (exactly_running (by decide)) h
  · exact fun r w hneg h =>
      ⟨fun _ => ⟨rfl, h⟩, fun hnonneg => absurd hneg (Int.not_lt.mpr hnonneg)⟩
  · intro r w hnonneg h
    refine ⟨fun hneg => absurd hneg (Int.not_lt.mpr hnonneg), fun _ => ?_⟩
    refine sat_ask_quiet (offwire_quiet fun _ => True) (by trivial) trivial h fun pid w h => ?_
    refine ⟨fun w₁ hacts => ?_, ?_⟩
    · exact (offwire_quiet (fun _ => True)).guarantee s w₁ .crash trivial trivial
        (hacts.keeps held_act h)
    · apply sat_send Running Running (Or.inl ⟨rfl, rfl⟩) _ _
        (hother .labelled) (exactly_running (by decide)) h
      · exact fun r w _ h => ⟨rfl, h⟩
      · exact fun r w _ h => ⟨rfl, h⟩
      · exact fun link hclosed hready => ⟨_, act_text hclosed (hexactly link _ hready) pid.ret⟩
      · obtain ⟨hexit, hlabel⟩ := configText_ne pid.ret s.appCfg
        simp [Running, sentPhase, hexit, hlabel]
  · exact fun link hclosed hready => ⟨_, act_label hclosed (hexactly link _ hready)⟩
  · rw [Exactly, if_pos rfl]
    decide
  · intro d' phase hne hready
    rw [Exactly, if_neg hne]
    exact hother .fresh d' phase hne hready

end Greet

theorem connected_processDispatcherConnection (h : Connected tcp unix names Running s w) :
    Sat (wire unix) anyReply (Conforms unix descriptor names)
      (processDispatcherConnection unixListenerSocket)
      (fun s' w' _ => Connected tcp unix names Running s' w' ∧
        s'.outputSocketsList = s.outputSocketsList) s w := by
  obtain ⟨opened, haccounts, hheld⟩ := h
  have hdescriptor : ∀ d hd, (connect s d hd).descriptorOf s.next = d := by
    intro d hd
    simp [Memory.descriptorOf, connect, connection]
  apply sat_greetDispatcher haccounts.shape
    (fun m w => m.descriptorOf s.next ∉ opened ∧ Held (m.descriptorOf s.next :: opened)
      (Exactly (m.descriptorOf s.next) .fresh) w)
    (fun m w => m.descriptorOf s.next ∉ opened ∧ Held (m.descriptorOf s.next :: opened)
      (Exactly (m.descriptorOf s.next) .fresh) w)
    (fun m w => m.descriptorOf s.next ∉ opened ∧
      Held (m.descriptorOf s.next :: opened) Running w)
  · rintro d hd w ⟨hfresh, hheld⟩
    exact sat_note_quiet (offwire_quiet fun _ => True) (by trivial) trivial hheld
      fun w hheld => ⟨hfresh, hheld⟩
  · intro d hd w h
    rw [hdescriptor] at h
    apply (connected_sendConfig (s := connect s d hd) haccounts.appCfg h.2).mono
    rintro _ w _ ⟨rfl, hheld⟩
    rw [hdescriptor]
    exact ⟨rfl, h.1, hheld⟩
  · apply sat_accept hheld
    · exact fun r w hneg hheld => ⟨fun _ => ⟨⟨opened, haccounts, hheld⟩, rfl⟩,
        fun hd => absurd hneg (Int.not_lt.mpr hd)⟩
    · intro r w hd hfresh hheld
      refine ⟨fun hneg => absurd hneg (Int.not_lt.mpr hd), fun hd => ?_⟩
      rw [hdescriptor]
      exact ⟨hfresh, hheld⟩
  · intro d hd w sent _ h
    rw [hdescriptor] at h
    exact ⟨⟨_, haccounts.connect hd h.1, h.2⟩, rfl⟩
  · intro d hd w sent _ h
    rw [hdescriptor] at h
    refine sat_close h.2 fun r w hheld => ⟨⟨_, ?_, hheld⟩, rfl⟩
    exact haccounts.attend _ fun x hx => mem_filter_cons h.1 hx

/-- One iteration after the other, no dispatcher is asked to exit. -/
theorem connected_mainLoop (iterations : Nat) (h : Connected tcp unix names Running s w) :
    Sat (wire unix) anyReply (Conforms unix descriptor names) (mainLoop iterations)
      (fun s' w' _ => Connected tcp unix names Running s' w') s w := by
  have hquiet : ∀ (I : Memory → Prop) opened, Quiet (wire unix) anyReply
      (Conforms unix descriptor names) I Offwire (Held opened Running) :=
    fun I opened => offwire_quiet I
  apply sat_mainLoop (Connected tcp unix names Running)
    (fun s w => Connected tcp unix names Running s w ∧ s.outputSocketsList.sockets = [])
    (Connected tcp unix names Running) (Connected tcp unix names Running)
    (fun ps s w => Connected tcp unix names Running s w ∧
      ∀ p ∈ ps, p ∈ s.outputSocketsList.sockets)
  · rintro s w ⟨opened, haccounts, hheld⟩
    exact sat_ask_quiet (hquiet (fun _ => True) _) (by trivial) trivial hheld
      fun _ w hheld => ⟨opened, haccounts, hheld⟩
  · exact fun s w h => connected_prepare h
  · rintro s w ⟨⟨opened, haccounts, hheld⟩, hempty⟩
    apply (sat_pollSockets_quiet (hquiet s.Similar _) (fun _ => trivial) (fun _ _ => trivial)
      hheld).mono
    rintro s' w errorType ⟨hheld, hmemory⟩
    have hreset : Accounts tcp unix names s.reset opened :=
      haccounts.similar s.similar_reset s.reset_appCfg
    cases errorType with
    | NONE =>
        obtain ⟨revents, rfl⟩ := hmemory
        exact ⟨⟨opened, haccounts.polled hempty revents, hheld⟩, fun _ hp => hp⟩
    | _ =>
        obtain rfl : s' = s.reset := hmemory
        exact ⟨opened, hreset, hheld⟩
  · rintro p ps s w ⟨h, hcollected⟩
    have hp := hcollected p (List.mem_cons_self ..)
    have htail : ∀ q ∈ ps, q ∈ s.outputSocketsList.sockets :=
      fun q hq => hcollected q (List.mem_cons_of_mem p hq)
    have hrest : ∀ s' w', Connected tcp unix names Running s' w' ∧
        s'.outputSocketsList = s.outputSocketsList → Connected tcp unix names Running s' w' ∧
          ∀ q ∈ ps, q ∈ s'.outputSocketsList.sockets :=
      fun s' w' h => ⟨h.1, h.2 ▸ htail⟩
    have hs : Shape tcp unix s := h.choose_spec.1.shape
    apply sat_processSocket hs (hs.live p (Or.inr (Or.inl hp)))
    · exact fun _ _ _ => (connected_delSocket p h).mono fun s' w' _ => hrest s' w'
    · exact fun _ => (connected_processClientConnection h).mono fun s' w' _ => hrest s' w'
    · exact fun _ => (connected_processDispatcherConnection h).mono fun s' w' _ => hrest s' w'
    · exact ⟨h, htail⟩
  · exact fun s w h => h.1
  · rintro s w ⟨opened, haccounts, hheld⟩
    have hforking : Quiet (wire unix) anyReply (Conforms unix descriptor names) (· = s) Forking
        (Held opened Running) := by
      exact (hquiet (· = s) opened).mono (fun _ hI => hI) offwire_of_forking
    apply (within_restartDispatcher.sat hforking rfl hheld).mono
    rintro _ w _ ⟨rfl, hheld⟩
    exact ⟨opened, haccounts, hheld⟩
  · rintro s w ⟨opened, haccounts, hheld⟩
    exact sat_note_quiet (hquiet (fun _ => True) _) (by trivial) trivial hheld
      fun w hheld => ⟨opened, haccounts, hheld⟩
  · exact h

/-- Every dispatcher is asked to exit once. -/
theorem connected_sayGoodbye (h : Connected tcp unix names Running s w) :
    Sat (wire unix) anyReply (Conforms unix descriptor names) sayGoodbyeToAllDispatchers
      (fun _ w' _ => ∃ opened, Held opened (fun _ _ => True) w') s w := by
  obtain ⟨opened, haccounts, hheld⟩ := h
  have hs := haccounts.shape
  -- the connections still to come have not been asked
  let Remaining (ps : List Ptr) (d : Int) (phase : Mydisp.Phase) : Prop :=
    phase = .done → ∀ p ∈ ps, IsConnection p → s.descriptorOf p ≠ d
  let Inv (ps : List Ptr) (w : Wire) : Prop :=
    ps.Nodup ∧ (∀ p ∈ ps, s.heap p ≠ none) ∧ Held opened (Remaining ps) w
  have hinit : Inv s.socketsList.sockets w :=
    ⟨hs.nodup, fun p hp => hs.live p (Or.inl hp),
      hheld.mono fun _ _ hne hdone => absurd hdone hne⟩
  have hskip : ∀ p ps d phase, Remaining (p :: ps) d phase → Remaining ps d phase :=
    fun p _ d phase h hdone q hq => h hdone q (List.mem_cons_of_mem p hq)
  apply (sat_sayGoodbye Inv hs _ _ hinit).mono
  · rintro _ w _ ⟨rfl, -, -, hheld⟩
    exact ⟨opened, hheld.mono fun _ _ _ => trivial⟩
  · rintro p ps w _ _ _ ⟨hnodup, hlive, hheld⟩
    exact ⟨hnodup.of_cons, fun q hq => hlive q (List.mem_cons_of_mem p hq),
      hheld.mono (hskip p ps)⟩
  · rintro p ps w socket hlisted hsocket hdispatcher ⟨hnodup, hlive, hheld⟩
    obtain ⟨hp, hnodup⟩ := List.nodup_cons.mp hnodup
    have hliveTail : ∀ q ∈ ps, s.heap q ≠ none := fun q hq => hlive q (List.mem_cons_of_mem p hq)
    have hconnection := (hs.isDispatcher_iff hsocket).mp hdispatcher
    have hdescriptor : s.descriptorOf p = socket.descriptor := by
      rw [Memory.descriptorOf, hsocket]
    apply sat_send (Remaining ps) (Remaining ps) (Or.inl ⟨rfl, rfl⟩) _ _
      (fun d phase _ => hskip p ps d phase) (hskip p ps) hheld
    · exact fun r w _ hheld => ⟨hnodup, hliveTail, hheld⟩
    · exact fun r w _ hheld => ⟨hnodup, hliveTail, hheld⟩
    · intro link hclosed hready
      refine ⟨_, act_exit hclosed fun hdone => ?_⟩
      exact hready hdone p (List.mem_cons_self ..) hconnection hdescriptor
    · intro _ q hq hconnection' heq
      have hqp := haccounts.injective q p hconnection' hconnection (hliveTail q hq)
        (hlive p (List.mem_cons_self ..)) (heq.trans hdescriptor.symm)
      exact hp (hqp ▸ hq)

end Operations

/-! ## Whole runs -/

/-- The listener begins with its listening sockets open; its dispatcher of interest
connects after so many others. -/
def wired (tcp unix : Nat) (others : List Int) (before : Nat) : Wire :=
  { opened := tcp :: unix :: others, peer := .waiting before }

/-- Whatever the listener does to the connection is a move of the link. -/
theorem wired_main (tcp unix iterations before : Nat) (descriptor : Int)
    (names : ApplicationConfig) (others : List Int) :
    Safe (wire unix) anyReply (Conforms unix descriptor names)
      ⟨started tcp unix names, wired tcp unix others before, main iterations⟩ := by
  apply Sat.safe
  have hheld : Held (tcp :: unix :: others) Running (wired tcp unix others before) :=
    ⟨rfl, fun _ _ => ⟨rfl, rfl⟩, fun _ hpeer => by contradiction⟩
  have hnone : ∀ p, IsConnection p → (listening tcp unix names).heap p = none := by
    intro p hp
    simp [listening, started, hp.1, hp.2]
  have haccounts : Accounts tcp unix names (listening tcp unix names) (tcp :: unix :: others) :=
    ⟨shape_listening tcp unix names, rfl, fun p hp hlive => absurd (hnone p hp) hlive,
      fun p q hp _ hlive => absurd (hnone p hp) hlive⟩
  have hquiet : ∀ (I : Memory → Prop) opened ready, Quiet (wire unix) anyReply
      (Conforms unix descriptor names) I Offwire (Held opened ready) :=
    fun I opened ready => offwire_quiet I
  apply sat_main (Connected tcp unix names Running)
    (fun _ w => ∃ opened, Held opened (fun _ _ => True) w)
  · have hforking : Quiet (wire unix) anyReply (Conforms unix descriptor names)
        (· = started tcp unix names) Forking (Held (tcp :: unix :: others) Running) := by
      exact (hquiet (· = _) _ _).mono (fun _ hI => hI) offwire_of_forking
    apply (within_create_dispatcher.sat hforking rfl hheld).mono
    rintro _ w _ ⟨rfl, hheld⟩
    refine ⟨rfl, ?_⟩
    refine sat_note_quiet (hquiet (fun _ => True) _ _) (by trivial) trivial hheld fun w hheld => ?_
    refine sat_note_quiet (hquiet (fun _ => True) _ _) (by trivial) trivial hheld fun w hheld => ?_
    exact ⟨_, haccounts, hheld⟩
  · exact fun s w h => connected_mainLoop iterations h
  · exact fun s w h => connected_sayGoodbye h
  · rintro s w ⟨opened, hheld⟩
    exact sat_ask_quiet (hquiet (fun _ => True) _ _) (by trivial) trivial hheld
      fun _ _ _ => trivial

/-! ## Both programs -/

/-- The dispatcher neither writes to the link nor closes the listener's end. -/
theorem link_reply_phase {descriptor : Int} {names : ApplicationConfig} {link link' : Mydisp.Link}
    {c : Call} {r : Reply}
    (h : (Mydisp.link descriptor names).reply link c r = some link') :
    link'.phase = link.phase ∧ link'.closed = link.closed := by
  by_cases hc : Mydisp.OffLink c
  · rw [Mydisp.link_reply hc h]
    exact ⟨rfl, rfl⟩
  · simp only [Mydisp.link] at h
    split at h
    next =>
      split at h
      next =>
        obtain ⟨reading, -, rfl⟩ := Option.map_eq_some_iff.mp h
        split <;> exact ⟨rfl, rfl⟩
      next =>
        obtain rfl := Option.some.inj h
        exact ⟨rfl, rfl⟩
    next =>
      split at h
      next =>
        obtain ⟨reading, -, rfl⟩ := Option.map_eq_some_iff.mp h
        exact ⟨rfl, rfl⟩
      next =>
        obtain rfl := Option.some.inj h
        exact ⟨rfl, rfl⟩
    all_goals
      obtain rfl := Option.some.inj h
      exact ⟨rfl, rfl⟩

/-- The surroundings of a dispatcher in the system of both programs: the kernel answers
its calls as on the link, and the listener makes its own calls in between. -/
def system (unix descriptor : Int) (names : ApplicationConfig) :
    Kernel (Config Memory Wire Call Reply Unit) Call Reply Reply :=
  (wire unix).beside (Mydisp.link descriptor names) Wire.link fun w link => { w with link := link }

/-- The listener at its start. -/
def booting (tcp unix : Nat) (names : ApplicationConfig) (others : List Int)
    (before iterations : Nat) : Config Memory Wire Call Reply Unit :=
  ⟨started tcp unix names, wired tcp unix others before, main iterations⟩

/-- The listener's program makes the moves of the link. -/
theorem system_simulates (unix descriptor : Int) (names : ApplicationConfig) :
    (system unix descriptor names).Simulates (Mydisp.link descriptor names)
      (Safe (wire unix) anyReply (Conforms unix descriptor names)) fun listener =>
        listener.world.link := by
  apply beside_simulates fun _ _ => rfl
  intro w c r link hreply
  have hact : (wire unix).act w link = some { w with link := link } :=
    if_pos (link_reply_phase hreply)
  exact Relation.ReflTransGen.single ⟨link, hact⟩

/-- Every run of the system of both programs is, for the dispatcher, a run on the link: the
listener's program only ever does what the link lets it do. -/
theorem refines_link {α : Type} (tcp unix before iterations : Nat) (descriptor : Int)
    (names : ApplicationConfig) (others : List Int)
    {H : Memory → Mydisp.Link → Call → Reply → Prop} (m : Memory) (p : Proc α)
    {cfg : Config Memory (Config Memory Wire Call Reply Unit) Call Reply α}
    (h : Reaches (system unix descriptor names) (fun m listener => H m listener.world.link)
      ⟨m, booting tcp unix names others before iterations, p⟩ cfg) :
    Reaches (Mydisp.link descriptor names) H ⟨m, {}, p⟩
      ⟨cfg.memory, cfg.world.world.link, cfg.prog⟩ :=
  (Reaches.simulate (system_simulates unix descriptor names) h
    (wired_main tcp unix iterations before descriptor names others)).1

/-- The dispatcher connects first, and is sent its label and text. -/
theorem refines_link_configured :
    ∃ cfg, Reaches (Mydisp.link 3 {}) anyReply
        ⟨Mydisp.started 3, {}, Mydisp.mainLoop Mydisp.unixSocket 1 1⟩ cfg ∧
      cfg.world.queue.map Segment.content = [configLabel, configText 42 {}] := by
  have hscript : (exec (system 8 3 {}) ⟨Mydisp.started 3, booting 7 8 {} [] 0 1,
      Mydisp.mainLoop Mydisp.unixSocket 1 1⟩
      [.inl { ret := 42 }, .inl {}, .inl {}, .inl {}, .inl {},
        .inl { ret := 1, revents := [NO_EVENTS, POLLIN] }, .inl { ret := 5 }, .inl {},
        .inl { ret := 6 }, .inl { ret := 42 }, .inl { ret := 35 }]).map
      (fun cfg => cfg.world.world.link.queue.map Segment.content) =
        some [configLabel, configText 42 {}] := by decide
  obtain ⟨cfg, hexec, hqueue⟩ := Option.map_eq_some_iff.mp hscript
  exact ⟨_, refines_link 7 8 0 1 3 {} [] _ _ (reaches_of_exec hexec), hqueue⟩

end Mylsnr

end SocketDispatcher
