import SocketDispatcher.Mydisp.Link

/-!
# Messages on the link

Whether the dispatcher makes of the byte stream what the listener has put into it.
The dispatcher recognises a message by how many bytes it can see and by their
beginning, while the stream joins and splits what was written.

Main results:

- Theorem {lit}`whole_read`: what a read takes from a queue of whole messages.
- Theorem {lit}`faithful_of_separated`: as long as the configuration is received on
  its own, and every client in one piece and after it, every consumed descriptor was
  returned once and offered once, in order, and a consumed request to exit is obeyed.
- Theorem {lit}`swallowed_client`: a client that arrives together with the
  configuration is lost.
-/

namespace SocketDispatcher

open Interaction SegmentedStream

namespace Mydisp

/-- At the end of a call of {lit}`dispatcherProcess` every consumed descriptor was
returned by one {lit}`createSocket` and offered to {lit}`putSocket` once, in order,
and the call has returned false if the request to exit was consumed.  A dispatcher that
dies has offered all that it had consumed. -/
def Faithfully (_ : Memory) (w : Link) : Call → Prop
  | .note (.dispatcherProcess ok) =>
      w.consumed = w.returned.map some ∧ w.offered = w.returned ∧
        (w.exitRead = true → ok = false)
  | .crash => w.consumed = w.returned.map some ∧ w.offered = w.returned
  | _ => True

/-- The {lit}`recv` of the configuration reads no descriptor and does not complete
the request to exit.  A chunk that brings a descriptor brings the whole message, the
kernel gives the descriptor a positive number, and the dispatcher has a context. -/
def Separated (m : Memory) (w : Link) : Call → Reply → Prop
  | .recv _ _ _ false, r =>
      ∀ reading, SegmentedStream.read r.ret.toNat w.queue = some reading →
        reading.events = []
  | .recvmsg .., r =>
      ∀ d ∈ r.data, 0 < d ∧ messageStatus r.bytes = some 0 ∧ m.ssl.sslGlobalCtx ≠ none
  | _, _ => True

/-! ## Whole messages -/

/-- The segment is text, or a client that no read has begun. -/
inductive Whole : Segment Byte Event → Prop where
  | text {content : List Byte} {last : List Event} (hzero : 0 ∉ content)
      (hlast : .descriptor ∉ last) : Whole { content := content, last := last }
  | client : Whole clientSegment

/-- The reading is text, and what is left is whole. -/
def Plain (reading : Reading Byte Event) : Prop :=
  .descriptor ∉ reading.events ∧ 0 ∉ reading.content ∧ ∀ segment ∈ reading.rest, Whole segment

/-- The reading ends in a client, of which the second byte may be missing. -/
def Carries (reading : Reading Byte Event) : Prop :=
  ∃ before text, reading.events = before ++ [.descriptor] ∧ 0 ∉ text ∧
    (reading.content = text ++ [0] ∨
      reading.content = text ++ [0, 0] ∧ ∀ segment ∈ reading.rest, Whole segment)

/-- What a read takes from a queue of whole messages. -/
theorem whole_read {n : Nat} {queue : List (Segment Byte Event)}
    {reading : Reading Byte Event} (h : SegmentedStream.read n queue = some reading)
    (hwhole : ∀ segment ∈ queue, Whole segment) : Plain reading ∨ Carries reading := by
  revert hwhole
  apply read_induction (motive := fun _ queue reading =>
    (∀ segment ∈ queue, Whole segment) → Plain reading ∨ Carries reading) _ _ _ _ h
  · intro queue hwhole
    exact Or.inl ⟨by simp, by simp, hwhole⟩
  · intro n segment queue hlt hwhole
    have hrest : ∀ segment ∈ queue, Whole segment :=
      fun other hother => hwhole other (List.mem_cons_of_mem segment hother)
    cases hwhole segment (List.mem_cons_self ..) with
    | text hzero hlast =>
        refine Or.inl ⟨by simp, fun hmem => hzero (List.mem_of_mem_take hmem), ?_⟩
        refine List.forall_mem_cons.mpr ⟨.text ?_ hlast, hrest⟩
        exact fun hmem => hzero (List.mem_of_mem_drop hmem)
    | client =>
        have hn : n = 0 := by
          simp only [clientSegment, List.length_cons, List.length_nil] at hlt
          omega
        subst n
        exact Or.inr ⟨[], [], rfl, by simp, Or.inl rfl⟩
  · intro n segment queue heq hwhole
    have hrest : ∀ segment ∈ queue, Whole segment :=
      fun other hother => hwhole other (List.mem_cons_of_mem segment hother)
    cases hwhole segment (List.mem_cons_self ..) with
    | text hzero hlast => exact Or.inl ⟨by simpa using hlast, hzero, hrest⟩
    | client => exact Or.inr ⟨[], [], rfl, by simp, Or.inr ⟨rfl, hrest⟩⟩
  · intro n segment queue reading hlt hstop ih hwhole
    have hrest : ∀ segment ∈ queue, Whole segment :=
      fun other hother => hwhole other (List.mem_cons_of_mem segment hother)
    cases hwhole segment (List.mem_cons_self ..) with
    | @text content last hzero hlast =>
        rcases ih hrest with ⟨hevents, hcontent, hwhole⟩ | ⟨before, text, hevents, htext, hcontent⟩
        · refine Or.inl ⟨?_, ?_, hwhole⟩
          · simpa using ⟨hlast, hevents⟩
          · simpa using ⟨hzero, hcontent⟩
        · refine Or.inr ⟨last ++ before, content ++ text, ?_, ?_, ?_⟩
          · simp [hevents]
          · simpa using ⟨hzero, htext⟩
          · rcases hcontent with hcontent | ⟨hcontent, hwhole⟩
            · exact Or.inl (by simp [hcontent])
            · exact Or.inr ⟨by simp [hcontent], hwhole⟩
    | client => contradiction

/-- A carrying chunk that ends in a complete message leaves whole messages. -/
theorem Carries.complete {reading : Reading Byte Event} (h : Carries reading)
    (hstatus : messageStatus reading.content = some 0) :
    ∀ segment ∈ reading.rest, Whole segment := by
  obtain ⟨before, text, -, htext, hcontent⟩ := h
  rcases hcontent with hcontent | ⟨-, hwhole⟩
  · obtain ⟨pre, hpre, -⟩ := messageStatus_eq_some hstatus
    have hsplit : text ++ [0] = (pre ++ [0]) ++ [0] := by
      rw [← hcontent, hpre, List.append_assoc]
      rfl
    have heq : text = pre ++ [0] := List.append_cancel_right hsplit
    exact absurd (by simp [heq]) htext
  · exact hwhole

/-! ## The invariant -/

/-- What is queued is whole and ends with the request to exit, if there is one.  Of
the consumed descriptors, {lit}`unreturned` are still to be returned, and
{lit}`unoffered` have been returned but not yet been offered. -/
structure Faithful (unreturned unoffered : List Int) (w : Link) : Prop where
  whole : ∀ segment ∈ w.queue, Whole segment
  exitLast : .exit ∉ (pending w.queue).dropLast
  unasked : w.phase ≠ .done → .exit ∉ pending w.queue ∧ w.exitRead = false
  ended : w.exitRead = true → pending w.queue = []
  consumed : w.consumed = (w.returned ++ unreturned).map some
  offered : w.returned = w.offered ++ unoffered

section Steps

variable {unreturned unoffered : List Int} {appCfg : ApplicationConfig} {w w' : Link}

/-- A whole segment without the request to exit may follow. -/
theorem Faithful.put (h : Faithful unreturned unoffered w) {segment : Segment Byte Event}
    {phase : Phase} (hsegment : Whole segment)
    (hevents : .exit ∉ segment.first ++ segment.last) (hphase : w.phase ≠ .done) :
    Faithful unreturned unoffered (w.put segment phase) := by
  obtain ⟨hpending, hunread⟩ := h.unasked hphase
  have hnone : .exit ∉ pending (w.queue ++ [segment]) := by
    rw [pending_append, pending_singleton, List.mem_append]
    exact fun hmem => hmem.elim hpending hevents
  exact
    { whole := by
        intro other hother
        rcases List.mem_append.mp hother with hother | hother
        · exact h.whole other hother
        · exact List.mem_singleton.mp hother ▸ hsegment
      exitLast := fun hmem => hnone (List.dropLast_subset _ hmem)
      unasked := fun _ => ⟨hnone, hunread⟩
      ended := fun hread => absurd (hunread.symm.trans hread) (by decide)
      consumed := h.consumed
      offered := h.offered }

/-- The request to exit may follow once. -/
theorem Faithful.putExit (h : Faithful unreturned unoffered w) (hphase : w.phase ≠ .done) :
    Faithful unreturned unoffered (w.put exitSegment .done) := by
  obtain ⟨hpending, hunread⟩ := h.unasked hphase
  exact
    { whole := by
        intro other hother
        rcases List.mem_append.mp hother with hother | hother
        · exact h.whole other hother
        · exact List.mem_singleton.mp hother ▸ .text (by decide) (by decide)
      exitLast := by
        change .exit ∉ (pending (w.queue ++ [exitSegment])).dropLast
        rw [pending_append, pending_singleton]
        simpa [exitSegment] using hpending
      unasked := fun hdone => absurd rfl hdone
      ended := fun hread => absurd (hunread.symm.trans hread) (by decide)
      consumed := h.consumed
      offered := h.offered }

/-- The listener keeps the invariant and reads nothing. -/
theorem Faithful.act (h : Faithful unreturned unoffered w) {a : Sending}
    (hact : w.act appCfg a = some w') :
    Faithful unreturned unoffered w' ∧ w'.exitRead = w.exitRead := by
  rcases act_cases hact with ⟨hphase, rfl⟩ | ⟨pid, hphase, rfl⟩ | ⟨hphase, rfl⟩ |
    ⟨hphase, rfl⟩ | rfl
  · exact ⟨h.put (.text (by decide) (by simp)) (by simp) (by simp [hphase]), rfl⟩
  · have hzero := Mylsnr.zero_not_mem_configText pid appCfg
    exact ⟨h.put (.text hzero (by simp)) (by simp) (by simp [hphase]), rfl⟩
  · exact ⟨h.put .client (by decide) hphase, rfl⟩
  · exact ⟨h.putExit hphase, rfl⟩
  · exact ⟨⟨h.whole, h.exitLast, h.unasked, h.ended, h.consumed, h.offered⟩, rfl⟩

/-- Events leave the queue in order, so nothing follows a request to exit. -/
theorem Faithful.events (h : Faithful unreturned unoffered w) {n : Nat}
    {reading : Reading Byte Event}
    (hread : SegmentedStream.read n w.queue = some reading) :
    .exit ∉ (pending reading.rest).dropLast ∧
      (.exit ∈ reading.events → pending reading.rest = [] ∧ .exit ∉ reading.events.dropLast) := by
  have hpending := read_pending hread
  have hlast := h.exitLast
  by_cases hrest : pending reading.rest = []
  · rw [hrest, List.append_nil] at hpending
    rw [← hpending] at hlast
    exact ⟨by simp [hrest], fun _ => ⟨hrest, hlast⟩⟩
  · rw [← hpending, List.dropLast_append_of_ne_nil hrest, List.mem_append, not_or] at hlast
    exact ⟨hlast.2, fun hmem => absurd hmem hlast.1⟩

/-- A consumed reading that leaves whole messages keeps the invariant. -/
theorem Faithful.consume (h : Faithful [] [] w) {n : Nat} {reading : Reading Byte Event}
    (hread : SegmentedStream.read n w.queue = some reading)
    (hwhole : ∀ segment ∈ reading.rest, Whole segment) (descriptors : List Int) :
    Faithful descriptors [] (w.consume reading (descriptors.map some)) := by
  obtain ⟨hlast, hexit⟩ := h.events hread
  have hpending := read_pending hread
  exact
    { whole := hwhole
      exitLast := hlast
      unasked := by
        intro hphase
        obtain ⟨hnone, hunread⟩ := h.unasked hphase
        rw [← hpending, List.mem_append, not_or] at hnone
        exact ⟨hnone.2, by simp [Link.consume, hunread, hnone.1]⟩
      ended := by
        intro hexitRead
        simp only [Link.consume, Bool.or_eq_true, decide_eq_true_eq] at hexitRead
        rcases hexitRead with hbefore | hnow
        · have hempty := h.ended hbefore
          rw [← hpending] at hempty
          exact (List.append_eq_nil_iff.mp hempty).2
        · exact (hexit hnow).1
      consumed := by simp [Link.consume, h.consumed]
      offered := h.offered }

/-- A chunk with a descriptor does not complete the request to exit, and comes before
it. -/
theorem Faithful.unread (h : Faithful unreturned unoffered w) {n : Nat}
    {reading : Reading Byte Event} (hread : SegmentedStream.read n w.queue = some reading)
    (hcarries : Carries reading) (descriptors : List (Option Int)) :
    (w.consume reading descriptors).exitRead = false := by
  obtain ⟨before, text, hevents, -, -⟩ := hcarries
  have hbefore : w.exitRead = false := by
    by_contra htrue
    have hempty := h.ended (by simpa using htrue)
    rw [← read_pending hread, hevents] at hempty
    simp at hempty
  have hnow : .exit ∉ reading.events := by
    intro hmem
    apply ((h.events hread).2 hmem).2
    rw [hevents] at hmem ⊢
    simpa using hmem
  simp [Link.consume, hbefore, hnow]

/-- A chunk of text decides nothing. -/
theorem take_status {size : Nat} {r : Reply} {reading : Reading Byte Event}
    (htake : w.take size r = some reading) (hzero : 0 ∉ reading.content) (control : Int)
    (buf : List Byte) : (scan control (memcpy buf r.bytes) r.ret (-1)).status = -1 := by
  obtain ⟨-, hbytes, hlength⟩ := take_eq_some htake
  by_cases hret : r.ret ≤ 0
  · exact scan_of_nonpos hret _
  · have hret : r.ret = r.bytes.length := by omega
    rw [hret, memcpy]
    exact scan_of_zero_not_mem (hbytes ▸ hzero)

/-- A chunk is text, and no status has been decoded, or it is a whole client message
and is decoded to its descriptor. -/
theorem Faithful.chunk (h : Faithful [] [] w) {size : Nat} {r : Reply}
    {reading : Reading Byte Event} (htake : w.take size r = some reading)
    (hdata : r.data.isSome ↔ .descriptor ∈ reading.events)
    (hseparated : ∀ d ∈ r.data, 0 < d ∧ messageStatus r.bytes = some 0) :
    (r.data = none ∧ Faithful [] [] (w.consume reading []) ∧
      ∀ control buf, (scan control (memcpy buf r.bytes) r.ret (-1)).status = -1) ∨
    (∃ d, r.data = some d ∧ 0 < d ∧ r.ret ≠ 0 ∧
      Faithful [d] [] (w.consume reading [some d]) ∧
      (w.consume reading [some d]).exitRead = false ∧
      ∀ buf, scan d (memcpy buf r.bytes) r.ret (-1) = ⟨0, d⟩) := by
  obtain ⟨hread, hbytes, hlength⟩ := take_eq_some htake
  cases hd : r.data with
  | none =>
      have hnone : .descriptor ∉ reading.events := by simpa [hd] using hdata
      have hplain : Plain reading := by
        rcases whole_read hread h.whole with hplain | ⟨before, _, hevents, -⟩
        · exact hplain
        · exact absurd (by simp [hevents]) hnone
      exact Or.inl ⟨rfl, h.consume hread hplain.2.2 [], take_status htake hplain.2.1⟩
  | some d =>
      obtain ⟨hpos, hmessage⟩ := hseparated d hd
      have hcarries : Carries reading := by
        rcases whole_read hread h.whole with hplain | hcarries
        · exact absurd (hdata.mp (by simp [hd])) hplain.1
        · exact hcarries
      have hret : r.ret = r.bytes.length ∧ r.ret ≠ 0 := by
        obtain ⟨pre, hpre, -⟩ := messageStatus_eq_some hmessage
        have : 0 < r.bytes.length := by simp [hpre]
        omega
      refine Or.inr ⟨d, rfl, hpos, hret.2, ?_, h.unread hread hcarries [some d], ?_⟩
      · exact h.consume hread (hcarries.complete (hbytes ▸ hmessage)) [d]
      · intro buf
        rw [hret.1, scan_messageStatus hmessage]
        rfl

/-- The consumed descriptor is returned. -/
theorem Faithful.returnSocket {d : Int} (h : Faithful [d] [] w) :
    Faithful [] [d] { w with returned := w.returned ++ [d] } :=
  ⟨h.whole, h.exitLast, h.unasked, h.ended, by simp [h.consumed], by simp [h.offered]⟩

/-- The returned descriptor is offered. -/
theorem Faithful.offer {d : Int} (h : Faithful [] [d] w) :
    Faithful [] [] { w with offered := w.offered ++ [d] } :=
  ⟨h.whole, h.exitLast, h.unasked, h.ended, h.consumed, by simp [h.offered]⟩

end Steps

/-! ## One message -/

/-- The calls that the invariant does not notice. -/
def Unnoticed : Call → Prop
  | .note (.dispatcherProcess _) => False
  | .note (.createContext ..) => True
  | c => OffLink c

theorem unnoticed_of_configuring : ∀ c, Configuring c → Unnoticed c := by
  apply forall_configuring <;> intros <;> trivial

theorem unnoticed_of_ordinary : ∀ c, Ordinary c → Unnoticed c := by
  apply forall_ordinary <;> intros <;> trivial

section Message

variable {descriptor : Int} {appCfg : ApplicationConfig} {fuel : Nat}
variable {I : Memory → Prop} {s : Memory} {w : Link}

/-- The listener keeps the invariant between the steps of the dispatcher. -/
theorem faithful_act (descriptor : Int) (appCfg : ApplicationConfig)
    (unreturned unoffered : List Int) (R : Bool → Prop) (w : Link) (a : Sending) (w' : Link)
    (hact : (link descriptor appCfg).act w a = some w')
    (hJ : Faithful unreturned unoffered w ∧ R w.exitRead) :
    Faithful unreturned unoffered w' ∧ R w'.exitRead := by
  obtain ⟨h, hread⟩ := hJ.1.act hact
  exact ⟨h, hread ▸ hJ.2⟩

theorem faithful_quiet (descriptor : Int) (appCfg : ApplicationConfig) (R : Bool → Prop) :
    Quiet (link descriptor appCfg) Separated Faithfully (fun _ => True) Unnoticed
      (fun w => Faithful [] [] w ∧ R w.exitRead) where
  guarantee s w c _ hc hJ := by
    fun_cases Faithfully s w c with
    | case1 => exact hc.elim
    | case2 => exact ⟨by simpa using hJ.1.consumed, by simpa using hJ.1.offered.symm⟩
    | case3 => trivial
  reply s w c r w' _ hc hreply _ hJ := by
    by_cases hoff : OffLink c
    · exact link_reply hoff hreply ▸ hJ
    · cases c with
      | note n =>
          cases n with
          | createContext =>
              obtain rfl := Option.some.inj hreply
              obtain ⟨h, hR⟩ := hJ
              exact ⟨⟨h.whole, h.exitLast, h.unasked, h.ended, h.consumed, h.offered⟩, hR⟩
          | dispatcherProcess => exact hc.elim
          | _ => exact absurd hc hoff
      | _ => exact absurd hc hoff
  act := faithful_act descriptor appCfg [] [] R

/-- The empty pointer and nothing consumed; or a new object for a consumed descriptor, of
which {lit}`J` holds, and there is a context. -/
def Fetched (I : Memory → Prop) (J : Int → Link → Prop) (s' : Memory) (w' : Link) (p : Ptr) :
    Prop :=
  (p = nullptr ∧ I s' ∧ Faithful [] [] w') ∨
    ∃ s₀ newfd, ∃ hpos : 0 < newfd, I s₀ ∧ s₀.ssl.sslGlobalCtx ≠ none ∧
      s' = s₀.alloc (tcpSocket newfd hpos) ∧ p = s₀.next ∧ J newfd w' ∧ w'.exitRead = false

/-- The chunk that brings a descriptor ends the loop. -/
theorem faithful_createSocketLoop (hshape : ∀ s, I s → Shape descriptor s)
    (hcmptr : ∀ s cmptr, I s → I { s with cmptr := cmptr }) (hI : I s)
    (h : Faithful [] [] w) (buf : List Byte) :
    Sat (link descriptor appCfg) Separated Faithfully (createSocketLoop unixSocket fuel buf (-1))
      (Fetched I fun newfd w' => Faithful [newfd] [] w') s w := by
  have hquiet := faithful_quiet descriptor appCfg (fun _ => True)
  apply sat_createSocketLoop fun s w => I s ∧ Faithful [] [] w
  · intro s w w₁ hinv _ hacts
    exact hquiet.guarantee s w₁ _ trivial trivial (hacts.keeps hquiet.act ⟨hinv.2, trivial⟩)
  · intro s w hinv
    apply sat_allocControl
    · intro _
      simpa using hinv
    · intro _
      refine sat_ask_quiet hquiet (by trivial) trivial ⟨hinv.2, trivial⟩ fun r w hJ => ?_
      exact ⟨fun _ => Or.inl ⟨rfl, hinv.1, hJ.1⟩, fun _ _ => ⟨hcmptr s _ hinv.1, hJ.1⟩⟩
  · intro s w socket buf hinv hsocket
    rw [(hshape s hinv.1).descriptor_unix hsocket]
    apply sat_ask_keeps hquiet.act ⟨hinv.2, trivial⟩ fun _ _ => trivial
    rintro w₁ r w₂ ⟨hw₁, -⟩ hreply hseparated
    obtain ⟨reading, htake, hdata, rfl⟩ := link_recvmsg hreply
    have hstored : I (s.storeControl r.data) := hcmptr s _ hinv.1
    have hmessage : ∀ d ∈ r.data, 0 < d ∧ messageStatus r.bytes = some 0 :=
      fun d hd => ⟨(hseparated d hd).1, (hseparated d hd).2.1⟩
    rcases hw₁.chunk htake hdata hmessage with ⟨hd, hw₂, hstatus⟩ |
      ⟨d, hd, hpos, hret, hw₂, hunread, hscan⟩
    · -- text: the stream has ended, or the loop goes on
      rw [hd] at hstored ⊢
      refine ⟨fun _ => Or.inl ⟨rfl, hinv.1, hw₂⟩, fun _ => ?_⟩
      simp only [hstatus]
      exact ⟨fun _ => ⟨hstored, hw₂⟩, fun hzero => absurd hzero (by decide),
        fun hgt => absurd hgt (by decide)⟩
    · have hctx : s.ssl.sslGlobalCtx ≠ none := (hseparated d hd).2.2
      rw [hd] at hstored ⊢
      refine ⟨fun hzero => absurd hzero hret, fun _ => ?_⟩
      have hcontrol : (s.storeControl (some d)).cmptr.getD 0 = d := rfl
      simp only [hcontrol, hscan]
      refine ⟨fun hneg => absurd hneg (by decide), fun _ => ?_,
        fun hgt => absurd hgt (by decide)⟩
      rw [makeTcpSocket, dif_pos hpos, sat_makeShared]
      exact Or.inr ⟨_, d, hpos, hstored, hctx, rfl, rfl, hw₂, hunread⟩
  · exact ⟨hI, h⟩

/-- A call of {lit}`createSocket` returns the descriptor that it consumes. -/
theorem faithful_createSocket (hshape : ∀ s, I s → Shape descriptor s)
    (hcmptr : ∀ s cmptr, I s → I { s with cmptr := cmptr }) (hI : I s)
    (h : Faithful [] [] w) :
    Sat (link descriptor appCfg) Separated Faithfully (createSocket unixSocket fuel)
      (Fetched I fun newfd w' => Faithful [] [newfd] w') s w := by
  have hquiet := faithful_quiet descriptor appCfg (fun _ => True)
  rw [createSocket, sat_bind]
  refine sat_ask_quiet hquiet (by trivial) trivial ⟨h, trivial⟩ fun buf w hJ => ?_
  refine (faithful_createSocketLoop hshape hcmptr hI hJ.1 buf.bytes).seq ?_
  rintro s w p (⟨rfl, hI, h⟩ | ⟨s₀, newfd, hpos, hI, hctx, rfl, rfl, h, hunread⟩)
  · rw [sat_bind, sat_get, sat_bind]
    refine sat_note_quiet hquiet (by trivial) trivial ⟨h, trivial⟩ fun w hJ => ?_
    exact Or.inl ⟨rfl, hI, hJ.1⟩
  · have hdescriptor : (s₀.alloc (tcpSocket newfd hpos)).descriptorOf s₀.next = newfd := by
      simp [Memory.descriptorOf, tcpSocket]
    rw [sat_bind, sat_get, if_neg (hshape s₀ hI).next_ne_nullptr, hdescriptor, sat_bind,
      sat_note]
    apply sat_ask_keeps (faithful_act descriptor appCfg [newfd] [] (· = false)) ⟨h, hunread⟩
      fun _ _ => trivial
    rintro w₁ r w₂ ⟨hw₁, hunread₁⟩ hreply _
    obtain rfl := Option.some.inj hreply
    exact Or.inr ⟨s₀, newfd, hpos, hI, hctx, rfl, rfl, hw₁.returnSocket, hunread₁⟩

/-- A client that has been returned is offered to the list once, whether it joins or is
turned away. -/
theorem faithful_acceptClient (tcp : Socket) (hs : Shape descriptor s)
    (hctx : s.ssl.sslGlobalCtx ≠ none) (h : Faithful [] [tcp.descriptor] w)
    (hunread : w.exitRead = false) :
    Sat (link descriptor appCfg) Separated Faithfully (acceptClient s.next)
      (fun s' w' _ => Shape descriptor s' ∧ s'.outputSocketsList = s.outputSocketsList ∧
        Faithful [] [] w' ∧ w'.exitRead = false) (s.alloc tcp) w := by
  have hput : ∀ stored s' (Q : Memory → Link → Unit → Prop),
      (∀ w', Faithful [] [] w' ∧ w'.exitRead = false → Q s' w' ()) →
      Sat (link descriptor appCfg) Separated Faithfully
        (note (.putSocket (s.next + 1) tcp.descriptor stored)) Q s' w := by
    intro stored s' Q hQ
    rw [sat_note]
    apply sat_ask_keeps (faithful_act descriptor appCfg [] [tcp.descriptor] (· = false))
      ⟨h, hunread⟩ fun _ _ => trivial
    rintro w₁ r w₂ ⟨hw₁, hunread₁⟩ hreply _
    obtain rfl := Option.some.inj hreply
    exact hQ _ ⟨hw₁.offer, hunread₁⟩
  apply sat_acceptClient hs.toTidy
  · intro hnone
    exact absurd hnone hctx
  · intro _
    exact hput true _ _ fun w hJ => ⟨hs.join, rfl, hJ⟩
  · intro _
    refine hput false _ _ fun w hJ => ?_
    have hquiet := faithful_quiet descriptor appCfg (· = false)
    refine sat_ask_quiet hquiet (by trivial) trivial hJ fun _ w hJ => ?_
    refine sat_ask_quiet hquiet (by trivial) trivial hJ fun _ w hJ => ?_
    exact ⟨hs.refuse, rfl, hJ⟩

/-- One message of the listener keeps the invariant, and a call that consumes the
request to exit returns false. -/
theorem faithful_dispatcherProcess (hs : Shape descriptor s) (h : Faithful [] [] w)
    (hunread : w.exitRead = false) :
    Sat (link descriptor appCfg) Separated Faithfully (dispatcherProcess unixSocket fuel)
      (fun s' w' ok => Faithful [] [] w' ∧ (ok = true → w'.exitRead = false ∧
        Shape descriptor s' ∧ s'.outputSocketsList = s.outputSocketsList)) s w := by
  let I := fun s' => Shape descriptor s' ∧ s'.outputSocketsList = s.outputSocketsList
  have hglobals : ∀ s' appCfg ssl cmptr, I s' →
      I { s' with appCfg := appCfg, ssl := ssl, cmptr := cmptr } :=
    fun s' appCfg ssl cmptr hI => ⟨hI.1.globals appCfg ssl cmptr, hI.2⟩
  have hquiet := faithful_quiet descriptor appCfg (· = false)
  apply sat_dispatcherProcess descriptor fun s' w' =>
    I s' ∧ Faithful [] [] w' ∧ w'.exitRead = false
  · intro s' w' w₁ hinv hacts
    exact hquiet.guarantee s' w₁ _ trivial trivial (hacts.keeps hquiet.act hinv.2)
  · exact fun s' _ socket hinv => hinv.1.1.descriptor_unix
  · intro s' w' size hinv
    exact sat_ask_quiet hquiet (by trivial) trivial hinv.2 fun _ w' hJ => ⟨hinv.1, hJ⟩
  · intro s' w' buffer hinv
    apply sat_ask_keeps hquiet.act hinv.2 fun _ _ => trivial
    intro w₁ r w₂ hw₁ hreply _
    exact ⟨hinv.1, (link_peek hreply).symm ▸ hw₁⟩
  · intro s' w' hinv
    apply (faithful_createSocket (I := I) (fun _ hI => hI.1)
      (fun s' cmptr => hglobals s' s'.appCfg s'.ssl cmptr) hinv.1 hinv.2.1).mono
    rintro s' w' p (⟨rfl, hI, h⟩ | ⟨s₀, newfd, hpos, hI, hctx, rfl, rfl, h, hunread⟩)
    · simpa using h
    · rw [if_neg hI.1.next_ne_nullptr]
      apply (faithful_acceptClient (tcpSocket newfd hpos) hI.1 hctx h hunread).mono
      rintro s' w' _ ⟨hs', houtput, h, hunread⟩
      exact ⟨h, fun _ => ⟨hunread, hs', houtput.trans hI.2⟩⟩
  · intro s' w' buffer hinv
    apply sat_ask_keeps hquiet.act hinv.2 fun _ _ => trivial
    intro w₁ r w₂ hw₁ hreply hseparated
    obtain ⟨reading, htake, rfl⟩ := link_recv hreply
    obtain ⟨hread, -, -⟩ := take_eq_some htake
    have hevents := hseparated reading hread
    have hwhole : ∀ segment ∈ reading.rest, Whole segment := by
      rcases whole_read hread hw₁.1.whole with hplain | ⟨before, _, hcarried, -⟩
      · exact hplain.2.2
      · rw [hevents] at hcarried
        simp at hcarried
    have hw₂ : Faithful [] [] (w₁.discard reading) ∧
        (w₁.discard reading).exitRead = false := by
      refine ⟨?_, by simp [Link.discard, Link.consume, hevents, hw₁.2]⟩
      simpa [Link.discard, hevents] using hw₁.1.consume hread hwhole []
    refine ⟨fun _ => ⟨hw₂.1, fun hok => absurd hok (by decide)⟩, fun _ => ?_⟩
    have hconfig : Within I Unnoticed (processConfig (memcpy buffer r.bytes) r.ret.toNat) := by
      apply within_processConfig
      · exact unnoticed_of_configuring
      · exact fun s' appCfg => hglobals s' appCfg s'.ssl s'.cmptr
      · exact fun s' ssl => hglobals s' s'.appCfg ssl s'.cmptr
    have hquiet' : Quiet (link descriptor appCfg) Separated Faithfully I Unnoticed
        (fun w => Faithful [] [] w ∧ w.exitRead = false) :=
      hquiet.mono (fun _ _ => trivial) fun _ hc => hc
    apply (hconfig.sat hquiet' hinv.1 hw₂).mono
    rintro s' w' ok ⟨hI, h, hunread⟩
    exact ⟨h, fun _ => ⟨hunread, hI⟩⟩
  · exact fun s' w' ok hinv => ⟨hinv.2.1, fun _ => ⟨hinv.2.2, hinv.1⟩⟩
  · exact ⟨⟨hs, rfl⟩, h, hunread⟩

end Message

/-! ## Whole runs -/

theorem faithful_started : Faithful [] [] {} where
  whole _ h := nomatch h
  exitLast := by simp [pending]
  unasked _ := ⟨by simp [pending], rfl⟩
  ended h := nomatch h
  consumed := rfl
  offered := rfl

/-- For every order of the listener's sends and the dispatcher's steps, as long as the
configuration is received on its own, and every client in one piece and when there is a
context: every consumed descriptor was returned by one {lit}`createSocket` and offered
once, in order, and a consumed request to exit made its call of
{lit}`dispatcherProcess` return false. -/
theorem faithful_of_separated (descriptor fuel cycles : Nat) (appCfg : ApplicationConfig) :
    Safe (link descriptor appCfg) Separated Faithfully
      ⟨started descriptor, {}, mainLoop unixSocket fuel cycles⟩ := by
  apply Sat.safe
  have hquiet := faithful_quiet descriptor appCfg (· = false)
  apply sat_mainLoop_messages descriptor
    fun _ w => Faithful [] [] w ∧ w.exitRead = false
  · intro _
    exact hquiet.mono (fun _ hI => hI) unnoticed_of_ordinary
  · intro _ _
    trivial
  · intro s w hs hR
    apply (faithful_dispatcherProcess hs hR.1 hR.2).mono
    rintro s' w ok ⟨h, hok⟩
    have hquiet := faithful_quiet descriptor appCfg
      fun exitRead => ok = true → exitRead = false
    rw [sat_note]
    apply sat_ask_keeps hquiet.act ⟨h, fun htrue => (hok htrue).1⟩
    · rintro w₁ ⟨hw₁, hread⟩
      refine ⟨by simpa using hw₁.consumed, by simpa using hw₁.offered.symm, ?_⟩
      intro hexit
      by_contra htrue
      have := hread (by simpa using htrue)
      rw [hexit] at this
      contradiction
    rintro w₁ r w₂ ⟨hw₁, hread⟩ hreply _ htrue
    obtain rfl := Option.some.inj hreply
    obtain ⟨-, hs', houtput⟩ := hok htrue
    exact ⟨hs', ⟨hw₁, hread htrue⟩, houtput⟩
  · exact shape_started descriptor
  · exact ⟨faithful_started, rfl⟩

/-- The label, the text and the first client are all queued when the dispatcher looks:
the {lit}`recv` of the configuration takes the client's bytes as well, and its
descriptor is gone. -/
theorem swallowed_client :
    ¬Safe (link 3 {}) anyReply Faithfully
      ⟨started 3, {}, mainLoop unixSocket 1 1⟩ :=
  not_safe_of_exec
    (fun _ w c => decide (c = .note (.dispatcherProcess true) → w.consumed = w.returned.map some))
    (by
      intro s w c hG
      rw [decide_eq_true_eq]
      rintro rfl
      exact hG.1)
    (let message := Mylsnr.configLabel ++ Mylsnr.configText 1 {} ++ [0, 0]
    [.inl .label, .inl (.text 1), .inl .client,
      .inr {}, .inr { ret := 1, revents := [POLLIN] }, .inr {},
      .inr { ret := 6, bytes := Mylsnr.configLabel }, .inr {},
      .inr { ret := message.length, bytes := message },
      .inr {}, .inr {}, .inr { ret := 1 }, .inr { ret := 1 }, .inr { ret := 1 },
      .inr { ret := 1 }])
    (by decide)

end Mydisp

end SocketDispatcher
