import SocketDispatcher.Mydisp.Link
import SocketDispatcher.Mydisp.StaleBytes

/-!
# Progress on the UNIX socket

Whether a call of {lit}`dispatcherProcess` makes the receive queue shorter or ends the
dispatcher.  The queue is arbitrary: any bytes, in any segments, with or without
descriptors, and more of them may arrive between any two steps.

Main results:

- Theorem {lit}`sat_createSocket_progress`: a received client has been taken off the
  queue.
- Theorem {lit}`progress_iff`: a call makes progress exactly when the look at the queue
  brings two bytes, or leaves a message in the buffer that starts with a keyword.
- Theorem {lit}`unknown_message_stays`: a message of one unknown byte stays for ever.
-/

namespace SocketDispatcher

open Interaction SegmentedStream

namespace Mydisp

/-! ## The receive queue -/

/-- The receive queue of the dispatcher, with a record of what has been taken off. -/
structure Inbox where
  queue : List (Segment Byte Event)
  /-- The number of bytes that have been removed. -/
  removed : Nat := 0
  /-- The count of the last look at the queue, and the buffer after it. -/
  peeked : Option (Int × List Byte) := none

namespace Inbox

/-- What a read into a buffer of the given size may return.  It fails without an effect
or takes a prefix; there is no end of the stream in front of queued bytes. -/
def take (w : Inbox) (size : Nat) (r : Reply) : Option (Reading Byte Event) :=
  if r.ret = 0 ∧ content w.queue ≠ [] then
    none
  else
    (SegmentedStream.read r.ret.toNat w.queue).filter fun reading =>
      decide (r.ret.toNat ≤ size) && (reading.content == r.bytes)

/-- The dispatcher has consumed a reading. -/
def remove (w : Inbox) (reading : Reading Byte Event) : Inbox :=
  { w with queue := reading.rest, removed := w.removed + reading.content.length }

/-- The look at the queue has brought two bytes, or has left a message in the buffer that
starts with a keyword. -/
def Recognised (w : Inbox) : Prop :=
  ∃ ret message, w.peeked = some (ret, message) ∧
    (ret = 2 ∨ memcmp message (ascii "CONFIG") = true ∨ memcmp message (ascii "EXIT") = true)

end Inbox

/-- The kernel between the receive queue and the dispatcher; segments may arrive at any
time. -/
def inbox (descriptor : Int) : Kernel Inbox Call Reply (Segment Byte Event) where
  reply w c r :=
    match c with
    | .recv fd buffer size peek =>
        if fd = descriptor then
          (w.take size r).map fun reading =>
            if peek then { w with peeked := some (r.ret, memcpy buffer r.bytes) }
            else w.remove reading
        else some w
    | .recvmsg fd _ size =>
        if fd = descriptor then
          ((w.take size r).filter fun reading =>
            r.data.isSome == decide (.descriptor ∈ reading.events)).map w.remove
        else some w
    | _ => some w
  act w segment := some { w with queue := w.queue ++ [segment] }

/-! ## What can happen -/

section Kernel

variable {descriptor : Int} {w w' : Inbox} {r : Reply}

/-- A read that succeeds takes as many bytes as it says. -/
theorem Inbox.length_take {size : Nat} {reading : Reading Byte Event}
    (h : w.take size r = some reading) : reading.content.length = r.ret.toNat := by
  unfold Inbox.take at h
  split at h
  next => contradiction
  next => exact read_length (Option.filter_eq_some_iff.mp h).1

/-- In front of queued bytes there is no end of the stream. -/
theorem Inbox.ret_ne_zero {size : Nat} {reading : Reading Byte Event}
    (h : w.take size r = some reading) (hqueue : content w.queue ≠ []) : r.ret ≠ 0 := by
  intro hret
  rw [Inbox.take, if_pos ⟨hret, hqueue⟩] at h
  contradiction

/-- A look at the queue is remembered. -/
theorem inbox_peek {buffer : List Byte} {size : Nat}
    (h : (inbox descriptor).reply w (.recv descriptor buffer size true) r = some w') :
    (∃ reading, w.take size r = some reading) ∧
      w' = { w with peeked := some (r.ret, memcpy buffer r.bytes) } := by
  simp only [inbox, if_true] at h
  obtain ⟨reading, htake, hw⟩ := Option.map_eq_some_iff.mp h
  exact ⟨⟨reading, htake⟩, hw.symm⟩

/-- A plain {lit}`recv` removes what it reads. -/
theorem inbox_recv {buffer : List Byte} {size : Nat}
    (h : (inbox descriptor).reply w (.recv descriptor buffer size false) r = some w') :
    ∃ reading, w.take size r = some reading ∧ w' = w.remove reading := by
  simp only [inbox, if_true] at h
  obtain ⟨reading, htake, hw⟩ := Option.map_eq_some_iff.mp h
  exact ⟨reading, htake, hw.symm⟩

/-- So does a {lit}`recvmsg`. -/
theorem inbox_recvmsg {buffer : List Byte} {size : Nat}
    (h : (inbox descriptor).reply w (.recvmsg descriptor buffer size) r = some w') :
    ∃ reading, w.take size r = some reading ∧ w' = w.remove reading := by
  simp only [inbox, if_true] at h
  obtain ⟨reading, hfilter, hw⟩ := Option.map_eq_some_iff.mp h
  exact ⟨reading, (Option.filter_eq_some_iff.mp hfilter).1, hw.symm⟩

end Kernel

/-! ## Invariants -/

/-- The queue has been looked at and nothing has been removed yet. -/
structure Untouched (peeked : Option (Int × List Byte)) (w : Inbox) : Prop where
  peeked : w.peeked = peeked
  removed : w.removed = 0
  queued : content w.queue ≠ []

/-- Bytes have been removed since the look at the queue. -/
structure Advanced (peeked : Option (Int × List Byte)) (w : Inbox) : Prop where
  peeked : w.peeked = peeked
  removed : 0 < w.removed

section Invariants

variable {descriptor : Int} {peeked : Option (Int × List Byte)} {w w' : Inbox}

/-- What arrives does not disturb an untouched queue. -/
theorem Untouched.act (h : Untouched peeked w) (segment : Segment Byte Event) :
    Untouched peeked { w with queue := w.queue ++ [segment] } := by
  refine ⟨h.peeked, h.removed, ?_⟩
  rw [content_append]
  exact List.append_ne_nil_of_left_ne_nil h.queued _

theorem Advanced.act (h : Advanced peeked w) (segment : Segment Byte Event) :
    Advanced peeked { w with queue := w.queue ++ [segment] } :=
  ⟨h.peeked, h.removed⟩

/-- The calls that leave the queue alone. -/
def OffQueue : Call → Prop
  | .recv .. | .recvmsg .. => False
  | _ => True

theorem inbox_offQueue {c : Call} (hc : OffQueue c) {r : Reply}
    (h : (inbox descriptor).reply w c r = some w') : w' = w := by
  cases c with
  | recv => exact hc.elim
  | recvmsg => exact hc.elim
  | _ => exact (Option.some.inj h).symm

/-- Whatever does not depend on what is queued is kept off the queue. -/
theorem offQueue_quiet (descriptor : Int) {J : Inbox → Prop}
    (hact : ∀ w segment, J w → J { w with queue := w.queue ++ [segment] }) :
    Quiet (inbox descriptor) anyReply (fun _ _ _ => True) (fun _ : Memory => True) OffQueue J where
  guarantee _ _ _ _ _ _ := trivial
  reply _ _ _ _ _ _ hc hreply _ h := inbox_offQueue hc hreply ▸ h
  act w segment _ hact' h := Option.some.inj hact' ▸ hact w segment h

/-- A successful read advances. -/
theorem Untouched.remove (h : Untouched peeked w) {r : Reply} {size : Nat}
    {reading : Reading Byte Event} (htake : w.take size r = some reading) (hret : 0 < r.ret) :
    Advanced peeked (w.remove reading) := by
  refine ⟨h.peeked, ?_⟩
  have hlength := Inbox.length_take htake
  simp only [Inbox.remove, hlength]
  omega

/-- A failed read takes nothing. -/
theorem Untouched.failed (h : Untouched peeked w) {r : Reply} {size : Nat}
    {reading : Reading Byte Event} (htake : w.take size r = some reading) (hret : r.ret < 0) :
    Untouched peeked (w.remove reading) := by
  have hlength := Inbox.length_take htake
  rw [Int.toNat_of_nonpos (by omega)] at hlength
  unfold Inbox.take at htake
  rw [if_neg (by omega)] at htake
  have hread := (Option.filter_eq_some_iff.mp htake).1
  have hcontent := read_content hread
  rw [List.length_eq_zero_iff.mp hlength, List.nil_append] at hcontent
  refine ⟨h.peeked, ?_, ?_⟩
  · simp only [Inbox.remove, hlength, h.removed]
  · simp only [Inbox.remove, hcontent]
    exact h.queued

/-- What has been read stays read. -/
theorem Advanced.remove (h : Advanced peeked w) (reading : Reading Byte Event) :
    Advanced peeked (w.remove reading) :=
  ⟨h.peeked, Nat.lt_of_lt_of_le h.removed (Nat.le_add_right _ _)⟩

end Invariants

/-! ## Harmless parts -/

section Harmless

theorem within_putSocket (p : Ptr) : Within (fun _ => True) OffQueue (putSocket p) := by
  apply within_get_bind
  intro s _
  refine within_bind (within_set trivial) fun _ => ?_
  exact within_bind (within_note trivial) fun _ => within_pure _

theorem within_write_offQueue (p : Ptr) (message : List Byte) :
    Within (fun _ => True) OffQueue (write p message) := by
  apply within_deref_bind trivial
  intro s socket _ _
  apply within_ite
  · exact within_bind (within_ask trivial) fun r => within_pure _
  · exact within_bind (within_ask trivial) fun r => within_pure _

/-- Nothing is read while a received client is put into the list. -/
theorem within_acceptClient (p : Ptr) : Within (fun _ => True) OffQueue (acceptClient p) := by
  have hmodify : ∀ p f, Within (fun _ => True) OffQueue (modifySocket p f) :=
    fun p f => within_modify fun _ _ => trivial
  have hssl : Within (fun _ => True) OffQueue (makeSslSocket p) := by
    apply within_deref_bind trivial
    intro s socket _ _
    refine within_get_bind fun s _ => within_ite (within_crash trivial) ?_
    refine within_bind (within_get_bind fun s _ => within_bind (within_set trivial) fun _ =>
      within_pure _) fun q => ?_
    refine within_bind (hmodify _ _) fun _ => ?_
    exact within_bind (within_release (fun _ _ _ => trivial) (fun _ => trivial) p)
      fun _ => within_pure _
  refine within_bind hssl fun q => within_bind (within_putSocket q) fun stored => ?_
  refine within_bind (within_when ?_) fun _ => ?_
  · exact within_bind (within_write_offQueue q _) fun _ => within_pure _
  · refine within_bind (hmodify _ _) fun _ => within_bind (hmodify _ _) fun _ => ?_
    exact within_release (fun _ _ _ => trivial) (fun _ => trivial) q

/-- Nothing is read while a configuration is followed. -/
theorem within_processConfig_offQueue (bufferConfig : List Byte) (bufferSize : Nat) :
    Within (fun _ => True) OffQueue (processConfig bufferConfig bufferSize) := by
  apply within_processConfig
  · intro c hc
    cases c with
    | recv => exact hc.elim
    | recvmsg => exact hc.elim
    | _ => trivial
  · exact fun _ _ _ => trivial
  · exact fun _ _ _ => trivial

end Harmless

/-! ## One call -/

section Specs

variable {peeked : Option (Int × List Byte)} {s : Memory} {w : Inbox} {p : Ptr}
variable {socket : Socket} {fuel : Nat}

/-- A chunk that is received advances, unless the call fails. -/
theorem sat_recvmsg_progress {buffer : List Byte} {size : Nat}
    {Q : Memory → Inbox → Reply → Prop} (h : Untouched peeked w ∨ Advanced peeked w)
    (hfailed : ∀ r w', r.ret ≤ 0 → Untouched peeked w' ∨ Advanced peeked w' → Q s w' r)
    (hreceived : ∀ r w', 0 < r.ret → Advanced peeked w' → Q s w' r) :
    Sat (inbox socket.descriptor) anyReply (fun _ _ _ => True)
      (Program.ask (.recvmsg socket.descriptor buffer size)) Q s w := by
  have hact : ∀ w x w', (inbox socket.descriptor).act w x = some w' →
      Untouched peeked w ∨ Advanced peeked w → Untouched peeked w' ∨ Advanced peeked w' := by
    intro w x w' hact h
    obtain rfl := Option.some.inj hact
    exact h.imp (·.act x) (·.act x)
  apply sat_ask_keeps hact h fun _ _ => trivial
  intro w₁ r w₂ h₁ hreply _
  obtain ⟨reading, htake, rfl⟩ := inbox_recvmsg hreply
  rcases h₁ with huntouched | hadvanced
  · have hzero := Inbox.ret_ne_zero htake huntouched.queued
    by_cases hret : 0 < r.ret
    · exact hreceived r _ hret (huntouched.remove htake hret)
    · exact hfailed r _ (by omega) (Or.inl (huntouched.failed htake (by omega)))
  · by_cases hret : 0 < r.ret
    · exact hreceived r _ hret (hadvanced.remove reading)
    · exact hfailed r _ (by omega) (Or.inr (hadvanced.remove reading))

/-- A received client has been taken off the queue. -/
theorem sat_createSocket_progress (hp : s.heap p = some socket) (h : Untouched peeked w) :
    Sat (inbox socket.descriptor) anyReply (fun _ _ _ => True) (createSocket p fuel)
      (fun _ w' q => w'.peeked = peeked ∧ (q = nullptr ∨ 0 < w'.removed)) s w := by
  have hlooked := offQueue_quiet socket.descriptor
    (J := fun w => Untouched peeked w ∨ Advanced peeked w)
    fun w segment h => h.imp (·.act segment) (·.act segment)
  have hpeeked : ∀ w, Untouched peeked w ∨ Advanced peeked w → w.peeked = peeked :=
    fun w h => h.elim (·.peeked) (·.peeked)
  rw [createSocket, sat_bind]
  refine sat_ask_quiet hlooked (by trivial) trivial (Or.inl h) fun buf w h => ?_
  have hloop : Sat (inbox socket.descriptor) anyReply (fun _ _ _ => True)
      (createSocketLoop p fuel buf.bytes (-1))
      (fun _ w' q => w'.peeked = peeked ∧ (q = nullptr ∨ 0 < w'.removed)) s w := by
    apply sat_createSocketLoop fun s w =>
      s.heap p = some socket ∧ (Untouched peeked w ∨ Advanced peeked w)
    · exact fun _ _ _ _ _ _ => trivial
    · rintro s w ⟨hp, h⟩
      apply sat_allocControl
      · intro _
        simpa using ⟨hp, h⟩
      · intro _
        refine sat_ask_quiet hlooked (by trivial) trivial h fun r w h => ⟨fun _ => ?_, ?_⟩
        · exact ⟨hpeeked w h, Or.inl rfl⟩
        · exact fun content _ => ⟨hp, h⟩
    · rintro s w socket' buf ⟨hp, h⟩ hp'
      obtain rfl := Option.some.inj (hp.symm.trans hp')
      apply sat_recvmsg_progress h
      · intro r w' hret h
        refine ⟨fun _ => ⟨hpeeked w' h, Or.inl rfl⟩, fun _ => ?_⟩
        -- a failed call leaves no status
        have hscan : ∀ control buf, (scan control buf r.ret (-1)).status = -1 :=
          fun control buf => scan_of_nonpos hret buf
        simp only [hscan]
        exact ⟨fun _ => ⟨hp, h⟩, fun h => by contradiction, fun h => by contradiction⟩
      · intro r w' hret hadvanced
        refine ⟨fun h => absurd h (by omega), fun _ => ⟨fun _ => ⟨hp, Or.inr hadvanced⟩, ?_⟩⟩
        refine ⟨fun _ => ?_, fun _ => ⟨hadvanced.peeked, Or.inl rfl⟩⟩
        rw [makeTcpSocket, sat_dite]
        split
        · exact ⟨hadvanced.peeked, Or.inr hadvanced.removed⟩
        · exact ⟨hadvanced.peeked, Or.inl rfl⟩
    · exact ⟨hp, h⟩
  refine hloop.seq fun s w q hq => ?_
  rw [sat_bind, sat_get, sat_bind]
  have hgot := offQueue_quiet socket.descriptor
    (J := fun w => w.peeked = peeked ∧ (q = nullptr ∨ 0 < w.removed)) fun _ _ h => h
  exact sat_note_quiet hgot (by trivial) trivial hq fun w hq => hq

/-- The message in the buffer is followed with progress exactly if it is recognised. -/
theorem sat_followMessage_progress {ret : Int} {message : List Byte}
    (hp : s.heap p = some socket) (hret : ret ≠ 0) (h : Untouched (some (ret, message)) w) :
    Sat (inbox socket.descriptor) anyReply (fun _ _ _ => True)
      (followMessage p fuel socket.descriptor ret message)
      (fun _ w' result => (result = false ∨ 0 < w'.removed) ↔ w'.Recognised) s w := by
  have hrecognised : ∀ w' : Inbox, w'.peeked = some (ret, message) →
      (w'.Recognised ↔ ret = 2 ∨ memcmp message (ascii "CONFIG") = true ∨
        memcmp message (ascii "EXIT") = true) := by
    intro w' hpeeked
    simp [Inbox.Recognised, hpeeked]
  have hadvanced := offQueue_quiet socket.descriptor
    (J := Advanced (some (ret, message))) fun w segment h => h.act segment
  rw [followMessage, if_neg hret, sat_ite]
  split
  next htwo =>
    have hyes : ∀ w' : Inbox, w'.peeked = some (ret, message) → w'.Recognised :=
      fun w' hpeeked => (hrecognised w' hpeeked).mpr (Or.inl htwo)
    refine (sat_createSocket_progress hp h).seq ?_
    rintro s w q ⟨hpeeked, hq⟩
    rw [sat_ite]
    split
    next => exact iff_of_true (Or.inl rfl) (hyes w hpeeked)
    next hnull =>
      have hJ : Advanced (some (ret, message)) w := ⟨hpeeked, hq.resolve_left hnull⟩
      refine ((within_acceptClient q).sat hadvanced trivial hJ).seq ?_
      rintro s w _ ⟨_, hJ⟩
      exact iff_of_true (Or.inr hJ.removed) (hyes w hJ.peeked)
  next htwo =>
    rw [sat_ite]
    split
    next hconfig =>
      have hyes : ∀ w' : Inbox, w'.peeked = some (ret, message) → w'.Recognised :=
        fun w' hpeeked => (hrecognised w' hpeeked).mpr (Or.inr (Or.inl hconfig))
      have huntouched := offQueue_quiet socket.descriptor
        (J := Untouched (some (ret, message))) fun w segment h => h.act segment
      rw [sat_bind]
      refine sat_ask_quiet huntouched (by trivial) trivial h fun configBuffer w h => ?_
      rw [sat_bind]
      apply sat_ask_keeps huntouched.act h fun _ _ => trivial
      intro w₁ r w₂ h₁ hreply _
      obtain ⟨reading, htake, rfl⟩ := inbox_recv hreply
      rw [sat_ite]
      split
      next hneg => exact iff_of_true (Or.inl rfl) (hyes _ (h₁.failed htake hneg).peeked)
      next hneg =>
        -- the queue is not empty, so the call has not returned zero
        have hzero := Inbox.ret_ne_zero htake h₁.queued
        have hJ := h₁.remove htake (by omega)
        have hconfigured := (within_processConfig_offQueue
          (memcpy configBuffer.bytes r.bytes) r.ret.toNat).sat hadvanced trivial hJ (s := s)
        exact hconfigured.mono fun s w result h =>
          iff_of_true (Or.inr h.2.removed) (hyes w h.2.peeked)
    next hconfig =>
      rw [sat_ite]
      split
      next hexit =>
        exact iff_of_true (Or.inl rfl)
          ((hrecognised w h.peeked).mpr (Or.inr (Or.inr hexit)))
      next hexit =>
        have hno : ¬w.Recognised := by
          rw [hrecognised w h.peeked]
          rintro (h | h | h)
          · exact htwo h
          · exact hconfig h
          · exact hexit h
        have hremoved := h.removed
        refine iff_of_false ?_ hno
        rintro (h | h)
        · contradiction
        · omega

end Specs

/-! ## Progress -/

/-- With bytes in the queue and a UNIX socket that is not reported dropped, a call that
returns has returned false or removed a byte exactly when its look at the queue brought two
bytes, or left a message in the buffer that starts with a keyword. -/
theorem progress_iff {s s' : Memory} {p : Ptr} {socket : Socket}
    (hp : s.heap p = some socket) (hdropped : socket.isDropped = false)
    {queue : List (Segment Byte Event)} (hqueue : content queue ≠ []) {fuel : Nat}
    {w' : Inbox} {result : Bool}
    (hrun : Reaches (inbox socket.descriptor) anyReply
      ⟨s, { queue := queue }, dispatcherProcess p fuel⟩ ⟨s', w', .ret result⟩) :
    (result = false ∨ 0 < w'.removed) ↔ w'.Recognised := by
  have huntouched : Untouched none { queue := queue } := ⟨rfl, rfl, hqueue⟩
  have hquiet := offQueue_quiet socket.descriptor (J := Untouched none)
    fun w segment h => h.act segment
  have hsat : Sat (inbox socket.descriptor) anyReply (fun _ _ _ => True)
      (dispatcherProcess p fuel)
      (fun _ w' result => (result = false ∨ 0 < w'.removed) ↔ w'.Recognised)
      s { queue := queue } := by
    rw [dispatcherProcess_eq, sat_bind, sat_deref_of_some hp, sat_ite,
      if_neg (by simp [hdropped]), sat_bind]
    refine sat_ask_quiet hquiet (by trivial) trivial huntouched fun message w h => ?_
    rw [sat_bind]
    apply sat_ask_keeps hquiet.act h fun _ _ => trivial
    intro w₁ r w₂ h₁ hreply _
    obtain ⟨⟨reading, htake⟩, rfl⟩ := inbox_peek hreply
    exact sat_followMessage_progress hp (Inbox.ret_ne_zero htake h₁.queued)
      ⟨rfl, h₁.removed, h₁.queued⟩
  refine hsat.returns ?_ hrun
  intro s w segment w' result hact h
  obtain rfl := Option.some.inj hact
  exact h

/-- The request to exit is recognised. -/
theorem progress_exit :
    ∃ s' w', Reaches (inbox 3) anyReply
        ⟨started 3, { queue := [exitSegment] }, dispatcherProcess unixSocket 0⟩
        ⟨s', w', .ret false⟩ ∧ ((false = false ∨ 0 < w'.removed) ↔ w'.Recognised) := by
  have hexec : exec (inbox 3)
      ⟨started 3, { queue := [exitSegment] }, dispatcherProcess unixSocket 0⟩
      [.inr {}, .inr { ret := 4, bytes := ascii "EXIT" }] = some ⟨_, _, .ret false⟩ := rfl
  have hrun := reaches_of_exec hexec
  have hqueue : content [exitSegment] ≠ [] := by decide
  have hunix : (started 3).heap unixSocket = some _ := rfl
  exact ⟨_, _, hrun, progress_iff hunix rfl hqueue hrun⟩

/-- A message of one unknown byte is looked at and stays. -/
theorem unknown_message_stays :
    ∃ s' w', Reaches (inbox 3) anyReply
        ⟨started 3, { queue := [{ content := ascii "A" }] }, dispatcherProcess unixSocket 0⟩
        ⟨s', w', .ret true⟩ ∧ w'.removed = 0 := by
  have hexec : exec (inbox 3)
      ⟨started 3, { queue := [{ content := ascii "A" }] }, dispatcherProcess unixSocket 0⟩
      [.inr {}, .inr { ret := 1, bytes := ascii "A" }] = some ⟨_, _, .ret true⟩ := rfl
  exact ⟨_, _, reaches_of_exec hexec, rfl⟩

end Mydisp

end SocketDispatcher
