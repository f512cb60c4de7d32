import SocketDispatcher.Mydisp

/-!
# Histories of received descriptors

What {lit}`createSocket` returns over a history of calls on one factory, against
surroundings that answer every call in every way.  The control buffer outlives a
call, so a message without a descriptor is decoded with the number that an earlier
message has left there.

Main results:

- Theorem {lit}`returnsCarried_of_delivered`: as long as every decoded message
  finds a descriptor of the same call in the control buffer, or no positive number,
  every returned socket is for a descriptor that came with the same call.
- Theorem {lit}`stale_descriptor`: a message whose descriptor was cut off returns
  the descriptor of the message before.
-/

namespace SocketDispatcher

open Interaction

namespace Mydisp

/-- A history of calls on one factory. -/
def history (fuel calls : Nat) : Proc Unit :=
  Program.repeatUntil (do
    let _ ← createSocket unixSocket fuel
    pure false) calls

/-- The record: the descriptors that came with the messages of the present call. -/
def recordCarried (carried : List Int) : Call → Reply → List Int
  | .recvmsg .., r =>
      match r.data with
      | some d => d :: carried
      | none => carried
  | .note (.createSocket _), _ => []
  | _, _ => carried

/-- A socket is returned only for a descriptor that came with the present call. -/
def ReturnsCarried (_ : Memory) (carried : List Int) : Call → Prop
  | .note (.createSocket (some d)) => d ∈ carried
  | _ => True

/-- A chunk that is decoded to status zero comes with a descriptor, or one came
earlier in the present call, or the control buffer holds no positive number. -/
def Delivered (m : Memory) (carried : List Int) : Call → Reply → Prop
  | .recvmsg _ buf _, r =>
      (scan (m.cmptr.getD 0) (memcpy buf r.bytes) r.ret (-1)).status = 0 →
        r.data ≠ none ∨ carried ≠ [] ∨ m.cmptr.getD 0 ≤ 0
  | _, _ => True

/-! ## One call -/

/-- While a call waits for a status byte, the control buffer holds the last
descriptor that came with this call, if any came. -/
structure Waiting (m : Memory) (carried : List Int) : Prop where
  next_pos : 0 < m.next
  control : carried ≠ [] → ∃ d ∈ carried, m.cmptr = some d

section OneCall

variable {s : Memory} {carried : List Int}

theorem Waiting.allocated {content : Int} (h : Waiting s carried) (hnone : s.cmptr = none) :
    Waiting { s with cmptr := some content } carried where
  next_pos := h.next_pos
  control hcarried := by
    rcases h.control hcarried with ⟨d, _, hd⟩
    simp [hnone] at hd

/-- A chunk keeps the relation between the record and the control buffer. -/
theorem Waiting.received (h : Waiting s carried) (data : Option Int) :
    Waiting (s.storeControl data)
      (match data with
        | some d => d :: carried
        | none => carried) where
  next_pos := h.next_pos
  control := by
    cases data with
    | none => exact h.control
    | some d => exact fun _ => ⟨d, by simp, rfl⟩

/-- What a call may return. -/
def Returned (s : Memory) (carried : List Int) (p : Ptr) : Prop :=
  0 < s.next ∧ (p ≠ nullptr → s.descriptorOf p ∈ carried)

/-- Handing over a number that came with this call, or no positive number. -/
theorem sat_makeTcpSocket_carried {newfd : Int} (hnext : 0 < s.next)
    (hnewfd : 0 < newfd → newfd ∈ carried) :
    Sat (observer recordCarried) Delivered ReturnsCarried (makeTcpSocket newfd)
      Returned s carried := by
  rw [makeTcpSocket, sat_dite]
  split
  next hpos =>
    rw [sat_makeShared]
    refine ⟨by simp, fun _ => ?_⟩
    simpa [Memory.descriptorOf, tcpSocket] using hnewfd hpos
  next => exact ⟨hnext, fun h => absurd rfl h⟩

/-- One call returns a socket only for a descriptor that came with it. -/
theorem sat_createSocket_carried (fuel : Nat) (hnext : 0 < s.next) :
    Sat (observer recordCarried) Delivered ReturnsCarried (createSocket unixSocket fuel)
      (fun s carried _ => 0 < s.next ∧ carried = []) s [] := by
  rw [createSocket, sat_bind, sat_ask_closed]
  refine ⟨trivial, ?_⟩
  intro buf carried hreply _
  obtain rfl : [] = carried := by simpa [observer, recordCarried] using hreply
  have hloop : Sat (observer recordCarried) Delivered ReturnsCarried
      (createSocketLoop unixSocket fuel buf.bytes (-1)) Returned s [] := by
    apply sat_createSocketLoop Waiting
    · intro _ _ _ _ _ _
      trivial
    · intro s carried hwaiting
      apply sat_allocControl
      · intro _
        simpa using hwaiting
      · intro hnone
        rw [sat_ask_closed]
        refine ⟨trivial, ?_⟩
        intro r carried' hreply _
        obtain rfl : carried = carried' := by simpa [observer, recordCarried] using hreply
        refine ⟨fun _ => ?_, fun content _ => ?_⟩
        · exact ⟨hwaiting.next_pos, fun h => absurd rfl h⟩
        · exact hwaiting.allocated hnone
    · intro s carried socket buf hwaiting _
      rw [sat_ask_closed]
      refine ⟨trivial, ?_⟩
      intro r carried' hreply hdelivered
      obtain rfl := Option.some.inj hreply
      have hreceived := hwaiting.received r.data
      have hfailed : Returned (s.storeControl r.data) (recordCarried carried
          (.recvmsg socket.descriptor buf MAXLINE) r) nullptr :=
        ⟨hwaiting.next_pos, fun h => absurd rfl h⟩
      refine ⟨fun _ => ⟨hwaiting.next_pos, fun h => absurd rfl h⟩, fun _ => ?_⟩
      refine ⟨fun _ => hreceived, fun hstatus => ?_, fun _ => hfailed⟩
      apply sat_makeTcpSocket_carried (s := s.storeControl r.data) hwaiting.next_pos
      intro hpos
      cases hdata : r.data with
      | some d => simp [Memory.storeControl, recordCarried, hdata]
      | none =>
          simp only [Memory.storeControl, hdata, Option.orElse_none] at hstatus hpos ⊢
          rcases hdelivered hstatus with hsome | hcarried | hstale
          · exact absurd hdata hsome
          · rcases hwaiting.control hcarried with ⟨d, hd, hcontrol⟩
            simpa [recordCarried, hdata, hcontrol] using hd
          · omega
    · exact ⟨hnext, fun h => absurd rfl h⟩
  refine hloop.seq ?_
  intro s carried p hreturned
  rw [sat_bind, sat_get, sat_bind, sat_note, sat_ask_closed]
  refine ⟨?_, ?_⟩
  · split
    next => trivial
    next hp => exact hreturned.2 hp
  · intro r carried' hreply _
    obtain rfl := Option.some.inj hreply
    exact ⟨hreturned.1, rfl⟩

end OneCall

/-! ## Whole histories -/

/-- Over every history whose decoded messages all find a descriptor of their own
call, every returned socket is for a descriptor that came with the same call. -/
theorem returnsCarried_of_delivered (descriptor fuel calls : Nat) :
    Safe (observer recordCarried) Delivered ReturnsCarried
      ⟨started descriptor, [], history fuel calls⟩ := by
  apply Sat.safe
  have hbody : ∀ s carried, 0 < s.next ∧ carried = [] →
      Sat (observer recordCarried) Delivered ReturnsCarried
        (do
          let _ ← createSocket unixSocket fuel
          pure false)
        (fun s carried stop => if stop then True else 0 < s.next ∧ carried = [])
        s carried := by
    rintro s _ ⟨hnext, rfl⟩
    rw [sat_bind]
    apply (sat_createSocket_carried fuel hnext).mono
    intro s carried _ hpost
    simpa using hpost
  exact sat_repeatUntil _ (fun _ _ => True) hbody calls ⟨by simp [started], rfl⟩

/-- The second message of a history has lost its descriptor: the call returns the
descriptor of the first message once more. -/
theorem stale_descriptor :
    ¬Safe (observer recordCarried) anyReply ReturnsCarried
      ⟨started 3, [], history 1 2⟩ :=
  not_safe_of_exec
    (fun _ carried c =>
      match c with
      | .note (.createSocket (some d)) => carried.contains d
      | _ => true)
    (by
      intro s carried c hG
      split
      next d => simpa [ReturnsCarried] using hG
      next => rfl)
    [.inr {}, .inr { data := some 0 }, .inr { ret := 2, bytes := [0, 0], data := some 5 },
      .inr {}, .inr {}, .inr { ret := 2, bytes := [0, 0] }]
    (by decide)

end Mydisp

end SocketDispatcher
