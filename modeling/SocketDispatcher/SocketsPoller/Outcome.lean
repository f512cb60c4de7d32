import SocketDispatcher.SocketsPoller

/-!
# One poll

The complete effect of {lit}`pollSockets` on a list of distinct sockets, for every
outcome of {lit}`poll`, stated by positions in the list and in the poll array.

Main results:

- Theorem {lit}`reventsFor_getElem`: a socket is given the revents at its own
  position.
- Theorem {lit}`pollSockets_outcome`: what {lit}`poll` is given, and what the call
  leaves behind.
-/

namespace SocketDispatcher

open Interaction

/-- The result for an outcome of {lit}`poll`. -/
def errorTypeOf (r : Reply) : ErrorType :=
  if r.ret = -1 then
    if r.errno = EINTR then .INTERRUPTED else .ERROR
  else if r.ret = 0 then
    .TIMEOUT
  else
    .NONE

/-- What {lit}`poll` returned for a position; nothing unless it succeeded. -/
def reventsAt (r : Reply) (i : Nat) : Events :=
  if errorTypeOf r = .NONE then r.revents.getD i NO_EVENTS else NO_EVENTS

/-- The sockets of a list with returned events, in list order. -/
def returnedSockets (r : Reply) (ps : List Ptr) : List Ptr :=
  (ps.zipIdx.filter fun entry => reventsAt r entry.2 ≠ NO_EVENTS).map Prod.fst

/-- The memory that {lit}`pollSockets` leaves behind. -/
structure Outcome (s : Memory) (r : Reply) (s' : Memory) : Prop where
  listed : ∀ i (hi : i < s.socketsList.sockets.length) socket,
    s.heap s.socketsList.sockets[i] = some socket →
      s'.heap s.socketsList.sockets[i] =
        some { socket with events := NO_EVENTS, revents := reventsAt r i }
  unlisted : ∀ p, p ∉ s.socketsList.sockets → s'.heap p = s.heap p
  output : s'.outputSocketsList.sockets =
    s.outputSocketsList.sockets ++ returnedSockets r s.socketsList.sockets
  rest : s' = { s with heap := s'.heap, outputSocketsList := s'.outputSocketsList }

/-! ## Positions -/

/-- A socket is given the revents at its own position. -/
theorem reventsFor_getElem {ps : List Ptr} (hnodup : ps.Nodup) (revents : List Events)
    (i : Nat) (hi : i < ps.length) :
    reventsFor ps revents ps[i] = revents.getD i NO_EVENTS := by
  induction ps generalizing revents i with
  | nil => simp at hi
  | cons p ps ih =>
      obtain ⟨hp, hrest⟩ := List.nodup_cons.mp hnodup
      cases i with
      | zero => cases revents <;> simp [reventsFor, firstEvents]
      | succ i =>
          have hi' : i < ps.length := by simpa using hi
          have hne : p ≠ ps[i] := fun h => hp (h ▸ List.getElem_mem hi')
          have hget : (p :: ps)[i + 1] = ps[i] := rfl
          rw [hget, reventsFor, if_neg hne, ih hrest revents.tail i hi']
          cases revents <;> simp

/-- Selecting sockets by their own revents or by their positions comes to the same. -/
theorem filter_reventsFor {ps : List Ptr} (hnodup : ps.Nodup) (r : Reply)
    (hnone : errorTypeOf r = .NONE) :
    ps.filter (fun p => reventsFor ps r.revents p ≠ NO_EVENTS) = returnedSockets r ps := by
  have hentry : ∀ entry ∈ ps.zipIdx,
      decide (reventsFor ps r.revents entry.1 ≠ NO_EVENTS) =
        decide (reventsAt r entry.2 ≠ NO_EVENTS) := by
    intro entry hmem
    obtain ⟨hi, hget⟩ := List.mem_zipIdx' hmem
    rw [reventsAt, if_pos hnone, hget, reventsFor_getElem hnodup _ _ hi]
  calc ps.filter (fun p => reventsFor ps r.revents p ≠ NO_EVENTS)
      = (ps.zipIdx.map Prod.fst).filter fun p => reventsFor ps r.revents p ≠ NO_EVENTS := by
        rw [List.zipIdx_map_fst]
    _ = (ps.zipIdx.filter fun entry => reventsFor ps r.revents entry.1 ≠ NO_EVENTS).map
          Prod.fst := List.filter_map
    _ = returnedSockets r ps := by rw [returnedSockets, List.filter_congr hentry]

/-! ## The two loops -/

section Loops

variable {s : Memory} {r : Reply}

theorem reset_of_listed {p : Ptr} {socket : Socket} (hp : p ∈ s.socketsList.sockets)
    (hsocket : s.heap p = some socket) :
    s.reset.heap p = some { socket with events := NO_EVENTS, revents := NO_EVENTS } := by
  rw [Memory.reset_heap, if_pos hp, hsocket]
  rfl

/-- After an unsuccessful poll only the resets have happened. -/
theorem outcome_reset (hnone : errorTypeOf r ≠ .NONE) : Outcome s r s.reset where
  listed i hi socket hsocket := by
    rw [reset_of_listed (List.getElem_mem hi) hsocket, reventsAt, if_neg hnone]
  unlisted p hp := by rw [Memory.reset_heap, if_neg hp]
  output := by simp [returnedSockets, reventsAt, hnone]
  rest := by
    rw [Memory.reset, Memory.resetAll_eq]

/-- After a successful poll the returned revents are stored and collected. -/
theorem outcome_polled (hnone : errorTypeOf r = .NONE)
    (hnodup : s.socketsList.sockets.Nodup)
    (hroom : s.outputSocketsList.sockets.length + s.socketsList.sockets.length ≤
      s.outputSocketsList.maxSize) : Outcome s r (s.polled r.revents) where
  listed i hi socket hsocket := by
    have hat : reventsFor s.socketsList.sockets r.revents s.socketsList.sockets[i] =
        reventsAt r i := by
      rw [reventsFor_getElem hnodup _ _ hi, reventsAt, if_pos hnone]
    rw [Memory.polled_heap hnodup, hat, reset_of_listed (List.getElem_mem hi) hsocket]
    by_cases hzero : reventsAt r i = NO_EVENTS
    · simp [hzero]
    · simp [hzero, Socket.setRevents]
  unlisted p hp := by
    rw [Memory.polled_heap hnodup, reventsFor_of_not_mem hp, Memory.reset_heap, if_neg hp]
    simp
  output := by
    rw [Memory.polled, Memory.collect_output hnodup _ _ (by simpa using hroom),
      filter_reventsFor hnodup r hnone, Memory.reset_outputSocketsList]
  rest := by
    rw [Memory.polled, Memory.collect_eq, Memory.reset, Memory.resetAll_eq]

end Loops

/-! ## The call -/

/-- The part of {lit}`pollSockets` after the poll. -/
def finishPoll (inputSockets : List Ptr) (r : Reply) : Proc ErrorType :=
  if r.ret = -1 then
    if r.errno = EINTR then pure .INTERRUPTED else pure .ERROR
  else if r.ret = 0 then
    pure .TIMEOUT
  else do
    modify (·.collect inputSockets r.revents)
    pure .NONE

/-- A list that fits the poll array is polled. -/
theorem settle_pollSockets {s : Memory}
    (hlength : s.socketsList.sockets.length ≤ MAX_SOCKETS_TO_POLL) :
    pollSockets.settle s =
      (s.reset, .call (.poll (s.pollInfo s.socketsList.sockets) pollTimeout)
        (finishPoll s.socketsList.sockets)) := by
  have hprog : pollSockets.settle s = Program.settle s
      (if s.socketsList.sockets.length > MAX_SOCKETS_TO_POLL then crash
       else do
        set s.reset
        let r ← Program.ask (.poll (s.pollInfo s.socketsList.sockets) pollTimeout)
        finishPoll s.socketsList.sockets r) := rfl
  rw [hprog, if_neg (by omega)]
  rfl

/-- The rest runs to its end without another call. -/
theorem settle_finishPoll (m : Memory) (inputSockets : List Ptr) (r : Reply) :
    (finishPoll inputSockets r).settle m =
      (if errorTypeOf r = .NONE then m.collect inputSockets r.revents else m,
        .ret (errorTypeOf r)) := by
  unfold finishPoll errorTypeOf
  split
  · split <;> rfl
  · split <;> rfl

/-- For a list of distinct sockets that fits the poll array and an output list with room
for all of them, {lit}`poll` is given every socket's descriptor and requested events in
list order, and every outcome of it has the effect described by {lit}`Outcome`. -/
theorem pollSockets_outcome (s : Memory)
    (hlength : s.socketsList.sockets.length ≤ MAX_SOCKETS_TO_POLL)
    (hnodup : s.socketsList.sockets.Nodup)
    (hroom : s.outputSocketsList.sockets.length + s.socketsList.sockets.length ≤
      s.outputSocketsList.maxSize) :
    (∃ s₁ k, exec oblivious ⟨s, (), pollSockets⟩ [] =
      some ⟨s₁, (), .call (.poll (s.socketsList.sockets.map s.pollFd) pollTimeout) k⟩) ∧
    ∀ r, ∃ s', exec oblivious ⟨s, (), pollSockets⟩ [.inr r] =
      some ⟨s', (), .ret (errorTypeOf r)⟩ ∧ Outcome s r s' := by
  have hcall := settle_pollSockets hlength
  rw [Memory.pollInfo_eq_map hnodup] at hcall
  constructor
  · refine ⟨s.reset, finishPoll s.socketsList.sockets, ?_⟩
    rw [exec, hcall]
  · intro r
    refine ⟨if errorTypeOf r = .NONE then s.polled r.revents else s.reset, ?_, ?_⟩
    · simp only [exec, hcall, oblivious, observer, settle_finishPoll]
      rfl
    · split
      next hnone => exact outcome_polled hnone hnodup hroom
      next hnone => exact outcome_reset hnone

/-- Two clients, the second of them waiting to be written to. -/
def twoClients : Memory where
  heap p :=
    if p = 1 then
      some { cls := .sslSocket, descriptor := 4, socketType := .SSL, descriptor_ne := natCast_ne_FREE_SOCKET _ }
    else if p = 2 then
      some
        { cls := .sslSocket, descriptor := 5, socketType := .SSL, events := POLLOUT
          descriptor_ne := natCast_ne_FREE_SOCKET _ }
    else none
  next := 3
  socketsList := ⟨[1, 2], 10, by decide⟩
  outputSocketsList := SocketsList.empty 10
  locals := []

theorem pollSockets_outcome_twoClients :
    ∃ s', exec oblivious ⟨twoClients, (), pollSockets⟩
        [.inr { ret := 1, revents := [NO_EVENTS, POLLOUT] }] =
      some ⟨s', (), .ret .NONE⟩ ∧
        Outcome twoClients { ret := 1, revents := [NO_EVENTS, POLLOUT] } s' :=
  (pollSockets_outcome twoClients (by decide) (by decide) (by decide)).2 _

end SocketDispatcher
