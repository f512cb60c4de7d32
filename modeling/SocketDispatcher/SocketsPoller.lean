import SocketDispatcher.Process

/-!
# Polling

{lit}`SocketsPollerImpl::pollSockets` of {lit}`SocketsPoller.cpp`.  Its two loops
make no calls, so each is a function on memory: the first copies the requested
events into the poll array and resets the events and revents of every socket, the
second copies the returned revents back and collects the sockets that have any.

Main results:

- Theorems {lit}`resetAll_heap` and {lit}`collect_heap`: what the two loops do to
  each object.
- Theorem {lit}`collect_output`: which sockets are collected, and in which order.
- Theorem {lit}`sat_pollSockets`: the specification of the call for every outcome
  of {lit}`poll`.

Current gaps:

- Entries of the input list are taken to be objects: both main loops dereference
  every entry just before they poll.
-/

namespace SocketDispatcher

open Interaction

/-- Result of {lit}`pollSockets`. -/
inductive ErrorType where
  | ERROR
  | INTERRUPTED
  | TIMEOUT
  | NONE
deriving DecidableEq

def EINTR : Int := 4

def MAX_SOCKETS_TO_POLL : Nat := 1024

/-- The timeout of every poll, in milliseconds. -/
def pollTimeout : Int := 1000

/-- The revents of the entry at hand. -/
def firstEvents (revents : List Events) : Events :=
  revents.headD NO_EVENTS

namespace Memory

/-- The poll array entry of a socket. -/
def pollFd (m : Memory) (p : Ptr) : PollFd :=
  ⟨m.descriptorOf p, ((m.heap p).map Socket.events).getD NO_EVENTS⟩

/-- Reset requested events and output events of a socket. -/
def resetEvents (m : Memory) (p : Ptr) : Memory :=
  m.modifySocket p fun socket => (socket.setEvents NO_EVENTS).setRevents NO_EVENTS

/-- The first loop of {lit}`pollSockets`: the poll array, filled in list order. -/
def pollInfo : Memory → List Ptr → List PollFd
  | _, [] => []
  | m, p :: ps => m.pollFd p :: pollInfo (m.resetEvents p) ps

/-- The first loop of {lit}`pollSockets`: what it does to the sockets. -/
def resetAll : Memory → List Ptr → Memory
  | m, [] => m
  | m, p :: ps => resetAll (m.resetEvents p) ps

/-- Body of the second loop: a socket with returned events is collected. -/
def collectOne (m : Memory) (p : Ptr) (revents : Events) : Memory :=
  if revents = NO_EVENTS then
    m
  else
    let m := m.modifySocket p (·.setRevents revents)
    { m with outputSocketsList := (m.outputSocketsList.putSocket p).1 }

/-- The second loop of {lit}`pollSockets`, along the list and the poll array. -/
def collect : Memory → List Ptr → List Events → Memory
  | m, [], _ => m
  | m, p :: ps, revents =>
      collect (m.collectOne p (firstEvents revents)) ps revents.tail

end Memory

/-- {lit}`SocketsPollerImpl::pollSockets(socketsList, outputSocketsList)` -/
def pollSockets : Proc ErrorType := do
  let m ← get
  let inputSockets := m.socketsList.sockets
  if inputSockets.length > MAX_SOCKETS_TO_POLL then
    crash
  else do
    set (m.resetAll inputSockets)
    let r ← Program.ask (.poll (m.pollInfo inputSockets) pollTimeout)
    if r.ret = -1 then
      if r.errno = EINTR then pure .INTERRUPTED else pure .ERROR
    else if r.ret = 0 then
      pure .TIMEOUT
    else do
      modify (·.collect inputSockets r.revents)
      pure .NONE

/-- The revents that {lit}`poll` returned for a socket of the list. -/
def reventsFor : List Ptr → List Events → Ptr → Events
  | [], _, _ => NO_EVENTS
  | p :: ps, revents, q =>
      if p = q then firstEvents revents else reventsFor ps revents.tail q

theorem reventsFor_of_not_mem {ps : List Ptr} {q : Ptr} (hq : q ∉ ps)
    (revents : List Events) : reventsFor ps revents q = NO_EVENTS := by
  induction ps generalizing revents with
  | nil => rfl
  | cons p ps ih =>
      simp only [List.mem_cons, not_or] at hq
      rw [reventsFor, if_neg (Ne.symm hq.1), ih hq.2]

/-! ## What the loops do -/

namespace Memory

theorem resetEvents_descriptorOf (m : Memory) (p q : Ptr) :
    (m.resetEvents p).descriptorOf q = m.descriptorOf q :=
  m.descriptorOf_modifySocket p q fun _ => rfl

/-- The first loop resets the events of the listed sockets and changes nothing
else. -/
theorem resetAll_heap (m : Memory) (ps : List Ptr) (q : Ptr) :
    (m.resetAll ps).heap q =
      if q ∈ ps then
        (m.heap q).map fun socket => (socket.setEvents NO_EVENTS).setRevents NO_EVENTS
      else m.heap q := by
  induction ps generalizing m with
  | nil => simp [resetAll]
  | cons p ps ih =>
      rw [resetAll, ih, resetEvents, modifySocket_heap]
      by_cases hqp : q = p
      · cases hheap : m.heap q <;>
          simp [hqp, Socket.setEvents, Socket.setRevents]
      · simp [hqp]

theorem resetAll_eq (m : Memory) (ps : List Ptr) :
    m.resetAll ps = { m with heap := (m.resetAll ps).heap } := by
  induction ps generalizing m with
  | nil => rfl
  | cons p ps ih =>
      rw [resetAll, ih]
      rfl

@[simp]
theorem resetAll_next (m : Memory) (ps : List Ptr) : (m.resetAll ps).next = m.next := by
  rw [resetAll_eq]

@[simp]
theorem resetAll_socketsList (m : Memory) (ps : List Ptr) :
    (m.resetAll ps).socketsList = m.socketsList := by
  rw [resetAll_eq]

@[simp]
theorem resetAll_outputSocketsList (m : Memory) (ps : List Ptr) :
    (m.resetAll ps).outputSocketsList = m.outputSocketsList := by
  rw [resetAll_eq]

@[simp]
theorem resetAll_locals (m : Memory) (ps : List Ptr) :
    (m.resetAll ps).locals = m.locals := by
  rw [resetAll_eq]

@[simp]
theorem resetAll_appCfg (m : Memory) (ps : List Ptr) :
    (m.resetAll ps).appCfg = m.appCfg := by
  rw [resetAll_eq]

@[simp]
theorem resetAll_cmptr (m : Memory) (ps : List Ptr) :
    (m.resetAll ps).cmptr = m.cmptr := by
  rw [resetAll_eq]

/-- In a list without repetitions every entry of the poll array shows the events
its socket had requested. -/
theorem pollInfo_eq_map {ps : List Ptr} (hnodup : ps.Nodup) (m : Memory) :
    m.pollInfo ps = ps.map m.pollFd := by
  induction ps generalizing m with
  | nil => rfl
  | cons p ps ih =>
      have hp : p ∉ ps := (List.nodup_cons.mp hnodup).1
      rw [pollInfo, ih (List.nodup_cons.mp hnodup).2, List.map_cons]
      congr 1
      apply List.map_congr_left
      intro q hq
      have hqp : q ≠ p := fun h => hp (h ▸ hq)
      have hheap : (m.resetEvents p).heap q = m.heap q := by
        simp [resetEvents, hqp]
      simp [pollFd, resetEvents_descriptorOf, hheap]

/-- The second loop only writes objects and the output list. -/
theorem collect_eq (m : Memory) (ps : List Ptr) (revents : List Events) :
    m.collect ps revents =
      { m with
        heap := (m.collect ps revents).heap
        outputSocketsList := (m.collect ps revents).outputSocketsList } := by
  induction ps generalizing m revents with
  | nil => rfl
  | cons p ps ih =>
      rw [collect, ih]
      unfold collectOne
      split <;> rfl

@[simp]
theorem collect_next (m : Memory) (ps : List Ptr) (revents : List Events) :
    (m.collect ps revents).next = m.next := by
  rw [collect_eq]

@[simp]
theorem collect_socketsList (m : Memory) (ps : List Ptr) (revents : List Events) :
    (m.collect ps revents).socketsList = m.socketsList := by
  rw [collect_eq]

@[simp]
theorem collect_locals (m : Memory) (ps : List Ptr) (revents : List Events) :
    (m.collect ps revents).locals = m.locals := by
  rw [collect_eq]

@[simp]
theorem collect_appCfg (m : Memory) (ps : List Ptr) (revents : List Events) :
    (m.collect ps revents).appCfg = m.appCfg := by
  rw [collect_eq]

@[simp]
theorem collect_cmptr (m : Memory) (ps : List Ptr) (revents : List Events) :
    (m.collect ps revents).cmptr = m.cmptr := by
  rw [collect_eq]

theorem collectOne_heap (m : Memory) (p q : Ptr) (revents : Events) :
    (m.collectOne p revents).heap q =
      if q = p ∧ revents ≠ NO_EVENTS then (m.heap q).map (·.setRevents revents)
      else m.heap q := by
  unfold collectOne
  by_cases hrev : revents = NO_EVENTS
  · simp [hrev]
  · by_cases hqp : q = p <;> simp [hrev, hqp]

/-- The second loop stores the returned revents in the sockets that have any and
changes no other field. -/
theorem collect_heap {ps : List Ptr} (hnodup : ps.Nodup) (m : Memory)
    (revents : List Events) (q : Ptr) :
    (m.collect ps revents).heap q =
      if reventsFor ps revents q ≠ NO_EVENTS then
        (m.heap q).map (·.setRevents (reventsFor ps revents q))
      else m.heap q := by
  induction ps generalizing m revents with
  | nil => simp [collect, reventsFor]
  | cons p ps ih =>
      rw [collect, ih (List.nodup_cons.mp hnodup).2, collectOne_heap]
      by_cases hqp : q = p
      · subst hqp
        have hq : q ∉ ps := (List.nodup_cons.mp hnodup).1
        simp [reventsFor, reventsFor_of_not_mem hq]
      · simp [reventsFor, hqp, Ne.symm hqp]

/-- The output list grows by the sockets with returned revents, in list order. -/
theorem collect_output {ps : List Ptr} (hnodup : ps.Nodup) (m : Memory)
    (revents : List Events)
    (hroom : m.outputSocketsList.sockets.length + ps.length ≤
      m.outputSocketsList.maxSize) :
    (m.collect ps revents).outputSocketsList.sockets =
      m.outputSocketsList.sockets ++
        ps.filter fun p => reventsFor ps revents p ≠ NO_EVENTS := by
  induction ps generalizing m revents with
  | nil => simp [collect]
  | cons p ps ih =>
      have hp : p ∉ ps := (List.nodup_cons.mp hnodup).1
      have hrest : (p :: ps).filter (fun q => reventsFor (p :: ps) revents q ≠ NO_EVENTS) =
          (if firstEvents revents = NO_EVENTS then [] else [p]) ++
            ps.filter fun q => reventsFor ps revents.tail q ≠ NO_EVENTS := by
        have htail : ps.filter (fun q => reventsFor (p :: ps) revents q ≠ NO_EVENTS) =
            ps.filter fun q => reventsFor ps revents.tail q ≠ NO_EVENTS := by
          apply List.filter_congr
          intro q hq
          have hpq : p ≠ q := fun h => hp (h ▸ hq)
          simp [reventsFor, hpq]
        rw [List.filter_cons, htail]
        by_cases hrev : firstEvents revents = NO_EVENTS
        · simp [reventsFor, hrev]
        · simp [reventsFor, hrev]
      simp only [List.length_cons] at hroom
      rw [collect, hrest]
      by_cases hrev : firstEvents revents = NO_EVENTS
      · have hone : m.collectOne p (firstEvents revents) = m := by
          simp [collectOne, hrev]
        rw [hone, ih (List.nodup_cons.mp hnodup).2 m _ (by omega)]
        simp [hrev]
      · have hone : (m.collectOne p (firstEvents revents)).outputSocketsList =
            (m.outputSocketsList.putSocket p).1 := by
          simp [collectOne, hrev]
        have hsockets : (m.outputSocketsList.putSocket p).1.sockets =
            m.outputSocketsList.sockets ++ [p] := by
          rw [SocketsList.putSocket_sockets, if_neg (by omega)]
        rw [ih (List.nodup_cons.mp hnodup).2 _ _ (by
          rw [hone, hsockets, SocketsList.putSocket_maxSize]
          simp only [List.length_append, List.length_cons, List.length_nil]
          omega), hone, hsockets]
        simp [hrev]

/-- The output list keeps its maximum size. -/
theorem collect_maxSize (m : Memory) (ps : List Ptr) (revents : List Events) :
    (m.collect ps revents).outputSocketsList.maxSize = m.outputSocketsList.maxSize := by
  induction ps generalizing m revents with
  | nil => rfl
  | cons p ps ih =>
      rw [collect, ih, collectOne]
      split
      · rfl
      · simp

end Memory

/-! ## The call -/

namespace Memory

/-- Memory at the time of the poll. -/
def reset (m : Memory) : Memory :=
  m.resetAll m.socketsList.sockets

/-- Memory after a successful poll. -/
def polled (m : Memory) (revents : List Events) : Memory :=
  m.reset.collect m.socketsList.sockets revents

section Fields

variable (m : Memory) (revents : List Events)

@[simp] theorem reset_next : m.reset.next = m.next := by simp [reset]
@[simp] theorem reset_socketsList : m.reset.socketsList = m.socketsList := by simp [reset]
@[simp] theorem reset_outputSocketsList :
    m.reset.outputSocketsList = m.outputSocketsList := by simp [reset]
@[simp] theorem reset_locals : m.reset.locals = m.locals := by simp [reset]
@[simp] theorem reset_appCfg : m.reset.appCfg = m.appCfg := by simp [reset]
@[simp] theorem polled_appCfg : (m.polled revents).appCfg = m.appCfg := by simp [polled]
@[simp] theorem polled_next : (m.polled revents).next = m.next := by simp [polled]
@[simp] theorem polled_socketsList :
    (m.polled revents).socketsList = m.socketsList := by simp [polled]
@[simp] theorem polled_locals : (m.polled revents).locals = m.locals := by simp [polled]

end Fields

/-- Before the poll every listed socket has its events and revents reset. -/
theorem reset_heap (m : Memory) (q : Ptr) :
    m.reset.heap q =
      if q ∈ m.socketsList.sockets then
        (m.heap q).map fun socket => (socket.setEvents NO_EVENTS).setRevents NO_EVENTS
      else m.heap q :=
  m.resetAll_heap m.socketsList.sockets q

/-- A successful poll stores the returned revents. -/
theorem polled_heap {m : Memory} (hnodup : m.socketsList.sockets.Nodup)
    (revents : List Events) (q : Ptr) :
    (m.polled revents).heap q =
      if reventsFor m.socketsList.sockets revents q ≠ NO_EVENTS then
        (m.reset.heap q).map (·.setRevents (reventsFor m.socketsList.sockets revents q))
      else m.reset.heap q :=
  collect_heap hnodup m.reset revents q

/-- The sockets that a successful poll collects into an empty output list. -/
theorem polled_output {m : Memory} (hnodup : m.socketsList.sockets.Nodup)
    (hempty : m.outputSocketsList.sockets = [])
    (hmax : m.socketsList.maxSize ≤ m.outputSocketsList.maxSize) (revents : List Events) :
    (m.polled revents).outputSocketsList.sockets =
      m.socketsList.sockets.filter fun p =>
        reventsFor m.socketsList.sockets revents p ≠ NO_EVENTS := by
  rw [polled, collect_output hnodup, reset_outputSocketsList, hempty, List.nil_append]
  have hbounded := m.socketsList.bounded
  simp only [reset_outputSocketsList, hempty, List.length_nil]
  omega

end Memory

section Specs

variable {W A : Type} {K : Kernel W Call Reply A}
variable {H : Memory → W → Call → Reply → Prop} {G : Memory → W → Call → Prop}
variable {s : Memory} {w : W}

/-- A postcondition of {lit}`pollSockets` for every outcome of {lit}`poll`. -/
theorem sat_pollSockets {Q : Memory → W → ErrorType → Prop}
    (hcrash : s.socketsList.sockets.length > MAX_SOCKETS_TO_POLL →
      ∀ w₁, K.Acts w w₁ → G s w₁ .crash)
    (hpoll : Sat K H G
      (Program.ask (.poll (s.pollInfo s.socketsList.sockets) pollTimeout)) (fun s' w r =>
        (r.ret = -1 → r.errno = EINTR → Q s' w .INTERRUPTED) ∧
        (r.ret = -1 → r.errno ≠ EINTR → Q s' w .ERROR) ∧
        (r.ret = 0 → Q s' w .TIMEOUT) ∧
        (r.ret ≠ -1 → r.ret ≠ 0 → Q (s.polled r.revents) w .NONE)) s.reset w) :
    Sat K H G pollSockets Q s w := by
  rw [pollSockets, sat_bind, sat_get, sat_ite]
  split
  next hlength => exact sat_crash (hcrash hlength)
  next =>
    rw [sat_bind, sat_set, sat_bind]
    apply hpoll.ask_mono
    rintro w r ⟨hintr, herr, htime, hnone⟩
    rw [sat_ite]
    split
    next hret =>
      rw [sat_ite]
      split
      next herrno => exact hintr hret herrno
      next herrno => exact herr hret herrno
    next hret =>
      rw [sat_ite]
      split
      next hzero => exact htime hzero
      next hzero => exact hnone hret hzero

end Specs

end SocketDispatcher
