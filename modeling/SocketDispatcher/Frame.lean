import SocketDispatcher.SocketsPoller

/-!
# Frames

Most operations of the main loops leave the identity of every object alone: its
class, its descriptor, who closes it.  Three relations between memories say so.
{lit}`Similar` memories differ at most in the mutable fields of objects and in the
globals; a memory that {lit}`Asks` for more differs only in requested events; a
{lit}`Pruned` memory has lost some objects that nothing refers to.

Main results:

- Theorems {lit}`Similar.trans`, {lit}`Asks.trans` and {lit}`Pruned.trans`: runs of
  such steps.
- Theorem {lit}`sat_release_keeps`: dropping a reference only prunes, and keeps what
  closing a descriptor keeps.
- Theorems {lit}`sat_delSocket_keeps` and {lit}`sat_clearOutput_keeps`: the same for
  removing an entry and for clearing the output list.
-/

namespace SocketDispatcher

open Interaction

namespace Socket

/-- The fields of an object that polling and the conversation with a client never
write. -/
def identity (socket : Socket) : SocketClass × Bool × Int × SocketType × Bool :=
  (socket.cls, socket.protectDescriptor, socket.descriptor, socket.socketType,
    socket.listenSocket)

/-- Request further events. -/
def request (socket : Socket) (events : Events) : Socket :=
  { socket with events := socket.events ||| events }

section Fields

variable (socket : Socket) (events : Events) (status : ClientStatus)

@[simp] theorem request_NO_EVENTS : socket.request NO_EVENTS = socket := by
  simp [request, NO_EVENTS]
@[simp] theorem request_identity : (socket.request events).identity = socket.identity := rfl
@[simp] theorem pollForRead_identity : socket.pollForRead.identity = socket.identity := rfl
@[simp] theorem pollForWrite_identity : socket.pollForWrite.identity = socket.identity := rfl
@[simp] theorem setEvents_identity : (socket.setEvents events).identity = socket.identity := rfl
@[simp] theorem setRevents_identity :
    (socket.setRevents events).identity = socket.identity := rfl
@[simp] theorem setClientStatus_identity :
    (socket.setClientStatus status).identity = socket.identity := rfl

end Fields

end Socket

namespace Memory

/-! ## Similar memories -/

/-- The memories hold the same objects and lists; mutable fields and globals may
differ. -/
structure Similar (s s' : Memory) : Prop where
  identity : ∀ p, (s'.heap p).map Socket.identity = (s.heap p).map Socket.identity
  next : s'.next = s.next
  socketsList : s'.socketsList = s.socketsList
  outputSocketsList : s'.outputSocketsList = s.outputSocketsList
  locals : s'.locals = s.locals

theorem Similar.refl (s : Memory) : Similar s s :=
  ⟨fun _ => rfl, rfl, rfl, rfl, rfl⟩

theorem Similar.trans {s s' s'' : Memory} (h : Similar s s') (h' : Similar s' s'') :
    Similar s s'' where
  identity p := (h'.identity p).trans (h.identity p)
  next := h'.next.trans h.next
  socketsList := h'.socketsList.trans h.socketsList
  outputSocketsList := h'.outputSocketsList.trans h.outputSocketsList
  locals := h'.locals.trans h.locals

theorem Similar.symm {s s' : Memory} (h : Similar s s') : Similar s' s where
  identity p := (h.identity p).symm
  next := h.next.symm
  socketsList := h.socketsList.symm
  outputSocketsList := h.outputSocketsList.symm
  locals := h.locals.symm

/-- A change that keeps the identity of objects leads to a similar memory. -/
theorem similar_modifySocket (s : Memory) (p : Ptr) {f : Socket → Socket}
    (hf : ∀ socket, (f socket).identity = socket.identity) :
    Similar s (s.modifySocket p f) where
  identity q := by
    rw [modifySocket_heap]
    by_cases hq : q = p
    · cases s.heap q <;> simp [hq, hf]
    · simp [hq]
  next := rfl
  socketsList := rfl
  outputSocketsList := rfl
  locals := rfl

/-- Every object of a similar memory is an object of the other one. -/
theorem Similar.object {s s' : Memory} (h : Similar s s') {p : Ptr} {socket' : Socket}
    (hp : s'.heap p = some socket') :
    ∃ socket, s.heap p = some socket ∧ socket'.identity = socket.identity := by
  have hid := h.identity p
  rw [hp] at hid
  cases hheap : s.heap p with
  | none => simp [hheap] at hid
  | some socket =>
      rw [hheap] at hid
      exact ⟨socket, rfl, by simpa using hid⟩

theorem Similar.heap_eq_none_iff {s s' : Memory} (h : Similar s s') (p : Ptr) :
    s'.heap p = none ↔ s.heap p = none := by
  have hid := h.identity p
  cases hheap : s.heap p <;> cases hheap' : s'.heap p <;> simp_all

theorem Similar.descriptorOf {s s' : Memory} (h : Similar s s') (p : Ptr) :
    s'.descriptorOf p = s.descriptorOf p := by
  have hid := h.identity p
  unfold Memory.descriptorOf
  cases hheap : s.heap p with
  | none => simp [(h.heap_eq_none_iff p).mpr hheap]
  | some socket =>
      cases hheap' : s'.heap p with
      | none => simp [hheap, hheap'] at hid
      | some socket' =>
          simp only [hheap, hheap', Option.map_some, Option.some.injEq, Socket.identity,
            Prod.mk.injEq] at hid
          exact hid.2.2.1

theorem Similar.referenced_iff {s s' : Memory} (h : Similar s s') (p : Ptr) :
    s'.Referenced p ↔ s.Referenced p := by
  simp [Referenced, h.socketsList, h.outputSocketsList, h.locals]

/-! ## Requested events -/

/-- Some sockets request further events; nothing else has changed. -/
structure Asks (s s' : Memory) : Prop where
  heap : ∀ p, ∃ events, s'.heap p = (s.heap p).map (·.request events)
  rest : s' = { s with heap := s'.heap }

theorem Asks.refl (s : Memory) : Asks s s :=
  ⟨fun p => ⟨NO_EVENTS, by cases s.heap p <;> simp⟩, rfl⟩

theorem Asks.trans {s s' s'' : Memory} (h : Asks s s') (h' : Asks s' s'') :
    Asks s s'' where
  heap p := by
    rcases h.heap p with ⟨events, hheap⟩
    rcases h'.heap p with ⟨events', hheap'⟩
    refine ⟨events ||| events', ?_⟩
    rw [hheap', hheap]
    cases s.heap p <;> simp [Socket.request, BitVec.or_assoc]
  rest := by
    rw [h'.rest, h.rest]

theorem asks_modifySocket (s : Memory) (p : Ptr) (events : Events) :
    Asks s (s.modifySocket p (·.request events)) where
  heap q := by
    rw [modifySocket_heap]
    by_cases hq : q = p
    · exact ⟨events, by simp [hq]⟩
    · exact ⟨NO_EVENTS, by cases s.heap q <;> simp [hq]⟩
  rest := rfl

theorem Asks.similar {s s' : Memory} (h : Asks s s') : Similar s s' where
  identity p := by
    rcases h.heap p with ⟨events, hheap⟩
    rw [hheap]
    cases s.heap p <;> simp
  next := by rw [h.rest]
  socketsList := by rw [h.rest]
  outputSocketsList := by rw [h.rest]
  locals := by rw [h.rest]

/-! ## Pruned memories -/

/-- Some objects that nothing refers to are gone. -/
structure Pruned (s s' : Memory) : Prop where
  heap : ∀ p, s'.heap p = s.heap p ∨ (s'.heap p = none ∧ ¬s.Referenced p)
  rest : s' = { s with heap := s'.heap }

theorem Pruned.refl (s : Memory) : Pruned s s :=
  ⟨fun _ => Or.inl rfl, rfl⟩

theorem Pruned.referenced_iff {s s' : Memory} (h : Pruned s s') (p : Ptr) :
    s'.Referenced p ↔ s.Referenced p := by
  rw [h.rest]
  rfl

theorem Pruned.trans {s s' s'' : Memory} (h : Pruned s s') (h' : Pruned s' s'') :
    Pruned s s'' where
  heap p := by
    rcases h'.heap p with heq | ⟨hnone, href⟩
    · rw [heq]
      exact h.heap p
    · exact Or.inr ⟨hnone, fun hp => href ((h.referenced_iff p).mpr hp)⟩
  rest := by
    rw [h'.rest, h.rest]

theorem pruned_erase {s : Memory} {p : Ptr} (hp : ¬s.Referenced p) :
    Pruned s (s.erase p) where
  heap q := by
    rw [erase_heap]
    by_cases hq : q = p
    · exact Or.inr ⟨by simp [hq], hq ▸ hp⟩
    · exact Or.inl (by simp [hq])
  rest := rfl

/-- What is referenced is kept. -/
theorem Pruned.heap_of_referenced {s s' : Memory} (h : Pruned s s') {p : Ptr}
    (hp : s.Referenced p) : s'.heap p = s.heap p := by
  rcases h.heap p with heq | ⟨_, href⟩
  · exact heq
  · exact absurd hp href

/-- Every object of a pruned memory was there before. -/
theorem Pruned.object {s s' : Memory} (h : Pruned s s') {p : Ptr} {socket : Socket}
    (hp : s'.heap p = some socket) : s.heap p = some socket := by
  rcases h.heap p with heq | ⟨hnone, _⟩
  · rw [← heq, hp]
  · simp [hnone] at hp

section Fields

variable {s s' : Memory} (h : Pruned s s')
include h

theorem Pruned.next : s'.next = s.next := by rw [h.rest]
theorem Pruned.socketsList : s'.socketsList = s.socketsList := by rw [h.rest]
theorem Pruned.outputSocketsList : s'.outputSocketsList = s.outputSocketsList := by
  rw [h.rest]
theorem Pruned.locals : s'.locals = s.locals := by rw [h.rest]

end Fields

end Memory

/-! ## Polling -/

namespace Memory

/-- The first loop of {lit}`pollSockets` leads to a similar memory. -/
theorem similar_resetAll (s : Memory) (ps : List Ptr) : Similar s (s.resetAll ps) := by
  induction ps generalizing s with
  | nil => exact Similar.refl s
  | cons p ps ih =>
      have hreset : Similar s (s.resetEvents p) := similar_modifySocket s p fun _ => rfl
      exact hreset.trans (ih (s.resetEvents p))

theorem similar_reset (s : Memory) : Similar s s.reset :=
  s.similar_resetAll s.socketsList.sockets

/-- The second loop of {lit}`pollSockets` keeps the identity of every object. -/
theorem collect_identity (s : Memory) (ps : List Ptr) (revents : List Events) (q : Ptr) :
    ((s.collect ps revents).heap q).map Socket.identity =
      (s.heap q).map Socket.identity := by
  induction ps generalizing s revents with
  | nil => rfl
  | cons p ps ih =>
      rw [collect, ih, collectOne_heap]
      split
      next => cases s.heap q <;> simp
      next => rfl

/-- A successful poll keeps everything but mutable fields and the output list. -/
theorem similar_polled (s : Memory) (revents : List Events) :
    Similar { s with outputSocketsList := (s.polled revents).outputSocketsList }
      (s.polled revents) where
  identity q := (s.reset.collect_identity _ _ q).trans (s.similar_reset.identity q)
  next := s.polled_next revents
  socketsList := s.polled_socketsList revents
  outputSocketsList := rfl
  locals := s.polled_locals revents

end Memory

/-! ## Polling, and dropping references -/

section Specs

variable {W A : Type} {K : Kernel W Call Reply A}
variable {H : Memory → W → Call → Reply → Prop} {G : Memory → W → Call → Prop}
variable {P : Call → Prop} {J : W → Prop} {s : Memory} {w : W}

/-- Destroying an object that nothing refers to keeps the invariant, and so does
closing its descriptor. -/
structure Disposes (K : Kernel W Call Reply A) (H : Memory → W → Call → Reply → Prop)
    (G : Memory → W → Call → Prop) (Inv : Memory → W → Prop) : Prop where
  erase : ∀ s w p socket, Inv s w → ¬s.Referenced p → s.heap p = some socket →
    socket.protectDescriptor = true → Inv (s.erase p) w
  close : ∀ s w p socket, Inv s w → ¬s.Referenced p → s.heap p = some socket →
    socket.protectDescriptor = false →
    Sat K H G (Program.ask (.close socket.descriptor)) (fun s' w' _ => Inv s' w')
      (s.erase p) w

/-- Where closing a descriptor is quiet, an invariant of the world is kept. -/
theorem disposes_of_quiet (hquiet : Quiet K H G (fun _ => True) P J)
    (hclose : ∀ d, P (.close d)) : Disposes K H G fun _ w => J w where
  erase _ _ _ _ hJ _ _ _ := hJ
  close _ _ _ _ hJ _ _ _ := sat_ask_quiet hquiet (hclose _) trivial hJ fun _ _ hJ' => hJ'

/-- Where the poll is quiet, it resets the listed sockets or collects them. -/
theorem sat_pollSockets_quiet (hquiet : Quiet K H G s.Similar P J)
    (hcrash : s.socketsList.sockets.length > MAX_SOCKETS_TO_POLL → P .crash)
    (hpoll : ∀ pollInfo timeout, P (.poll pollInfo timeout)) (hJ : J w) :
    Sat K H G pollSockets (fun s' w' errorType => J w' ∧
      if errorType = .NONE then ∃ revents, s' = s.polled revents else s' = s.reset) s w := by
  apply sat_pollSockets
  · intro hlength w₁ hacts
    exact hquiet.guarantee s w₁ _ (Memory.Similar.refl s) (hcrash hlength)
      (hacts.keeps hquiet.act hJ)
  · refine sat_ask_quiet hquiet (hpoll _ _) s.similar_reset hJ fun r w hJ => ?_
    exact ⟨fun _ _ => ⟨hJ, rfl⟩, fun _ _ => ⟨hJ, rfl⟩, fun _ => ⟨hJ, rfl⟩,
      fun _ _ => ⟨hJ, r.revents, rfl⟩⟩

section Disposes

variable {Inv : Memory → W → Prop} (hdisposes : Disposes K H G Inv)
include hdisposes

/-- Dropping a reference only prunes. -/
theorem sat_release_keeps (p : Ptr) (hInv : Inv s w) :
    Sat K H G (release p) (fun s' w' _ => s.Pruned s' ∧ Inv s' w') s w := by
  apply sat_release
  · intro _
    exact ⟨Memory.Pruned.refl s, hInv⟩
  · intro socket href hsocket hprotected
    exact ⟨Memory.pruned_erase href, hdisposes.erase s w p socket hInv href hsocket hprotected⟩
  · intro socket href hsocket hprotected
    have hclose := hdisposes.close s w p socket hInv href hsocket hprotected
    exact hclose.ask_mono fun w r hInv => ⟨Memory.pruned_erase href, hInv⟩

/-- A removal drops an entry of the list and prunes the object if nothing else refers
to it. -/
theorem sat_delSocket_keeps {p : Ptr} {s' : Memory} {deleted : Bool}
    (hlist : s' = { s with socketsList :=
      (SocketsList.delSocket s.descriptorOf s.socketsList (s.descriptorOf p)).1 })
    (hdeleted : deleted =
      (SocketsList.delSocket s.descriptorOf s.socketsList (s.descriptorOf p)).2)
    (hnote : Sat K H G (note (.delSocket p s.socketsList.sockets deleted))
      (fun s'' w' _ => s'' = s' ∧ Inv s' w') s' w) :
    Sat K H G (delSocket p) (fun s'' w' _ => s'.Pruned s'' ∧ Inv s'' w') s w := by
  subst hlist hdeleted
  rw [delSocket, sat_bind, sat_get, sat_bind, sat_set]
  refine hnote.seq ?_
  rintro _ w' _ ⟨rfl, hInv⟩
  rw [sat_bind, sat_when]
  split
  next =>
    cases s.socketsList.sockets.find? (s.descriptorOf · == s.descriptorOf p) with
    | some q => exact sat_release_keeps hdisposes q hInv
    | none => exact ⟨Memory.Pruned.refl _, hInv⟩
  next => exact ⟨Memory.Pruned.refl _, hInv⟩

/-- Clearing the output list prunes the objects that only it referred to. -/
theorem sat_clearOutput_keeps
    (hInv : Inv { s with outputSocketsList := s.outputSocketsList.clear } w) :
    Sat K H G clearOutput (fun s' w' _ =>
      Memory.Pruned { s with outputSocketsList := s.outputSocketsList.clear } s' ∧
        Inv s' w') s w := by
  rw [clearOutput, sat_bind, sat_get, sat_bind, sat_set]
  apply sat_forEach fun _ s' w' =>
    Memory.Pruned { s with outputSocketsList := s.outputSocketsList.clear } s' ∧ Inv s' w'
  · intro p ps s' w' hinv
    apply (sat_release_keeps hdisposes p hinv.2).mono
    intro s'' w'' _ hpost
    exact ⟨hinv.1.trans hpost.1, hpost.2⟩
  · exact ⟨Memory.Pruned.refl _, hInv⟩

end Disposes

/-- A removal where closing a descriptor is quiet. -/
theorem sat_delSocket_quiet (hquiet : Quiet K H G (fun _ => True) P J)
    (hclose : ∀ d, P (.close d)) {p : Ptr} {s' : Memory} {deleted : Bool}
    (hlist : s' = { s with socketsList :=
      (SocketsList.delSocket s.descriptorOf s.socketsList (s.descriptorOf p)).1 })
    (hdeleted : deleted =
      (SocketsList.delSocket s.descriptorOf s.socketsList (s.descriptorOf p)).2)
    (hnote : Sat K H G (note (.delSocket p s.socketsList.sockets deleted))
      (fun s'' w' _ => s'' = s' ∧ J w') s' w) :
    Sat K H G (delSocket p) (fun s'' w' _ => s'.Pruned s'' ∧ J w') s w :=
  sat_delSocket_keeps (disposes_of_quiet hquiet hclose) hlist hdeleted hnote

/-- Clearing the output list where closing a descriptor is quiet. -/
theorem sat_clearOutput_quiet (hquiet : Quiet K H G (fun _ => True) P J)
    (hclose : ∀ d, P (.close d)) (hJ : J w) :
    Sat K H G clearOutput (fun s' w' _ =>
      Memory.Pruned { s with outputSocketsList := s.outputSocketsList.clear } s' ∧ J w')
      s w :=
  sat_clearOutput_keeps (disposes_of_quiet hquiet hclose) hJ

end Specs

end SocketDispatcher
