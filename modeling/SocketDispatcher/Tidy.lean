import SocketDispatcher.Frame

/-!
# Tidy memories

What both programs keep true of their memory between two operations, whatever their
objects are: fresh pointers are unused, everything referenced is an object, and the
two lists have no repetitions and one maximum size.

Main results:

- Theorems {lit}`Tidy.similar`, {lit}`Tidy.pruned`, {lit}`Tidy.shrink`,
  {lit}`Tidy.polled` and {lit}`Tidy.join`: the operations keep a memory tidy.
- Theorem {lit}`Tidy.polled_output`: the sockets that a successful poll collects.
- Theorem {lit}`Prepared.object`: what the part of a cycle before the poll does to an
  object.
-/

namespace SocketDispatcher

namespace Memory

/-- Pointers and lists are in order. -/
structure Tidy (max : Nat) (s : Memory) : Prop where
  fresh : ∀ p, s.next ≤ p → s.heap p = none
  live : ∀ p, s.Referenced p → s.heap p ≠ none
  nodup : s.socketsList.sockets.Nodup
  outputNodup : s.outputSocketsList.sockets.Nodup
  maxSize : s.socketsList.maxSize = max
  outputMaxSize : s.outputSocketsList.maxSize = max

namespace Tidy

variable {max : Nat} {s s' : Memory}

/-- Objects in use are below the allocation pointer. -/
theorem lt_next (h : Tidy max s) {p : Ptr} (hp : s.heap p ≠ none) : p < s.next := by
  by_contra hge
  exact hp (h.fresh p (Nat.not_lt.mp hge))

/-- Nothing refers to a fresh pointer. -/
theorem not_referenced (h : Tidy max s) {p : Ptr} (hp : s.next ≤ p) : ¬s.Referenced p :=
  fun href => h.live p href (h.fresh p hp)

theorem similar (h : Tidy max s) (hsim : s.Similar s') : Tidy max s' where
  fresh p hp := by
    rw [hsim.heap_eq_none_iff]
    exact h.fresh p (hsim.next ▸ hp)
  live p hp := by
    rw [Ne, hsim.heap_eq_none_iff]
    exact h.live p ((hsim.referenced_iff p).mp hp)
  nodup := hsim.socketsList ▸ h.nodup
  outputNodup := hsim.outputSocketsList ▸ h.outputNodup
  maxSize := hsim.socketsList ▸ h.maxSize
  outputMaxSize := hsim.outputSocketsList ▸ h.outputMaxSize

theorem pruned (h : Tidy max s) (hpruned : s.Pruned s') : Tidy max s' where
  fresh p hp := by
    rcases hpruned.heap p with heq | ⟨hnone, _⟩
    · rw [heq]
      exact h.fresh p (hpruned.next ▸ hp)
    · exact hnone
  live p hp := by
    have href := (hpruned.referenced_iff p).mp hp
    rw [hpruned.heap_of_referenced href]
    exact h.live p href
  nodup := hpruned.socketsList ▸ h.nodup
  outputNodup := hpruned.outputSocketsList ▸ h.outputNodup
  maxSize := hpruned.socketsList ▸ h.maxSize
  outputMaxSize := hpruned.outputSocketsList ▸ h.outputMaxSize

/-- Lists may lose entries. -/
theorem shrink (h : Tidy max s) {list output : SocketsList Ptr}
    (hlist : list.sockets.Sublist s.socketsList.sockets)
    (houtput : output.sockets.Sublist s.outputSocketsList.sockets)
    (hmax : list.maxSize = s.socketsList.maxSize)
    (houtputMax : output.maxSize = s.outputSocketsList.maxSize) :
    Tidy max { s with socketsList := list, outputSocketsList := output } where
  fresh := h.fresh
  live p hp := by
    apply h.live p
    rcases hp with hp | hp | hp
    · exact Or.inl (hlist.subset hp)
    · exact Or.inr (Or.inl (houtput.subset hp))
    · exact Or.inr (Or.inr hp)
  nodup := h.nodup.sublist hlist
  outputNodup := h.outputNodup.sublist houtput
  maxSize := hmax.trans h.maxSize
  outputMaxSize := houtputMax.trans h.outputMaxSize

theorem clearOutput (h : Tidy max s) :
    Tidy max { s with outputSocketsList := s.outputSocketsList.clear } :=
  h.shrink (List.Sublist.refl _) (List.nil_sublist _) rfl rfl

theorem delSocket (h : Tidy max s) (d : Int) :
    Tidy max
      { s with socketsList := (SocketsList.delSocket s.descriptorOf s.socketsList d).1 } :=
  h.shrink (SocketsList.delSocket_sublist _ _ _) (List.Sublist.refl _) (by simp) rfl

/-- A new object may join the sockets list. -/
theorem join (h : Tidy max s) {p n : Ptr} (hp : s.next ≤ p) (hn : p < n) (socket : Socket) :
    Tidy max
      { s with
        heap := Function.update s.heap p (some socket)
        next := n
        socketsList := (s.socketsList.putSocket p).1 } where
  fresh q hq := by
    have hne : q ≠ p := Nat.ne_of_gt (Nat.lt_of_lt_of_le hn hq)
    have hle : s.next ≤ q := Nat.le_trans hp (Nat.le_trans (Nat.le_of_lt hn) hq)
    simpa [hne] using h.fresh q hle
  live q hq := by
    by_cases hnew : q = p
    · simp [hnew]
    · have hold : s.Referenced q := by
        rcases hq with hq | hq | hq
        · rcases SocketsList.mem_putSocket hq with hq | hq
          · exact Or.inl hq
          · exact absurd hq hnew
        · exact Or.inr (Or.inl hq)
        · exact Or.inr (Or.inr hq)
      simpa [hnew] using h.live q hold
  nodup := SocketsList.nodup_putSocket h.nodup fun hmem =>
    h.not_referenced hp (Or.inl hmem)
  outputNodup := h.outputNodup
  maxSize := by simpa using h.maxSize
  outputMaxSize := h.outputMaxSize

/-- Pointers may be skipped. -/
theorem skip (h : Tidy max s) {n : Ptr} (hn : s.next ≤ n) : Tidy max { s with next := n } where
  fresh p hp := h.fresh p (Nat.le_trans hn hp)
  live := h.live
  nodup := h.nodup
  outputNodup := h.outputNodup
  maxSize := h.maxSize
  outputMaxSize := h.outputMaxSize

/-! ## Polling -/

/-- The sockets that a successful poll collects. -/
theorem polled_output (h : Tidy max s) (hempty : s.outputSocketsList.sockets = [])
    (revents : List Events) :
    (s.polled revents).outputSocketsList.sockets =
      s.socketsList.sockets.filter fun p =>
        reventsFor s.socketsList.sockets revents p ≠ NO_EVENTS :=
  Memory.polled_output h.nodup hempty (by rw [h.maxSize, h.outputMaxSize]) revents

/-- A successful poll collects listed sockets. -/
theorem collected (h : Tidy max s) (hempty : s.outputSocketsList.sockets = [])
    (revents : List Events) :
    ∀ p ∈ (s.polled revents).outputSocketsList.sockets, p ∈ s.socketsList.sockets := by
  intro p hp
  rw [h.polled_output hempty revents] at hp
  exact List.mem_of_mem_filter hp

theorem polled (h : Tidy max s) (hempty : s.outputSocketsList.sockets = [])
    (revents : List Events) : Tidy max (s.polled revents) := by
  apply Tidy.similar _ (s.similar_polled revents)
  exact
    { fresh := h.fresh
      live := by
        intro p hp
        apply h.live p
        rcases hp with hp | hp | hp
        · exact Or.inl hp
        · exact Or.inl (h.collected hempty revents p hp)
        · exact Or.inr (Or.inr hp)
      nodup := h.nodup
      outputNodup := by
        change (s.polled revents).outputSocketsList.sockets.Nodup
        rw [h.polled_output hempty revents]
        exact h.nodup.filter _
      maxSize := h.maxSize
      outputMaxSize := by
        change (s.reset.collect _ _).outputSocketsList.maxSize = _
        rw [collect_maxSize, reset_outputSocketsList, h.outputMaxSize] }

end Tidy

end Memory

/-! ## Before the poll -/

/-- What the part of a cycle before the poll does to the memory: it empties the output
list and asks for read events. -/
def Prepared (s s' : Memory) : Prop :=
  ∃ s₁ s₂, s.Asks s₁ ∧
    Memory.Pruned { s₁ with outputSocketsList := s₁.outputSocketsList.clear } s₂ ∧
    s₂.Asks s'

section Prepared

variable {s s' : Memory}

theorem Prepared.next (h : Prepared s s') : s'.next = s.next := by
  rcases h with ⟨s₁, s₂, hask, hpruned, hreads⟩
  rw [hreads.similar.next, hpruned.next, hask.similar.next]

theorem Prepared.socketsList (h : Prepared s s') : s'.socketsList = s.socketsList := by
  rcases h with ⟨s₁, s₂, hask, hpruned, hreads⟩
  rw [hreads.similar.socketsList, hpruned.socketsList, hask.similar.socketsList]

theorem Prepared.appCfg (h : Prepared s s') : s'.appCfg = s.appCfg := by
  rcases h with ⟨s₁, s₂, hask, hpruned, hreads⟩
  rw [hreads.rest, hpruned.rest, hask.rest]

theorem Prepared.output (h : Prepared s s') : s'.outputSocketsList.sockets = [] := by
  rcases h with ⟨s₁, s₂, hask, hpruned, hreads⟩
  rw [hreads.similar.outputSocketsList, hpruned.outputSocketsList]
  rfl

/-- A prepared object has only asked for more. -/
theorem Prepared.object (h : Prepared s s') {p : Ptr} {socket' : Socket}
    (hp : s'.heap p = some socket') :
    ∃ socket events, s.heap p = some socket ∧ socket' = socket.request events := by
  rcases h with ⟨s₁, s₂, hask, hpruned, hreads⟩
  rcases hreads.heap p with ⟨events, hevents⟩
  rw [hp] at hevents
  obtain ⟨socket₂, hsocket₂, rfl⟩ := Option.map_eq_some_iff.mp hevents.symm
  rcases hask.heap p with ⟨events', hevents'⟩
  have hsocket₁ : s₁.heap p = some socket₂ := hpruned.object hsocket₂
  rw [hsocket₁] at hevents'
  obtain ⟨socket, hsocket, rfl⟩ := Option.map_eq_some_iff.mp hevents'.symm
  refine ⟨socket, events' ||| events, hsocket, ?_⟩
  simp [Socket.request, BitVec.or_assoc]

end Prepared

end SocketDispatcher
