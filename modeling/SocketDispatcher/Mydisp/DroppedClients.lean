import SocketDispatcher.Mydisp.Rules

/-!
# Dropped clients

What becomes of a client for which {lit}`processClient` has returned false, in
surroundings that give every reply.  The record is the list of these clients.
{lit}`delSocket` starts with the guard of {lit}`putSocket` and removes nothing from
a full list.

Main results:

- Theorem {lit}`forgotten_of_removable`: as long as a dropped client is the first
  one in the list with its descriptor, and the list is not full, it leaves the list
  in the same cycle and is never polled, read or written again.
- Theorem {lit}`full_list_keeps_dropped`: in a full list a dropped client stays.
-/

namespace SocketDispatcher

open Interaction

namespace Mydisp

/-- The record: the clients that have been dropped. -/
def recordDropped (dropped : List Ptr) : Call → Reply → List Ptr
  | .note (.clientDropped p), _ => p :: dropped
  | _, _ => dropped

/-- A dropped client is not listed at the end of the cycle or when the list is
polled, and no call reads it or writes to it.  Its removal frees a slot. -/
def Forgotten (m : Memory) (dropped : List Ptr) : Call → Prop
  | .poll pollInfo _ =>
      pollInfo.map PollFd.fd = m.socketsList.sockets.map m.descriptorOf ∧
        ∀ p ∈ dropped, p ∉ m.socketsList.sockets
  | .note .loopEnd => ∀ p ∈ dropped, p ∉ m.socketsList.sockets
  | .note (.delSocket _ before deleted) =>
      deleted = true ∧ m.socketsList.sockets.length + 1 = before.length ∧
        m.socketsList.sockets.length < m.socketsList.maxSize
  | .bioRead p _ _ => p ∉ dropped
  | .bioWrite p _ => p ∉ dropped
  | .recv fd _ _ _ => fd = m.descriptorOf unixSocket
  | .write _ _ => False
  | _ => True

/-- When a client is dropped, the list is not full, and no socket in front of the
client has its descriptor. -/
def Removable (m : Memory) (_ : List Ptr) : Call → Reply → Prop
  | .note (.clientDropped p), _ =>
      m.socketsList.sockets.length < m.socketsList.maxSize ∧
        firstWithDescriptor m p = some p
  | _, _ => True

/-! ## The invariant -/

/-- Dropped clients are known to the allocator and not listed. -/
structure Clean (descriptor : Int) (s : Memory) (dropped : List Ptr) : Prop where
  shape : Shape descriptor s
  old : ∀ p ∈ dropped, p < s.next
  gone : ∀ p ∈ dropped, p ∉ s.socketsList.sockets

/-- The entries still to be handled are collected ones, and none has been dropped. -/
structure CleanTodo (descriptor : Int) (ps : List Ptr) (s : Memory) (dropped : List Ptr) :
    Prop where
  clean : Clean descriptor s dropped
  collected : ∀ p ∈ ps, p ∈ s.outputSocketsList.sockets
  nodup : ps.Nodup
  pending : ∀ p ∈ ps, p ∉ dropped

section Steps

variable {descriptor : Int} {s s' : Memory} {dropped ps : List Ptr} {p : Ptr}

theorem Clean.similar (h : Clean descriptor s dropped) (hsim : s.Similar s') :
    Clean descriptor s' dropped where
  shape := h.shape.similar hsim
  old := hsim.next ▸ h.old
  gone := hsim.socketsList ▸ h.gone

theorem Clean.pruned (h : Clean descriptor s dropped) (hpruned : s.Pruned s') :
    Clean descriptor s' dropped where
  shape := h.shape.pruned hpruned
  old := hpruned.next ▸ h.old
  gone := hpruned.socketsList ▸ h.gone

theorem Clean.join (h : Clean descriptor s dropped) (tcp : Socket) :
    Clean descriptor (Mydisp.join s tcp) dropped where
  shape := h.shape.join
  old p hp := Nat.lt_trans (h.old p hp) (by simp [Mydisp.join])
  gone p hp hmem := by
    rcases SocketsList.mem_putSocket hmem with hmem | hnew
    · exact h.gone p hp hmem
    · have hlt := h.old p hp
      rw [hnew] at hlt
      exact absurd hlt (Nat.not_lt.mpr (Nat.le_succ _))

theorem Clean.refuse (h : Clean descriptor s dropped) :
    Clean descriptor (Mydisp.refuse s) dropped where
  shape := h.shape.refuse
  old p hp := Nat.lt_trans (h.old p hp) (by simp [Mydisp.refuse])
  gone := h.gone

/-- A client that is dropped while the list has room is removed. -/
theorem Clean.drop (h : Clean descriptor s dropped) (hp : p < s.next)
    (hremovable : s.socketsList.sockets.length < s.socketsList.maxSize ∧
      firstWithDescriptor s p = some p) :
    Clean descriptor
      { s with socketsList :=
          (SocketsList.delSocket s.descriptorOf s.socketsList (s.descriptorOf p)).1 }
      (p :: dropped) where
  shape := h.shape.delSocket _
  old q hq := by
    rcases List.mem_cons.mp hq with rfl | hq
    · exact hp
    · exact h.old q hq
  gone q hq hmem := by
    have herase := (SocketsList.delSocket_first hremovable.1 hremovable.2).2
    rw [show ({ s with socketsList := (SocketsList.delSocket s.descriptorOf s.socketsList
      (s.descriptorOf p)).1 } : Memory).socketsList.sockets = _ from herase] at hmem
    rcases List.mem_cons.mp hq with rfl | hq
    · exact h.shape.nodup.not_mem_erase hmem
    · exact h.gone q hq (List.mem_of_mem_erase hmem)

theorem CleanTodo.similar (h : CleanTodo descriptor ps s dropped) (hsim : s.Similar s') :
    CleanTodo descriptor ps s' dropped where
  clean := h.clean.similar hsim
  collected := hsim.outputSocketsList ▸ h.collected
  nodup := h.nodup
  pending := h.pending

theorem CleanTodo.tail (h : CleanTodo descriptor (p :: ps) s dropped) :
    CleanTodo descriptor ps s dropped where
  clean := h.clean
  collected q hq := h.collected q (List.mem_cons_of_mem p hq)
  nodup := (List.nodup_cons.mp h.nodup).2
  pending q hq := h.pending q (List.mem_cons_of_mem p hq)

end Steps

/-! ## The functions of the main loop -/

section Cycle

variable {descriptor : Int} {fuel : Nat} {s : Memory} {dropped ps : List Ptr} {p : Ptr}

/-- Calls that are neither restricted nor recorded. -/
theorem forgotten_quiet {I : Memory → Prop} {P : Call → Prop}
    (hG : ∀ s c, I s → P c → Forgotten s dropped c)
    (hP : ∀ p, ¬P (.note (.clientDropped p))) :
    Quiet (observer recordDropped) Removable Forgotten I P (· = dropped) := by
  apply observer_quiet hG
  intro c r hc
  unfold recordDropped
  split
  next p => exact absurd hc (hP p)
  next => rfl

/-- A message of the listener. -/
theorem clean_dispatcherProcess (h : CleanTodo descriptor ps s dropped) :
    Sat (observer recordDropped) Removable Forgotten (dispatcherProcess unixSocket fuel)
      (fun s dropped _ => CleanTodo descriptor ps s dropped) s dropped := by
  have hbackground : Quiet (observer recordDropped) Removable Forgotten
      (fun s' => CleanTodo descriptor ps s' dropped ∧ s.next ≤ s'.next)
      (Background descriptor) (· = dropped) := by
    apply forgotten_quiet
    · intro s' c hI
      revert c
      apply forall_background
      · apply forall_configuring <;> intros <;> trivial
      · exact fun _ _ _ => hI.1.clean.shape.descriptorOf_unix.symm
    · intro p hc
      cases hc
  have haccepting : Quiet (observer recordDropped) Removable Forgotten (fun _ => True)
      (Accepting s.next) (· = dropped) := by
    apply forgotten_quiet
    · intro s' c _
      revert c
      apply forall_accepting
      · apply forall_receiving <;> intros <;> trivial
      · refine forall_admitting trivial (fun _ => trivial) (fun _ _ _ => trivial) ?_
        exact fun q _ hle hq => absurd (h.clean.old q hq) (Nat.not_lt.mpr hle)
    · exact fun p hc => hc.elim id id
  apply sat_dispatcherProcess_quiet hbackground haccepting
  · exact fun s' hI => hI.1.clean.shape
  · exact fun s' hI => hI.2
  · intro s' appCfg ssl cmptr hI
    exact ⟨hI.1.similar ⟨fun _ => rfl, rfl, rfl, rfl, rfl⟩, hI.2⟩
  · rintro s' _ tcp hI rfl _
    exact { hI.1 with clean := hI.1.clean.join tcp }
  · rintro s' _ hI rfl
    exact { hI.1 with clean := hI.1.clean.refuse }
  · rintro s' _ _ hI rfl
    exact hI.1
  · exact ⟨h, Nat.le_refl _⟩
  · rfl

/-- The removal of a dropped client. -/
theorem clean_drop (h : CleanTodo descriptor (p :: ps) s dropped) :
    Sat (observer recordDropped) Removable Forgotten (note (.clientDropped p))
      (fun s dropped _ => Sat (observer recordDropped) Removable Forgotten (delSocket p)
        (fun s dropped _ => CleanTodo descriptor ps s dropped) s dropped) s dropped := by
  rw [sat_note, sat_ask_closed]
  refine ⟨trivial, ?_⟩
  intro r dropped' hreply hremovable
  obtain rfl : p :: dropped = dropped' := Option.some.inj hreply
  have hcollected := h.collected p (List.mem_cons_self ..)
  have hlt : p < s.next :=
    h.clean.shape.lt_next (h.clean.shape.live p (Or.inr (Or.inl hcollected)))
  have hclose : Quiet (observer recordDropped) Removable Forgotten (fun _ => True)
      (fun c => ∃ d, c = .close d) (· = p :: dropped) := by
    apply forgotten_quiet
    · rintro s' _ _ ⟨d, rfl⟩
      trivial
    · rintro q ⟨d, hd⟩
      cases hd
  obtain ⟨hdeleted, herase⟩ := SocketsList.delSocket_first hremovable.1 hremovable.2
  apply (sat_delSocket_quiet hclose (fun d => ⟨d, rfl⟩) rfl rfl ?_).mono
  · rintro s' _ _ ⟨hpruned, rfl⟩
    exact
      { clean := (h.clean.drop hlt hremovable).pruned hpruned
        collected := by
          intro q hq
          rw [hpruned.outputSocketsList]
          exact h.collected q (List.mem_cons_of_mem p hq)
        nodup := h.tail.nodup
        pending := by
          intro q hq hmem
          rcases List.mem_cons.mp hmem with rfl | hmem
          · exact (List.nodup_cons.mp h.nodup).1 hq
          · exact h.tail.pending q hq hmem }
  · rw [sat_note, sat_ask_closed]
    have hlength : (s.socketsList.sockets.erase p).length + 1 =
        s.socketsList.sockets.length := by
      have hmem : p ∈ s.socketsList.sockets := List.mem_of_find?_eq_some hremovable.2
      have hpos := List.length_pos_of_mem hmem
      rw [List.length_erase_of_mem hmem]
      omega
    refine ⟨⟨hdeleted, ?_, ?_⟩, ?_⟩
    · rw [herase]
      exact hlength
    · rw [herase, SocketsList.delSocket_maxSize]
      have := hremovable.1
      omega
    · intro r dropped' hreply _
      exact ⟨rfl, (Option.some.inj hreply).symm⟩

/-- A conversation, and the removal of the client if it is dropped. -/
theorem clean_processClient (h : CleanTodo descriptor (p :: ps) s dropped)
    (hp : p ≠ unixSocket) :
    Sat (observer recordDropped) Removable Forgotten (processClient p)
      (fun s dropped ok => if ok then CleanTodo descriptor ps s dropped
        else Sat (observer recordDropped) Removable Forgotten (note (.clientDropped p))
          (fun s dropped _ => Sat (observer recordDropped) Removable Forgotten (delSocket p)
            (fun s dropped _ => CleanTodo descriptor ps s dropped) s dropped) s dropped)
      s dropped := by
  have hquiet : Quiet (observer recordDropped) Removable Forgotten
      (fun s' => s.Similar s' ∧ s'.appCfg = s.appCfg) (Conversation p) (· = dropped) := by
    apply forgotten_quiet
    · intro s' c _ hc
      have hpending := h.pending p (List.mem_cons_self ..)
      cases c with
      | bioRead q => exact (show q = p from hc) ▸ hpending
      | bioWrite q => exact (show q = p from hc) ▸ hpending
      | _ => trivial
    · intro q hc
      cases hc
  have hwithin := h.clean.shape.within_processClient hp
  apply (hwithin.sat hquiet ⟨Memory.Similar.refl s, rfl⟩ rfl).mono
  rintro s' _ ok ⟨⟨hsim, -⟩, rfl⟩
  have h' := h.similar hsim
  cases ok with
  | true => exact h'.tail
  | false => exact clean_drop h'

/-- The poll collects listed sockets only. -/
theorem clean_pollSockets (h : Clean descriptor s dropped)
    (hempty : s.outputSocketsList.sockets = []) :
    Sat (observer recordDropped) Removable Forgotten pollSockets
      (fun s dropped errorType =>
        match errorType with
        | .NONE => CleanTodo descriptor s.outputSocketsList.sockets s dropped
        | _ => Clean descriptor s dropped) s dropped := by
  have hreset : Clean descriptor s.reset dropped := h.similar s.similar_reset
  apply sat_pollSockets
  · intro _ _ _
    trivial
  · rw [sat_ask_closed]
    refine ⟨⟨?_, hreset.gone⟩, ?_⟩
    · rw [Memory.pollInfo_eq_map h.shape.nodup, List.map_map, Memory.reset_socketsList]
      exact List.map_congr_left fun p _ => (s.similar_reset.descriptorOf p).symm
    · intro r dropped' hreply _
      obtain rfl : dropped = dropped' := Option.some.inj hreply
      refine ⟨fun _ _ => hreset, fun _ _ => hreset, fun _ => hreset, fun _ _ => ?_⟩
      have hshape := h.shape.polled hempty r.revents
      exact
        { clean := ⟨hshape, by simpa using h.old, by simpa using h.gone⟩
          collected := fun p hp => hp
          nodup := hshape.outputNodup
          pending := fun p hp hdropped =>
            h.gone p hdropped (h.shape.collected hempty r.revents p hp) }

end Cycle

/-! ## The main loop -/

/-- In every run in which clients are dropped only while the list has room, a
dropped client leaves the list in the same cycle, frees its slot, and is never
polled, read or written again. -/
theorem forgotten_of_removable (descriptor fuel cycles : Nat) :
    Safe (observer recordDropped) Removable Forgotten
      ⟨started descriptor, [], mainLoop unixSocket fuel cycles⟩ := by
  apply Sat.safe
  have hend : ∀ s dropped, Clean descriptor s dropped →
      Sat (observer recordDropped) Removable Forgotten (note .loopEnd)
        (fun s dropped _ => Clean descriptor s dropped) s dropped := by
    intro s dropped h
    rw [sat_note, sat_ask_closed]
    refine ⟨h.gone, ?_⟩
    intro r dropped' hreply _
    obtain rfl : dropped = dropped' := Option.some.inj hreply
    exact h
  apply sat_mainLoop (Clean descriptor)
    (fun s dropped => Clean descriptor s dropped ∧ s.outputSocketsList.sockets = [])
    (Clean descriptor) (Clean descriptor) (CleanTodo descriptor)
  · intro s dropped h
    have hquiet : Quiet (observer recordDropped) Removable Forgotten (fun _ => True)
        Preparing (· = dropped) := by
      apply forgotten_quiet
      · intro s c _
        revert c
        apply forall_preparing <;> intros <;> trivial
      · intro p hc
        cases hc
    apply (sat_prepare_quiet hquiet rfl).mono
    rintro s' _ _ ⟨hprepared, rfl⟩
    exact ⟨⟨h.shape.prepared hprepared, hprepared.next ▸ h.old,
      hprepared.socketsList ▸ h.gone⟩, hprepared.output⟩
  · intro s dropped h
    apply (clean_pollSockets h.1 h.2).mono
    intro s dropped errorType h
    cases errorType <;> exact h
  · intro p ps s dropped h
    have hlive : s.heap p ≠ none :=
      h.clean.shape.live p (Or.inr (Or.inl (h.collected p (List.mem_cons_self ..))))
    apply sat_processReEvents h.clean.shape hlive
    · intro _
      apply (clean_dispatcherProcess h.tail).mono
      intro s dropped ok h
      rw [sat_note, sat_ask_closed]
      refine ⟨trivial, ?_⟩
      intro r dropped' hreply _
      obtain rfl : dropped = dropped' := Option.some.inj hreply
      cases ok with
      | true => exact h
      | false => exact h.clean
    · intro hp
      exact clean_processClient h hp
  · intro s dropped h
    exact h.clean
  · exact hend
  · intro s dropped h
    exact (hend s dropped h).mono fun _ _ _ _ => trivial
  · exact ⟨shape_started descriptor, by simp, by simp⟩

/-- At the end of a cycle no dropped client is listed. -/
def delistedAtEnd (m : Memory) (dropped : List Ptr) : Call → Bool
  | .note .loopEnd => dropped.all (! m.socketsList.sockets.contains ·)
  | _ => true

theorem delistedAtEnd_of_forgotten {m : Memory} {dropped : List Ptr} {c : Call}
    (h : Forgotten m dropped c) : delistedAtEnd m dropped c = true := by
  unfold delistedAtEnd
  split
  next => simpa [Forgotten] using h
  next => rfl

/-- After the configuration the UNIX socket and nine clients fill the list.  The first
client hangs up, its removal fails, and it is still listed at the end of the cycle. -/
theorem full_list_keeps_dropped :
    ¬Safe (observer recordDropped) anyReply Forgotten
      ⟨started 3, [], mainLoop unixSocket 1 11⟩ :=
  not_safe_of_exec delistedAtEnd (fun _ _ _ => delistedAtEnd_of_forgotten)
    (configured true configuration ++ arrival true 4 ++
      [5, 6, 7, 8, 9, 10, 11, 12].flatMap (arrival false) ++
      [.inr {}, .inr { ret := 1, revents := [NO_EVENTS, POLLHUP] }, .inr {}, .inr {}])
    (by decide)

end Mydisp

end SocketDispatcher
