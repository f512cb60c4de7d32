import Mathlib.Data.Set.Function
import SocketDispatcher.Frame

/-!
# Inventory

Which object owns which descriptor, between two operations and while references are being
dropped: the objects of a memory and the descriptors that the process owns correspond to each
other one by one, and no object is forgotten.

Main results:

- Theorems {lit}`Inventory.erase` and {lit}`Inventory.alloc`: an object goes with its descriptor,
  and comes with a new one.
- Theorem {lit}`sat_release_inventory`: dropping a reference closes the descriptor that is no
  longer owned.
- Theorems {lit}`sat_clearOutput_inventory`, {lit}`sat_clearSockets_inventory` and
  {lit}`sat_delSocket_inventory`: the same for both lists.
-/

namespace SocketDispatcher

open Interaction

namespace Memory

/-- The objects of a memory. -/
def live (s : Memory) : Set Ptr :=
  {p | s.heap p ≠ none}

/-- The objects own the given descriptors, one each; each of them is referred to, or a reference
to it is about to be dropped. -/
structure Inventory (ps : List Ptr) (owned : Set Int) (s : Memory) : Prop where
  held : ∀ p ∈ s.live, s.Referenced p ∨ p ∈ ps
  owners : Set.BijOn s.descriptorOf s.live owned
  unprotected : ∀ p socket, s.heap p = some socket → socket.protectDescriptor = false

theorem live_similar {s s' : Memory} (h : s.Similar s') : s'.live = s.live :=
  Set.ext fun p => not_congr (h.heap_eq_none_iff p)

theorem live_erase (s : Memory) (p : Ptr) : (s.erase p).live = s.live \ {p} := by
  ext q
  by_cases hq : q = p
  · simp [live, hq]
  · simp [live, hq]

theorem live_alloc (s : Memory) (socket : Socket) :
    (s.alloc socket).live = insert s.next s.live := by
  ext q
  by_cases hq : q = s.next
  · simp [live, hq]
  · simp [live, hq]

namespace Inventory

variable {ps : List Ptr} {owned : Set Int} {s s' : Memory}

theorem similar (h : s.Inventory ps owned) (hsim : s.Similar s') : s'.Inventory ps owned where
  held p hp := by
    rw [live_similar hsim] at hp
    exact (h.held p hp).imp_left (hsim.referenced_iff p).mpr
  owners := by
    rw [live_similar hsim]
    exact h.owners.congr fun p _ => (hsim.descriptorOf p).symm
  unprotected p socket hsocket := by
    obtain ⟨socket', hsocket', hid⟩ := hsim.object hsocket
    have hprotect : socket.protectDescriptor = socket'.protectDescriptor :=
      congrArg (·.2.1) hid
    rw [hprotect]
    exact h.unprotected p socket' hsocket'

/-- References may move. -/
theorem move (h : s.Inventory ps owned) {ps' : List Ptr} (hheap : s'.heap = s.heap)
    (hheld : ∀ p, s.Referenced p ∨ p ∈ ps → s'.Referenced p ∨ p ∈ ps') :
    s'.Inventory ps' owned where
  held p hp := by
    have hlive : p ∈ s.live := by
      change s.heap p ≠ none
      rw [← hheap]
      exact hp
    exact hheld p (h.held p hlive)
  owners := by
    have hlive : s'.live = s.live := by
      rw [live, live, hheap]
    rw [hlive]
    exact h.owners.congr fun p _ => (descriptorOf_congr (congrFun hheap p)).symm
  unprotected p socket hsocket := h.unprotected p socket (hheap ▸ hsocket)

/-- A reference is dropped that was not the last one. -/
theorem keep {p : Ptr} (h : s.Inventory (p :: ps) owned)
    (hp : s.Referenced p ∨ s.heap p = none) : s.Inventory ps owned where
  held q hq := by
    rcases h.held q hq with href | hmem
    · exact Or.inl href
    · rcases List.mem_cons.mp hmem with rfl | hmem
      · exact Or.inl (hp.resolve_right hq)
      · exact Or.inr hmem
  owners := h.owners
  unprotected := h.unprotected

/-- An object goes, and its descriptor with it. -/
theorem erase {p : Ptr} (h : s.Inventory (p :: ps) owned) {socket : Socket}
    (hsocket : s.heap p = some socket) :
    (s.erase p).Inventory ps (owned \ {socket.descriptor}) where
  held q hq := by
    rw [live_erase] at hq
    exact (h.held q hq.1).imp_right fun hmem => (List.mem_cons.mp hmem).resolve_left hq.2
  owners := by
    have hlive : p ∈ s.live := by
      simp [live, hsocket]
    rw [live_erase, ← descriptorOf_of_heap hsocket]
    refine (h.owners.sdiff_singleton hlive).congr ?_
    intro q hq
    have hne : q ≠ p := hq.2
    exact (descriptorOf_congr (by simp [hne])).symm
  unprotected q socket' hsocket' := by
    rw [erase_heap] at hsocket'
    split at hsocket'
    · contradiction
    · exact h.unprotected q socket' hsocket'

/-- An object comes with a new descriptor. -/
theorem alloc (h : s.Inventory ps owned) {socket : Socket} (hfresh : s.heap s.next = none)
    (hnew : socket.descriptor ∉ owned) (hprotect : socket.protectDescriptor = false) :
    (s.alloc socket).Inventory (s.next :: ps) (insert socket.descriptor owned) where
  held q hq := by
    rw [live_alloc] at hq
    rcases hq with rfl | hq
    · exact Or.inr List.mem_cons_self
    · exact (h.held q hq).imp_right (List.mem_cons_of_mem _)
  owners := by
    have hdescriptor : (s.alloc socket).descriptorOf s.next = socket.descriptor :=
      descriptorOf_of_heap (by simp)
    have hold : Set.BijOn (s.alloc socket).descriptorOf s.live owned := by
      refine h.owners.congr fun q hq => ?_
      have hne : q ≠ s.next := by
        rintro rfl
        exact hq hfresh
      exact (descriptorOf_congr (by simp [hne])).symm
    rw [live_alloc, ← hdescriptor]
    exact hold.insert (hdescriptor ▸ hnew)
  unprotected q socket' hsocket' := by
    rw [alloc_heap] at hsocket'
    split at hsocket'
    · obtain rfl := Option.some.inj hsocket'
      exact hprotect
    · exact h.unprotected q socket' hsocket'

/-- An object that nothing refers to shares its descriptor with no listed one. -/
theorem unlisted (h : s.Inventory ps owned) {p : Ptr} {socket : Socket}
    (hsocket : s.heap p = some socket) (hp : ¬s.Referenced p) :
    ∀ q ∈ s.socketsList.sockets, s.descriptorOf q ≠ socket.descriptor := by
  intro q hq heq
  cases hother : s.heap q with
  | none =>
      rw [descriptorOf, hother] at heq
      exact socket.descriptor_ne heq.symm
  | some socket' =>
      have hlive : q ∈ s.live := by simp [live, hother]
      have hlive' : p ∈ s.live := by simp [live, hsocket]
      rw [← descriptorOf_of_heap hsocket] at heq
      obtain rfl := h.owners.injOn hlive hlive' heq
      exact hp (Or.inl hq)

theorem mem_owned (h : s.Inventory ps owned) {p : Ptr} {socket : Socket}
    (hsocket : s.heap p = some socket) : socket.descriptor ∈ owned := by
  rw [← descriptorOf_of_heap hsocket]
  exact h.owners.mapsTo (by simp [live, hsocket])

/-- Without references there are no objects, and no descriptor is owned. -/
theorem eq_empty (h : s.Inventory [] owned) (hnone : ∀ p, ¬s.Referenced p) :
    (∀ p, s.heap p = none) ∧ owned = ∅ := by
  have hgone : ∀ p, s.heap p = none := by
    intro p
    by_contra hlive
    rcases h.held p hlive with href | hmem
    · exact hnone p href
    · cases hmem
  have hlive : s.live = ∅ := Set.eq_empty_of_forall_notMem fun p hp => hp (hgone p)
  have howners := h.owners
  rw [hlive, Set.bijOn_empty_iff_right] at howners
  exact ⟨hgone, howners⟩

end Inventory

end Memory

/-! ## Dropping references -/

section Specs

variable {W A : Type} {K : Kernel W Call Reply A}
variable {H : Memory → W → Call → Reply → Prop} {G : Memory → W → Call → Prop}

/-- Closing a descriptor that the process owns and no list holds gives it up. -/
def GivesUp (K : Kernel W Call Reply A) (H : Memory → W → Call → Reply → Prop)
    (G : Memory → W → Call → Prop) (owned : W → Set Int) (J : W → Prop) : Prop :=
  ∀ s w d, J w → d ∈ owned w → (∀ p ∈ s.socketsList.sockets, s.descriptorOf p ≠ d) →
    Sat K H G (Program.ask (.close d)) (fun _ w' _ => J w' ∧ owned w' = owned w \ {d}) s w

variable {owned : W → Set Int} {J : W → Prop} (hgives : GivesUp K H G owned J)
variable {p : Ptr} {ps : List Ptr} {s : Memory} {w : W}
include hgives

/-- Dropping the last reference to an object closes its descriptor. -/
theorem sat_release_inventory (h : s.Inventory (p :: ps) (owned w)) (hJ : J w) :
    Sat K H G (release p) (fun s' w' _ =>
      s.Pruned s' ∧ s'.Inventory ps (owned w') ∧ J w') s w := by
  apply sat_release
  · exact fun hp => ⟨Memory.Pruned.refl s, h.keep hp, hJ⟩
  · intro socket _ hsocket hprotected
    rw [h.unprotected p socket hsocket] at hprotected
    contradiction
  · intro socket href hsocket _
    have herase := h.erase hsocket
    have hunlisted : ∀ q ∈ s.socketsList.sockets,
        (s.erase p).descriptorOf q ≠ socket.descriptor := by
      intro q hq
      have hne : q ≠ p := by
        rintro rfl
        exact href (Or.inl hq)
      rw [Memory.descriptorOf_congr (m := s) (by simp [hne])]
      exact h.unlisted hsocket href q hq
    have hclose := hgives (s.erase p) w socket.descriptor hJ (h.mem_owned hsocket) hunlisted
    apply hclose.ask_mono
    rintro w' _ ⟨hJ', howned⟩
    rw [← howned] at herase
    exact ⟨Memory.pruned_erase href, herase, hJ'⟩

/-- A list has dropped its references. -/
theorem sat_releaseAll_inventory (h : s.Inventory ps (owned w)) (hJ : J w) :
    Sat K H G (Program.forEach ps release) (fun s' w' _ =>
      s.Pruned s' ∧ s'.Inventory [] (owned w') ∧ J w') s w := by
  apply sat_forEach fun ps s' w' => s.Pruned s' ∧ s'.Inventory ps (owned w') ∧ J w'
  · rintro p ps s' w' ⟨hpruned, hinv, hJ⟩
    apply (sat_release_inventory hgives hinv hJ).mono
    rintro s'' w'' _ ⟨hpruned', hpost⟩
    exact ⟨hpruned.trans hpruned', hpost⟩
  · exact ⟨Memory.Pruned.refl s, h, hJ⟩

theorem sat_clearOutput_inventory (h : s.Inventory [] (owned w)) (hJ : J w) :
    Sat K H G clearOutput (fun s' w' _ =>
      Memory.Pruned { s with outputSocketsList := s.outputSocketsList.clear } s' ∧
        s'.Inventory [] (owned w') ∧ J w') s w := by
  rw [clearOutput, sat_bind, sat_get, sat_bind, sat_set]
  apply sat_releaseAll_inventory hgives _ hJ
  refine h.move ?_ ?_
  · rfl
  rintro q ((hlist | houtput | hlocal) | hnone)
  · exact Or.inl (Or.inl hlist)
  · exact Or.inr houtput
  · exact Or.inl (Or.inr (Or.inr hlocal))
  · cases hnone

theorem sat_clearSockets_inventory (h : s.Inventory [] (owned w)) (hJ : J w) :
    Sat K H G clearSockets (fun s' w' _ =>
      Memory.Pruned { s with socketsList := s.socketsList.clear } s' ∧
        s'.Inventory [] (owned w') ∧ J w') s w := by
  rw [clearSockets, sat_bind, sat_get, sat_bind, sat_set]
  apply sat_releaseAll_inventory hgives _ hJ
  refine h.move ?_ ?_
  · rfl
  rintro q ((hlist | houtput | hlocal) | hnone)
  · exact Or.inr hlist
  · exact Or.inl (Or.inr (Or.inl houtput))
  · exact Or.inl (Or.inr (Or.inr hlocal))
  · cases hnone

/-- A removed entry is left to the other references, or its descriptor is closed. -/
theorem sat_delSocket_inventory (h : s.Inventory [] (owned w)) (hJ : J w)
    (hnote : ∀ s before deleted, Sat K H G (note (.delSocket p before deleted))
      (fun s' w' _ => s' = s ∧ w' = w) s w) :
    Sat K H G (delSocket p) (fun s' w' _ =>
      Memory.Pruned { s with socketsList :=
        (SocketsList.delSocket s.descriptorOf s.socketsList (s.descriptorOf p)).1 } s' ∧
        s'.Inventory [] (owned w') ∧ J w') s w := by
  rw [delSocket, sat_bind, sat_get, sat_bind, sat_set]
  refine (hnote _ _ _).seq ?_
  rintro _ _ _ ⟨rfl, rfl⟩
  rw [sat_bind, sat_when]
  cases hdeleted : (SocketsList.delSocket s.descriptorOf s.socketsList (s.descriptorOf p)).2 with
  | false =>
      rw [if_neg (by decide), SocketsList.delSocket_of_eq_false hdeleted]
      exact ⟨Memory.Pruned.refl s, h, hJ⟩
  | true =>
      rw [if_pos rfl]
      obtain ⟨hroom, x, hx, heq⟩ := (SocketsList.delSocket_eq_true_iff _ _ _).mp hdeleted
      cases hfind : s.socketsList.sockets.find? (s.descriptorOf · == s.descriptorOf p) with
      | none =>
          have hnone := List.find?_eq_none.mp hfind x hx
          simp [heq] at hnone
      | some q =>
          have hq : s.descriptorOf q = s.descriptorOf p := by simpa using List.find?_some hfind
          rw [← hq] at hfind
          have hfirst := (SocketsList.delSocket_first hroom hfind).2
          rw [← hq]
          refine sat_release_inventory hgives (h.move ?_ ?_) hJ
          · rfl
          rintro y ((hlist | houtput | hlocal) | hnone)
          · by_cases hyq : y = q
            · exact Or.inr (by simp [hyq])
            · refine Or.inl (Or.inl ?_)
              change y ∈ (SocketsList.delSocket _ _ _).1.sockets
              rw [hfirst]
              exact (List.mem_erase_of_ne hyq).mpr hlist
          · exact Or.inl (Or.inr (Or.inl houtput))
          · exact Or.inl (Or.inr (Or.inr hlocal))
          · cases hnone

end Specs

end SocketDispatcher
