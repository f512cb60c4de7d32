import SocketDispatcher.Inventory
import SocketDispatcher.Mylsnr.Rules

/-!
# The holdings of the listener

What the listener obtains from the system and what it gives back: descriptors, of listening
sockets and of accepted connections, and the file of its UNIX socket.

Main results:

- Theorem {lit}`holdings_givesUp`: closing an owned descriptor gives it up.
- Theorem {lit}`accounted_processClientConnection` and theorem
  {lit}`accounted_processDispatcherConnection`: what becomes of an accepted descriptor.
- Theorem {lit}`accounted_mainLoop`: the accounts hold when the main loop has been left.
-/

namespace SocketDispatcher

open Interaction

namespace Mylsnr

/-! ## Surroundings -/

/-- What the listener has of the system: the open descriptors, those of them that it has obtained,
those of these whose handshake failed, and the socket files. -/
structure Holdings where
  opened : List Int
  obtained : List Int := []
  failed : List Int := []
  paths : List (List Byte)
  /-- The last {lit}`unlink` has failed. -/
  stuck : Bool := false

namespace Holdings

/-- A new descriptor. -/
def obtain (w : Holdings) (d : Int) : Holdings :=
  { w with opened := d :: w.opened, obtained := d :: w.obtained }

/-- The handshake on a descriptor fails. -/
def lose (w : Holdings) (d : Int) : Holdings :=
  { w with failed := d :: w.failed }

def close (w : Holdings) (d : Int) : Holdings :=
  { w with
    opened := w.opened.filter (· ≠ d)
    obtained := w.obtained.filter (· ≠ d) }

/-- The descriptors that an object is to close. -/
def owned (w : Holdings) : Set Int :=
  {d | d ∈ w.obtained ∧ d ∉ w.failed}

/-- What was obtained is open. -/
structure Registered (w : Holdings) : Prop where
  opened : ∀ d ∈ w.obtained, d ∈ w.opened
  failed : ∀ d ∈ w.failed, d ∈ w.obtained

/-- A call that gives out a descriptor numbers it differently from every open one. -/
def give (w : Holdings) (ret : Int) : Option Holdings :=
  if ret < 0 then some w
  else if ret ∈ w.opened then none
  else some (w.obtain ret)

/-- There is no such file, or the last attempt to remove a file has failed. -/
def Removed (w : Holdings) (path : List Byte) : Prop :=
  path ∈ w.paths → w.stuck = true

/-- The address names no file that could have been removed. -/
def Free (w : Holdings) : SocketAddress → Prop
  | .inet _ => True
  | .unix path => w.Removed path

/-- A file is removed, unless the call fails. -/
def unlink (w : Holdings) (path : List Byte) (ret : Int) : Holdings :=
  if ret < 0 then { w with stuck := true }
  else { w with paths := w.paths.filter (· ≠ path), stuck := false }

end Holdings

/-- Every call is answered in every way, but new descriptors are new, {lit}`bind` creates a socket
file and refuses an existing one, and an {lit}`unlink` that succeeds removes it. -/
def holdings : Kernel Holdings Call Reply Empty where
  reply w c r :=
    match c with
    | .socket _ => w.give r.ret
    | .accept _ => w.give r.ret
    | .sslAccept d => if r.ret ≤ 0 then some (w.lose d) else some w
    | .close d => some (w.close d)
    | .unlink path => some (w.unlink path r.ret)
    | .bind _ (.unix path) =>
        if r.ret < 0 then some w
        else if path ∈ w.paths then none
        else some { w with paths := path :: w.paths }
    | _ => some w
  act _ a := nomatch a

/-- Every close is of an obtained descriptor that has not failed and that no list holds, and no
socket is bound to an existing path, unless the removal of that has failed. -/
def ClosesOwn (m : Memory) (w : Holdings) : Call → Prop
  | .close d => d ∈ w.owned ∧ ∀ p ∈ m.socketsList.sockets, m.descriptorOf p ≠ d
  | .bind _ address => w.Free address
  | _ => True

/-- The calls that neither obtain nor give back anything. -/
def Incidental : Call → Prop
  | .socket _ | .accept _ | .sslAccept _ | .close _ | .unlink _ | .bind .. => False
  | _ => True

theorem incidental_of_forking : ∀ c, Forking c → Incidental c := by
  apply forall_forking <;> trivial

theorem incidental_of_sending : ∀ c, Sending c → Incidental c := by
  apply forall_sending <;> intros <;> trivial

theorem incidental_of_greeting : ∀ c, Greeting c → Incidental c := by
  apply forall_greeting <;> intros <;> trivial

theorem incidental_of_plain : ∀ c, Plain c → Incidental c := by
  apply forall_plain <;> intros <;> trivial

theorem incidental_quiet (I : Memory → Prop) (J : Holdings → Prop) :
    Quiet holdings anyReply ClosesOwn I Incidental J where
  guarantee s _ c _ hc _ := by
    cases c with
    | close => exact hc.elim
    | bind => exact hc.elim
    | _ => trivial
  reply s w₁ c r w' _ hc hreply _ hJ := by
    have hw' : w₁ = w' := by
      cases c with
      | socket => exact hc.elim
      | accept => exact hc.elim
      | sslAccept => exact hc.elim
      | close => exact hc.elim
      | unlink => exact hc.elim
      | bind => exact hc.elim
      | _ => exact Option.some.inj hreply
    exact hw' ▸ hJ
  act _ a _ _ _ := nomatch a

namespace Holdings

variable {w : Holdings} {d : Int}

theorem give_eq_some {w' : Holdings} (h : w.give d = some w') :
    (d < 0 → w' = w) ∧ (0 ≤ d → d ∉ w.opened ∧ w' = w.obtain d) := by
  by_cases hneg : d < 0
  · rw [give, if_pos hneg] at h
    exact ⟨fun _ => (Option.some.inj h).symm, fun hnonneg => absurd hneg (Int.not_lt.mpr hnonneg)⟩
  · rw [give, if_neg hneg] at h
    split at h
    · contradiction
    next hnew => exact ⟨fun hlt => absurd hlt hneg, fun _ => ⟨hnew, (Option.some.inj h).symm⟩⟩

namespace Registered

variable (h : w.Registered)
include h

theorem obtain (d : Int) : (w.obtain d).Registered where
  opened x hx := by
    rcases List.mem_cons.mp hx with rfl | hx
    · exact List.mem_cons_self
    · exact List.mem_cons_of_mem d (h.opened x hx)
  failed x hx := List.mem_cons_of_mem d (h.failed x hx)

theorem lose (hd : d ∈ w.obtained) : (w.lose d).Registered where
  opened := h.opened
  failed x hx := by
    rcases List.mem_cons.mp hx with rfl | hx
    · exact hd
    · exact h.failed x hx

theorem close (hd : d ∉ w.failed) : (w.close d).Registered where
  opened x hx := by
    obtain ⟨hx, hne⟩ := List.mem_filter.mp hx
    exact List.mem_filter.mpr ⟨h.opened x hx, hne⟩
  failed x hx := by
    refine List.mem_filter.mpr ⟨h.failed x hx, ?_⟩
    have hne : x ≠ d := by
      rintro rfl
      exact hd hx
    simpa using hne

/-- A new descriptor has not failed. -/
theorem not_mem_failed (hd : d ∉ w.opened) : d ∉ w.failed :=
  fun hfailed => hd (h.opened d (h.failed d hfailed))

theorem not_mem_owned (hd : d ∉ w.opened) : d ∉ w.owned :=
  fun howned => hd (h.opened d howned.1)

theorem owned_obtain (hd : d ∉ w.opened) : (w.obtain d).owned = insert d w.owned := by
  have hfailed := h.not_mem_failed hd
  ext x
  simp only [owned, Holdings.obtain, List.mem_cons, Set.mem_ofPred_eq, Set.mem_insert_iff]
  constructor
  · rintro ⟨rfl | hx, hne⟩
    · exact Or.inl rfl
    · exact Or.inr ⟨hx, hne⟩
  · rintro (rfl | ⟨hx, hne⟩)
    · exact ⟨Or.inl rfl, hfailed⟩
    · exact ⟨Or.inr hx, hne⟩

/-- A descriptor whose handshake fails is owned by nobody. -/
theorem owned_lose (hd : d ∉ w.opened) : ((w.obtain d).lose d).owned = w.owned := by
  ext x
  simp only [owned, Holdings.obtain, Holdings.lose, List.mem_cons, Set.mem_ofPred_eq, not_or]
  constructor
  · rintro ⟨rfl | hx, hne, hfailed⟩
    · exact absurd rfl hne
    · exact ⟨hx, hfailed⟩
  · rintro ⟨hx, hfailed⟩
    refine ⟨Or.inr hx, ?_, hfailed⟩
    rintro rfl
    exact hd (h.opened x hx)

/-- A new descriptor that is closed again leaves no trace. -/
theorem close_obtain (hd : d ∉ w.opened) : (w.obtain d).close d = w := by
  have hobtained : d ∉ w.obtained := fun hmem => hd (h.opened d hmem)
  have hfilter : ∀ ds : List Int, d ∉ ds → (d :: ds).filter (· ≠ d) = ds := by
    intro ds hds
    rw [List.filter_cons_of_neg (by simp), List.filter_eq_self]
    intro x hx
    have hne : x ≠ d := by
      rintro rfl
      exact hds hx
    simpa using hne
  rw [Holdings.close, Holdings.obtain]
  dsimp only
  rw [hfilter _ hd, hfilter _ hobtained]

end Registered

/-- A closed descriptor is no longer owned. -/
theorem owned_close (w : Holdings) (d : Int) : (w.close d).owned = w.owned \ {d} := by
  ext x
  simp only [owned, close, List.mem_filter, decide_eq_true_eq, Set.mem_ofPred_eq, Set.mem_sdiff,
    Set.mem_singleton_iff]
  tauto

end Holdings

/-- After an attempt to remove it, a file is gone unless the attempt failed. -/
theorem Holdings.removed_unlink (w : Holdings) (path : List Byte) (ret : Int) :
    (w.unlink path ret).Removed path := by
  unfold unlink
  split
  · exact fun _ => rfl
  · intro hmem
    simp at hmem

theorem Holdings.unlink_eq (w : Holdings) (path : List Byte) (ret : Int) :
    ∃ paths stuck, w.unlink path ret = { w with paths := paths, stuck := stuck } := by
  unfold unlink
  split
  · exact ⟨_, _, rfl⟩
  · exact ⟨_, _, rfl⟩

/-- Closing a descriptor gives it up, and leaves the socket files alone. -/
theorem holdings_givesUp (P : List (List Byte) → Bool → Prop) :
    GivesUp holdings anyReply ClosesOwn Holdings.owned
      fun w => w.Registered ∧ P w.paths w.stuck := by
  rintro s w d ⟨hregistered, hpaths⟩ howned hunlisted
  rw [sat_ask_closed]
  refine ⟨⟨howned, hunlisted⟩, fun r w' hreply _ => ?_⟩
  obtain rfl := Option.some.inj hreply
  exact ⟨⟨hregistered.close howned.2, hpaths⟩, w.owned_close d⟩

/-! ## The main loop -/

/-- Between two operations of the main loop every object owns a descriptor of its own, and no
descriptor is without an owner but the failed ones. -/
structure Accounted (tcp unix : Int) (s : Memory) (w : Holdings) : Prop where
  shape : Shape tcp unix s
  inventory : s.Inventory [] w.owned
  registered : w.Registered

section Loop

variable {tcp unix : Int} {s s' : Memory} {w : Holdings}

theorem Accounted.similar (h : Accounted tcp unix s w) (hsim : s.Similar s') :
    Accounted tcp unix s' w :=
  ⟨h.shape.similar hsim, h.inventory.similar hsim, h.registered⟩

theorem Accounted.polled (h : Accounted tcp unix s w) (hempty : s.outputSocketsList.sockets = [])
    (revents : List Events) : Accounted tcp unix (s.polled revents) w := by
  have hsimilar := s.similar_polled revents
  refine ⟨h.shape.polled hempty revents, Memory.Inventory.similar ?_ hsimilar, h.registered⟩
  refine h.inventory.move ?_ ?_
  · rfl
  rintro p ((hlist | houtput | hlocal) | hnone)
  · exact Or.inl (Or.inl hlist)
  · rw [hempty] at houtput
    cases houtput
  · exact Or.inl (Or.inr (Or.inr hlocal))
  · cases hnone

theorem accounted_prepare (h : Accounted tcp unix s w) :
    Sat holdings anyReply ClosesOwn prepare (fun s' w' _ =>
      Accounted tcp unix s' w' ∧ s'.outputSocketsList.sockets = []) s w := by
  rw [prepare, sat_bind]
  refine sat_note_quiet (incidental_quiet (fun _ => True) (· = w)) (by trivial) trivial rfl ?_
  rintro _ rfl
  rw [sat_bind]
  apply (sat_clearOutput_inventory (holdings_givesUp fun _ _ => True) h.inventory
    ⟨h.registered, trivial⟩).mono
  rintro s₂ w _ ⟨hpruned, hinventory, hregistered, -⟩
  have hshape := h.shape.clearOutput.pruned hpruned
  rw [sat_bind, sat_get]
  apply (sat_pollForReads fun p hp => hshape.live p (Or.inl hp)).mono
  rintro s' _ _ ⟨hasks, rfl⟩
  refine ⟨Accounted.similar ⟨hshape, hinventory, hregistered⟩ hasks.similar, ?_⟩
  rw [hasks.similar.outputSocketsList, hpruned.outputSocketsList]
  rfl

theorem accounted_delSocket (h : Accounted tcp unix s w) (p : Ptr) :
    Sat holdings anyReply ClosesOwn (delSocket p) (fun s' w' _ =>
      Accounted tcp unix s' w' ∧ s'.outputSocketsList = s.outputSocketsList) s w := by
  apply (sat_delSocket_inventory (holdings_givesUp fun _ _ => True) h.inventory
    ⟨h.registered, trivial⟩ _).mono
  · rintro s' w' _ ⟨hpruned, hinventory, hregistered, -⟩
    refine ⟨⟨(h.shape.delSocket _).pruned hpruned, hinventory, hregistered⟩, ?_⟩
    exact hpruned.outputSocketsList
  · intro s₁ before deleted
    refine sat_note_quiet (incidental_quiet (fun _ => True) (· = w)) (by trivial) trivial rfl ?_
    rintro _ rfl
    exact ⟨rfl, rfl⟩

/-- A socket that has been obtained just now is not in the list. -/
theorem Accounted.unlisted (h : Accounted tcp unix s w) {d : Int} (hd : d ∉ w.opened) :
    ∀ p ∈ s.socketsList.sockets, s.descriptorOf p ≠ d := by
  rintro p hp rfl
  have howned := h.inventory.owners.mapsTo (h.shape.live p (Or.inl hp))
  exact h.registered.not_mem_owned hd howned

/-- The memory of {lit}`attend` has the same objects. -/
theorem Accounted.attend (h : Accounted tcp unix s w) (content : Option Int) :
    Accounted tcp unix (attend s content) w := by
  refine ⟨h.shape.attend content, h.inventory.move ?_ ?_, h.registered⟩
  · rfl
  · exact fun p hp => hp

/-- A client is closed when it has been sent, unless its handshake fails. -/
theorem accounted_processClientConnection (h : Accounted tcp unix s w) :
    Sat holdings anyReply ClosesOwn (processClientConnection tcpListenerSocket)
      (fun s' w' _ => Accounted tcp unix s' w' ∧ s'.outputSocketsList = s.outputSocketsList)
      s w := by
  apply sat_processClientConnection h.shape
  rw [sat_ask_closed]
  refine ⟨trivial, fun newfd w₁ hreply _ => ?_⟩
  obtain ⟨hneg, hnonneg⟩ := Holdings.give_eq_some hreply
  refine ⟨fun hlt => ?_, fun hd => ?_⟩
  · rw [hneg hlt]
    exact ⟨h, rfl⟩
  obtain ⟨hnew, rfl⟩ := hnonneg hd
  have hregistered := h.registered.obtain newfd.ret
  rw [sat_ask_closed]
  refine ⟨trivial, fun r w₂ hreply _ => ?_⟩
  simp only [holdings] at hreply
  refine ⟨fun hle => ?_, fun hpos => ?_⟩
  · rw [if_pos hle] at hreply
    obtain rfl := Option.some.inj hreply
    have hinventory := h.inventory
    rw [← h.registered.owned_lose hnew] at hinventory
    exact ⟨⟨h.shape, hinventory, hregistered.lose List.mem_cons_self⟩, rfl⟩
  · rw [if_neg (Int.not_le.mpr hpos)] at hreply
    obtain rfl := Option.some.inj hreply
    let client := s.alloc (connection newfd.ret hd .SSL)
    have hsend := within_sendToDispatchers client s.next s.socketsList.sockets
    have hquiet := incidental_quiet (fun s' => ∃ content,
      s' = { client with sendCmptr := content }) (· = w.obtain newfd.ret)
    apply (hsend.sat (hquiet.mono (fun _ hI => hI) incidental_of_sending)
      ⟨client.sendCmptr, rfl⟩ rfl).mono
    rintro s' _ _ ⟨⟨content, rfl⟩, rfl⟩
    refine ⟨content, rfl, ?_⟩
    rw [sat_ask_closed]
    have howned : newfd.ret ∈ (w.obtain newfd.ret).owned := by
      rw [h.registered.owned_obtain hnew]
      exact Set.mem_insert _ _
    refine ⟨⟨howned, h.unlisted hnew⟩, fun r w₃ hreply _ => ?_⟩
    obtain rfl := Option.some.inj hreply
    rw [h.registered.close_obtain hnew]
    exact ⟨h.attend content, rfl⟩

/-- A dispatcher has its descriptor until the local pointer goes, and keeps it if it has joined
the list. -/
theorem accounted_processDispatcherConnection (h : Accounted tcp unix s w) :
    Sat holdings anyReply ClosesOwn (processDispatcherConnection unixListenerSocket)
      (fun s' w' _ => Accounted tcp unix s' w' ∧ s'.outputSocketsList = s.outputSocketsList)
      s w := by
  apply sat_processDispatcherConnection h.shape fun m w' =>
    m.Inventory [s.next] w'.owned ∧ w'.Registered
  · exact fun m => (incidental_quiet _ _).mono (fun _ hI => hI) incidental_of_greeting
  · rw [sat_ask_closed]
    refine ⟨trivial, fun newfd w₁ hreply _ => ?_⟩
    obtain ⟨hneg, hnonneg⟩ := Holdings.give_eq_some hreply
    refine ⟨fun hlt => ?_, fun hd => ?_⟩
    · rw [hneg hlt]
      exact ⟨h, rfl⟩
    obtain ⟨hnew, rfl⟩ := hnonneg hd
    have hunowned : (connection newfd.ret hd .UNIX).descriptor ∉ w.owned :=
      h.registered.not_mem_owned hnew
    have halloc := h.inventory.alloc (h.shape.fresh s.next (Nat.le_refl _)) hunowned rfl
    rw [h.registered.owned_obtain hnew]
    refine ⟨halloc.move ?_ ?_, h.registered.obtain newfd.ret⟩
    · rfl
    rintro p ((hlist | href) | hp)
    · exact Or.inl (Or.inl (SocketsList.mem_putSocket_of_mem hlist))
    · exact Or.inl (Or.inr href)
    · exact Or.inr hp
  · rintro d hd w' sent hroom ⟨hinventory, hregistered⟩
    refine ⟨⟨h.shape.connect hd, hinventory.keep (Or.inl (Or.inl ?_)), hregistered⟩, rfl⟩
    apply SocketsList.mem_putSocket_self
    rw [SocketsList.putSocket_eq_true_iff, h.shape.maxSize]
    exact hroom
  · rintro d hd w' sent hfull ⟨hinventory, hregistered⟩
    rw [h.shape.connect_of_full hd hfull] at hinventory
    have hobject : (s.alloc (connection d hd .UNIX)).heap s.next =
        some (connection d hd .UNIX) := by
      simp
    have hgone : ¬(s.alloc (connection d hd .UNIX)).Referenced s.next :=
      h.shape.not_referenced (Nat.le_refl _)
    have hmemory : (s.alloc (connection d hd .UNIX)).erase s.next = attend s s.sendCmptr :=
      h.shape.erase_alloc (connection d hd .UNIX) s.sendCmptr
    have hclosed := hinventory.erase hobject
    have hunlisted := hinventory.unlisted hobject hgone
    rw [hmemory] at hclosed
    apply ((holdings_givesUp fun _ _ => True) _ _ _ ⟨hregistered, trivial⟩
      (hinventory.mem_owned hobject) _).ask_mono
    · rintro w'' _ ⟨⟨hregistered', -⟩, howned⟩
      rw [← howned] at hclosed
      exact ⟨⟨h.shape.attend _, hclosed, hregistered'⟩, rfl⟩
    · intro p hp
      have hne : p ≠ s.next := by
        rintro rfl
        exact hgone (Or.inl hp)
      rw [Memory.descriptorOf_congr (m := s.alloc (connection d hd .UNIX))
        (by simp [Mylsnr.attend, hne])]
      exact hunlisted p hp

theorem accounted_mainLoop (iterations : Nat) (h : Accounted tcp unix s w) :
    Sat holdings anyReply ClosesOwn (mainLoop iterations)
      (fun s' w' _ => Accounted tcp unix s' w') s w := by
  apply sat_mainLoop_plain (Accounted tcp unix)
  · exact fun s w h => h.shape
  · exact fun s => (incidental_quiet _ _).mono (fun _ hI => hI) incidental_of_plain
  · exact fun s s' w hsim h => h.similar hsim
  · exact fun s w revents hempty h => h.polled hempty revents
  · exact fun s w h => accounted_prepare h
  · exact fun p s w h => accounted_delSocket h p
  · exact fun s w h => accounted_processClientConnection h
  · exact fun s w h => accounted_processDispatcherConnection h
  · intro s w h
    have hquiet := (incidental_quiet (· = s) (· = w)).mono (fun _ hI => hI) incidental_of_forking
    apply (within_restartDispatcher.sat hquiet rfl rfl).mono
    rintro _ _ _ ⟨rfl, rfl⟩
    exact h
  · exact h

end Loop

end Mylsnr

end SocketDispatcher
