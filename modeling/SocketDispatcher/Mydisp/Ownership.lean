import SocketDispatcher.Files
import SocketDispatcher.Mydisp.Rules

/-!
# Ownership of descriptors

The open descriptors of the dispatcher, against surroundings that number a received
descriptor differently from every open one and send exactly one with each message.
Ownership passes from the received object to the client that is built over it, is
shared by the two lists, and ends when the last list drops its reference.

Main results:

- Theorem {lit}`owns_descriptors`: at every loop head the listed descriptors are
  distinct and open, and every open received descriptor has one owner, which a list
  holds; no descriptor is closed twice or while it is listed; and a successful
  removal removes exactly the given client.

Current gaps:

- Descriptors that OpenSSL opens and closes within one call are not counted.
-/

namespace SocketDispatcher

open Interaction

namespace Mydisp

/-! ## Surroundings -/

/-- The chunk holds no descriptor message: it has no zero byte, or it ends in an
error status. -/
def withoutDescriptor (bytes : List Byte) : Prop :=
  0 ∉ bytes ∨ ∃ b ∈ messageStatus bytes, b ≠ 0

instance (bytes : List Byte) : Decidable (withoutDescriptor bytes) :=
  inferInstanceAs (Decidable (_ ∨ ∃ b ∈ messageStatus bytes, b ≠ 0))

/-- Every call is answered in every way, but a chunk that ends in a descriptor
message comes with a descriptor, numbered differently from the open ones, and no
other chunk does. -/
def files : Kernel Files Call Reply Empty where
  reply w c r :=
    match c with
    | .recvmsg .. =>
        match r.data with
        | some d =>
            if messageStatus r.bytes = some 0 ∧ r.ret = r.bytes.length ∧ 0 ≤ d ∧
                d ∉ w.opened then
              some (w.receive d)
            else none
        | none =>
            if r.ret < 0 ∨ (r.ret = r.bytes.length ∧ withoutDescriptor r.bytes) then some w
            else none
    | .close d => some (w.close d)
    | _ => some w
  act _ a := nomatch a

/-- Ownership of descriptors as the main loop relies on it. -/
def KeepsOwnership (m : Memory) (w : Files) : Call → Prop
  | .note .loopHead =>
      (m.socketsList.sockets.map m.descriptorOf).Nodup ∧
      (∀ p ∈ m.socketsList.sockets, m.descriptorOf p ∈ w.opened) ∧
      ∀ d ∈ w.received, ∃ p,
        (p ∈ m.socketsList.sockets ∨ p ∈ m.outputSocketsList.sockets) ∧
          ∀ q, Owns m q d ↔ q = p
  | .note (.delSocket p before deleted) =>
      deleted = true → p ∈ before ∧ m.socketsList.sockets = before.erase p
  | .close d => d ∈ w.opened ∧ ∀ p ∈ m.socketsList.sockets, m.descriptorOf p ≠ d
  | _ => True

/-! ## The invariant -/

/-- Every object owns an open descriptor of its own, every received descriptor has an
owner, and every object is referenced, except that the references to {lit}`ps` are
about to be dropped. -/
structure Owned (descriptor : Int) (ps : List Ptr) (s : Memory) (w : Files) : Prop where
  shape : Shape descriptor s
  zero : 0 ∈ w.opened
  client : ∀ p, p ≠ unixSocket → s.heap p ≠ none → s.descriptorOf p ≠ 0
  injective : ∀ p q, s.heap p ≠ none → s.heap q ≠ none →
    s.descriptorOf p = s.descriptorOf q → p = q
  opened : ∀ p, s.heap p ≠ none → s.descriptorOf p ∈ w.opened
  owner : ∀ d ∈ w.received, ∃ p, p ≠ unixSocket ∧ s.heap p ≠ none ∧ s.descriptorOf p = d
  held : ∀ p, s.heap p ≠ none → s.Referenced p ∨ p ∈ ps

section Steps

variable {descriptor : Int} {s s' : Memory} {w : Files} {ps : List Ptr} {p : Ptr}

theorem Owned.similar (h : Owned descriptor ps s w) (hsim : s.Similar s') :
    Owned descriptor ps s' w where
  shape := h.shape.similar hsim
  zero := h.zero
  client p hp hlive := by
    rw [hsim.descriptorOf]
    exact h.client p hp ((not_congr (hsim.heap_eq_none_iff p)).mp hlive)
  injective p q hp hq heq := by
    rw [hsim.descriptorOf, hsim.descriptorOf] at heq
    exact h.injective p q ((not_congr (hsim.heap_eq_none_iff p)).mp hp)
      ((not_congr (hsim.heap_eq_none_iff q)).mp hq) heq
  opened p hp := by
    rw [hsim.descriptorOf]
    exact h.opened p ((not_congr (hsim.heap_eq_none_iff p)).mp hp)
  owner d hd := by
    rcases h.owner d hd with ⟨p, hp, hlive, hdescriptor⟩
    exact ⟨p, hp, (not_congr (hsim.heap_eq_none_iff p)).mpr hlive,
      (hsim.descriptorOf p).trans hdescriptor⟩
  held p hp := by
    rw [hsim.referenced_iff]
    exact h.held p ((not_congr (hsim.heap_eq_none_iff p)).mp hp)

/-- An object that will not be protected owns its descriptor. -/
theorem Owned.owns_iff (h : Owned descriptor ps s w) (q : Ptr) (d : Int) :
    Owns s q d ↔ s.heap q ≠ none ∧ s.descriptorOf q = d := by
  constructor
  · rintro ⟨socket, hsocket, rfl, _⟩
    exact ⟨by simp [hsocket], by simp [Memory.descriptorOf, hsocket]⟩
  · rintro ⟨hlive, hdescriptor⟩
    rcases Option.ne_none_iff_exists'.mp hlive with ⟨socket, hsocket⟩
    refine ⟨socket, hsocket, by simpa [Memory.descriptorOf, hsocket] using hdescriptor, ?_⟩
    exact h.shape.unprotected hsocket

/-- The guarantee at the loop head. -/
theorem Owned.loopHead (h : Owned descriptor [] s w) :
    KeepsOwnership s w (.note .loopHead) := by
  have hlisted : ∀ p ∈ s.socketsList.sockets, s.heap p ≠ none :=
    fun p hp => h.shape.live p (Or.inl hp)
  refine ⟨?_, fun p hp => h.opened p (hlisted p hp), ?_⟩
  · apply List.Nodup.map_on _ h.shape.nodup
    intro p hp q hq heq
    exact h.injective p q (hlisted p hp) (hlisted q hq) heq
  · intro d hd
    rcases h.owner d hd with ⟨p, hp, hlive, rfl⟩
    refine ⟨p, ?_, fun q => ?_⟩
    · rcases h.held p hlive with (href | href | href) | hnone
      · exact Or.inl href
      · exact Or.inr href
      · rw [h.shape.locals] at href
        exact absurd (List.mem_singleton.mp href) hp
      · cases hnone
    · rw [h.owns_iff]
      constructor
      · rintro ⟨hq, heq⟩
        exact h.injective q p hq hlive heq
      · rintro rfl
        exact ⟨hlive, rfl⟩

/-- The guarantee when an unreferenced object is destroyed. -/
theorem Owned.closes (h : Owned descriptor ps s w) (hlive : s.heap p ≠ none)
    (href : ¬s.Referenced p) : KeepsOwnership (s.erase p) w (.close (s.descriptorOf p)) := by
  refine ⟨h.opened p hlive, ?_⟩
  intro q hq heq
  have hqp : q ≠ p := fun h => href (Or.inl (h ▸ hq))
  have hsame : (s.erase p).descriptorOf q = s.descriptorOf q := by
    simp [Memory.descriptorOf, hqp]
  rw [hsame] at heq
  exact hqp (h.injective q p (h.shape.live q (Or.inl hq)) hlive heq)

/-- A destroyed object takes its descriptor with it. -/
theorem Owned.erase (h : Owned descriptor (p :: ps) s w) (hlive : s.heap p ≠ none)
    (href : ¬s.Referenced p) :
    Owned descriptor ps (s.erase p) (w.close (s.descriptorOf p)) := by
  have hunix : p ≠ unixSocket := fun heq => href (heq ▸ h.shape.unix_referenced)
  have hold : ∀ q, (s.erase p).heap q ≠ none → q ≠ p ∧ s.heap q ≠ none := by
    intro q hq
    rw [Memory.erase_heap] at hq
    split at hq
    next => exact absurd rfl hq
    next hqp => exact ⟨hqp, hq⟩
  have hdescriptor : ∀ q, q ≠ p → (s.erase p).descriptorOf q = s.descriptorOf q := by
    intro q hq
    simp [Memory.descriptorOf, hq]
  exact
    { shape := h.shape.pruned (Memory.pruned_erase href)
      zero := List.mem_filter.mpr
        ⟨h.zero, by simpa using Ne.symm (h.client p hunix hlive)⟩
      client := by
        intro q hq hqlive
        obtain ⟨hqp, hqlive⟩ := hold q hqlive
        rw [hdescriptor q hqp]
        exact h.client q hq hqlive
      injective := by
        intro q q' hq hq' heq
        obtain ⟨hqp, hq⟩ := hold q hq
        obtain ⟨hqp', hq'⟩ := hold q' hq'
        rw [hdescriptor q hqp, hdescriptor q' hqp'] at heq
        exact h.injective q q' hq hq' heq
      opened := by
        intro q hq
        obtain ⟨hqp, hq⟩ := hold q hq
        rw [hdescriptor q hqp]
        refine List.mem_filter.mpr ⟨h.opened q hq, ?_⟩
        simpa using fun heq => hqp (h.injective q p hq hlive heq)
      owner := by
        intro d hd
        obtain ⟨hd, hne⟩ := List.mem_filter.mp hd
        rcases h.owner d hd with ⟨q, hq, hqlive, rfl⟩
        have hqp : q ≠ p := by
          rintro rfl
          simp at hne
        refine ⟨q, hq, ?_, hdescriptor q hqp⟩
        simpa [hqp] using hqlive
      held := by
        intro q hq
        obtain ⟨hqp, hq⟩ := hold q hq
        rcases h.held q hq with hqref | hmem
        · exact Or.inl hqref
        · exact Or.inr ((List.mem_cons.mp hmem).resolve_left hqp) }

/-- A reference is dropped that was not the last one. -/
theorem Owned.keep (h : Owned descriptor (p :: ps) s w)
    (hp : s.Referenced p ∨ s.heap p = none) : Owned descriptor ps s w :=
  { h with
    held := by
      intro q hq
      rcases h.held q hq with href | hmem
      · exact Or.inl href
      · rcases List.mem_cons.mp hmem with rfl | hmem
        · exact Or.inl (hp.resolve_right hq)
        · exact Or.inr hmem }

/-- Other lists of the same objects. -/
theorem Owned.lists {ps' : List Ptr} {list output : SocketsList Ptr}
    (h : Owned descriptor ps s w)
    (hshape : Shape descriptor
      { s with socketsList := list, outputSocketsList := output })
    (hheld : ∀ q, s.heap q ≠ none →
      (q ∈ list.sockets ∨ q ∈ output.sockets ∨ q ∈ s.locals) ∨ q ∈ ps') :
    Owned descriptor ps' { s with socketsList := list, outputSocketsList := output } w where
  shape := hshape
  zero := h.zero
  client := h.client
  injective := h.injective
  opened := h.opened
  owner := h.owner
  held := hheld

/-- The output list is about to drop its references. -/
theorem Owned.clear (h : Owned descriptor [] s w) :
    Owned descriptor s.outputSocketsList.sockets
      { s with outputSocketsList := s.outputSocketsList.clear } w := by
  apply h.lists h.shape.clearOutput
  intro q hq
  rcases h.held q hq with (href | href | href) | hnone
  · exact Or.inl (Or.inl href)
  · exact Or.inr href
  · exact Or.inl (Or.inr (Or.inr href))
  · cases hnone

/-- Two objects with one descriptor are one object, so a successful removal removes
exactly the given one. -/
theorem Owned.delSocket_eq (h : Owned descriptor ps s w) (hlive : s.heap p ≠ none)
    (hdeleted : (SocketsList.delSocket s.descriptorOf s.socketsList
      (s.descriptorOf p)).2 = true) :
    p ∈ s.socketsList.sockets ∧
      s.socketsList.sockets.find? (s.descriptorOf · == s.descriptorOf p) = some p ∧
      (SocketsList.delSocket s.descriptorOf s.socketsList (s.descriptorOf p)).1.sockets =
        s.socketsList.sockets.erase p := by
  obtain ⟨hroom, q, hq, heq⟩ := (SocketsList.delSocket_eq_true_iff _ _ _).mp hdeleted
  have hqp : q = p := h.injective q p (h.shape.live q (Or.inl hq)) hlive heq
  rw [hqp] at hq
  have hfirst : s.socketsList.sockets.find? (s.descriptorOf · == s.descriptorOf p) = some p := by
    cases hfind : s.socketsList.sockets.find? (s.descriptorOf · == s.descriptorOf p) with
    | none =>
        have hnone := List.find?_eq_none.mp hfind p hq
        simp at hnone
    | some x =>
        have hx := List.mem_of_find?_eq_some hfind
        have hxp : s.descriptorOf x = s.descriptorOf p := by
          simpa using List.find?_some hfind
        rw [h.injective x p (h.shape.live x (Or.inl hx)) hlive hxp]
  exact ⟨hq, hfirst, (SocketsList.delSocket_first hroom hfirst).2⟩

/-- A removed client is still referenced by the output list. -/
theorem Owned.delSocket (h : Owned descriptor [] s w)
    (hp : p ∈ s.outputSocketsList.sockets) :
    Owned descriptor []
      { s with socketsList :=
          (SocketsList.delSocket s.descriptorOf s.socketsList (s.descriptorOf p)).1 } w := by
  apply h.lists (h.shape.delSocket _)
  intro q hq
  left
  have href := (h.held q hq).resolve_right (by simp)
  cases hdeleted : (SocketsList.delSocket s.descriptorOf s.socketsList
      (s.descriptorOf p)).2 with
  | false =>
      rw [SocketsList.delSocket_of_eq_false hdeleted]
      exact href
  | true =>
      have hlive := h.shape.live p (Or.inr (Or.inl hp))
      obtain ⟨_, _, herase⟩ := h.delSocket_eq hlive hdeleted
      by_cases hqp : q = p
      · exact Or.inr (Or.inl (hqp ▸ hp))
      · rcases href with href | href
        · left
          rw [herase]
          exact (List.mem_erase_of_ne hqp).mpr href
        · exact Or.inr href

/-- A successful poll shares listed objects with the output list. -/
theorem Owned.polled (h : Owned descriptor [] s w)
    (hempty : s.outputSocketsList.sockets = []) (revents : List Events) :
    Owned descriptor [] (s.polled revents) w := by
  apply Owned.similar _ (s.similar_polled revents)
  apply h.lists ((h.shape.polled hempty revents).similar (s.similar_polled revents).symm)
  intro q hq
  left
  rcases (h.held q hq).resolve_right (by simp) with href | href | href
  · exact Or.inl href
  · rw [hempty] at href
    cases href
  · exact Or.inr (Or.inr href)

/-- A descriptor that is closed as soon as it has arrived leaves no trace. -/
theorem Owned.receive_close (h : Owned descriptor ps s w) {d : Int} (hd : d ∉ w.opened) :
    (w.receive d).close d = w := by
  have hreceived : d ∉ w.received := by
    intro hmem
    rcases h.owner d hmem with ⟨p, _, hlive, rfl⟩
    exact hd (h.opened p hlive)
  have hself : ∀ l : List Int, d ∉ l → (d :: l).filter (· ≠ d) = l := by
    intro l hl
    rw [List.filter_cons_of_neg (by simp), List.filter_eq_self]
    intro x hx
    simpa using fun heq : x = d => hl (heq ▸ hx)
  simp only [Files.receive, Files.close, hself _ hd, hself _ hreceived]

/-- A client that is turned away leaves nothing behind. -/
theorem Owned.refuse (h : Owned descriptor ps s w) :
    Owned descriptor ps (Mydisp.refuse s) w :=
  { h with shape := h.shape.refuse }

/-- A received descriptor passes to a new client. -/
theorem Owned.join (h : Owned descriptor [] s w) {d : Int} (hpos : 0 < d)
    (hd : d ∉ w.opened) (hroom : s.socketsList.sockets.length < s.socketsList.maxSize) :
    Owned descriptor [] (Mydisp.join s (tcpSocket d hpos)) (w.receive d) := by
  have hnew : (Mydisp.join s (tcpSocket d hpos)).descriptorOf (s.next + 1) = d := by
    simp [Memory.descriptorOf, Mydisp.join, greeted, sslSocket, tcpSocket,
      Socket.pollForWrite, Socket.setClientStatus]
  have hold : ∀ q, q ≠ s.next + 1 →
      (Mydisp.join s (tcpSocket d hpos)).descriptorOf q = s.descriptorOf q := by
    intro q hq
    simp [Memory.descriptorOf, Mydisp.join, hq]
  have hlive : ∀ q, q ≠ s.next + 1 →
      (Mydisp.join s (tcpSocket d hpos)).heap q ≠ none → s.heap q ≠ none := by
    intro q hq hqlive
    simpa [Mydisp.join, hq] using hqlive
  have hother : ∀ q, q ≠ s.next + 1 →
      (Mydisp.join s (tcpSocket d hpos)).heap q ≠ none →
      (Mydisp.join s (tcpSocket d hpos)).descriptorOf q ≠ d := by
    intro q hq hqlive heq
    rw [hold q hq] at heq
    exact hd (heq ▸ h.opened q (hlive q hq hqlive))
  exact
    { shape := h.shape.join
      zero := List.mem_cons_of_mem _ h.zero
      client := by
        intro q hq hqlive
        by_cases hqn : q = s.next + 1
        · rw [hqn, hnew]
          omega
        · rw [hold q hqn]
          exact h.client q hq (hlive q hqn hqlive)
      injective := by
        intro q q' hq hq' heq
        by_cases hqn : q = s.next + 1 <;> by_cases hqn' : q' = s.next + 1
        · rw [hqn, hqn']
        · rw [hqn, hnew] at heq
          exact absurd heq.symm (hother q' hqn' hq')
        · rw [hqn', hnew] at heq
          exact absurd heq (hother q hqn hq)
        · rw [hold q hqn, hold q' hqn'] at heq
          exact h.injective q q' (hlive q hqn hq) (hlive q' hqn' hq') heq
      opened := by
        intro q hq
        by_cases hqn : q = s.next + 1
        · rw [hqn, hnew]
          exact List.mem_cons_self ..
        · rw [hold q hqn]
          exact List.mem_cons_of_mem _ (h.opened q (hlive q hqn hq))
      owner := by
        intro x hx
        rcases List.mem_cons.mp hx with rfl | hx
        · refine ⟨s.next + 1, Nat.ne_of_gt (Nat.lt_succ_of_lt h.shape.unix_lt), ?_, hnew⟩
          simp [Mydisp.join]
        · rcases h.owner x hx with ⟨q, hq, hqlive, rfl⟩
          have hqn : q ≠ s.next + 1 := by
            rintro rfl
            exact hqlive (h.shape.fresh _ (Nat.le_succ _))
          exact ⟨q, hq, by simpa [Mydisp.join, hqn] using hqlive, hold q hqn⟩
      held := by
        intro q hq
        left
        by_cases hqn : q = s.next + 1
        · left
          rw [hqn]
          exact SocketsList.mem_putSocket_self
            ((SocketsList.putSocket_eq_true_iff _ _).mpr hroom)
        · rcases (h.held q (hlive q hqn hq)).resolve_right (by simp) with href | href
          · exact Or.inl (SocketsList.mem_putSocket_of_mem href)
          · exact Or.inr href }

end Steps

/-! ## The functions of the main loop -/

/-- Calls that open and close nothing, and are not restricted. -/
def Neutral : Call → Prop
  | .recvmsg .. | .close _ | .note .loopHead | .note (.delSocket ..) => False
  | _ => True

theorem neutral_quiet (I : Memory → Prop) (w : Files) :
    Quiet files anyReply KeepsOwnership I Neutral (· = w) where
  guarantee s w' c _ hc _ := by
    unfold Neutral at hc
    unfold KeepsOwnership
    split at hc <;> first | contradiction | (split <;> simp_all)
  reply s w' c r w'' _ hc hreply _ hJ := by
    unfold Neutral at hc
    simp only [files] at hreply
    split at hreply
    · cases hc
    · cases hc
    · exact (Option.some.inj hreply).symm.trans hJ
  act _ a _ _ _ := nomatch a

section Cycle

variable {descriptor : Int} {fuel : Nat} {s : Memory} {w : Files} {ps : List Ptr} {p : Ptr}

/-- The entries still to be handled are collected ones. -/
structure OwnedTodo (descriptor : Int) (ps : List Ptr) (s : Memory) (w : Files) : Prop where
  owned : Owned descriptor [] s w
  collected : ∀ p ∈ ps, p ∈ s.outputSocketsList.sockets

/-- Dropping a reference closes a descriptor if it was the last one. -/
theorem owned_release_pruned (h : Owned descriptor (p :: ps) s w) :
    Sat files anyReply KeepsOwnership (release p) (fun s' w' _ =>
      Owned descriptor ps s' w' ∧ s.Pruned s') s w := by
  apply sat_release
  · intro hp
    exact ⟨h.keep hp, Memory.Pruned.refl s⟩
  · intro socket _ hsocket hprotected
    rw [h.shape.unprotected hsocket] at hprotected
    contradiction
  · intro socket href hsocket _
    have hlive : s.heap p ≠ none := by simp [hsocket]
    have hdescriptor : s.descriptorOf p = socket.descriptor := by
      simp [Memory.descriptorOf, hsocket]
    rw [← hdescriptor, sat_ask_closed]
    refine ⟨h.closes hlive href, ?_⟩
    intro r w' hreply _
    obtain rfl : w.close (s.descriptorOf p) = w' := Option.some.inj hreply
    exact ⟨h.erase hlive href, Memory.pruned_erase href⟩

theorem owned_release (h : Owned descriptor (p :: ps) s w) :
    Sat files anyReply KeepsOwnership (release p) (fun s' w' _ =>
      Owned descriptor ps s' w' ∧ s'.outputSocketsList = s.outputSocketsList) s w :=
  (owned_release_pruned h).mono fun _ _ _ hpost => ⟨hpost.1, hpost.2.outputSocketsList⟩

/-- The part of a cycle before the poll. -/
theorem owned_prepare (h : Owned descriptor [] s w) :
    Sat files anyReply KeepsOwnership prepare (fun s w _ =>
      Owned descriptor [] s w ∧ s.outputSocketsList.sockets = []) s w := by
  rw [prepare, sat_bind, sat_note, sat_ask_closed]
  refine ⟨h.loopHead, ?_⟩
  intro r w' hreply _
  obtain rfl : w = w' := Option.some.inj hreply
  rw [sat_bind, sat_modifySocket, sat_bind, clearOutput, sat_bind, sat_get, sat_bind, sat_set]
  have hask := h.similar (s.similar_modifySocket unixSocket Socket.pollForRead_identity)
  refine (sat_forEach (fun ps s w => Owned descriptor ps s w ∧
    s.outputSocketsList.sockets = []) ?_ _ ⟨hask.clear, rfl⟩).mono ?_
  · intro p ps s w hinv
    apply (owned_release hinv.1).mono
    intro s' w' _ hpost
    exact ⟨hpost.1, hpost.2 ▸ hinv.2⟩
  · intro s₂ w _ hinv
    rw [sat_bind, sat_get]
    have hreads : Within (fun s' => s₂.Similar s') Neutral
        (Program.forEach s₂.socketsList.sockets pollClientForRead) := by
      refine within_forEach fun p => within_deref_bind trivial ?_
      intro s' socket _ _
      exact within_when <| within_modify fun s' hs' =>
        hs'.trans (s'.similar_modifySocket p Socket.pollForRead_identity)
    apply (hreads.sat (neutral_quiet _ w) (Memory.Similar.refl s₂) rfl).mono
    rintro s' _ _ ⟨hsim, rfl⟩
    exact ⟨hinv.1.similar hsim, hsim.outputSocketsList ▸ hinv.2⟩

/-- The poll. -/
theorem owned_pollSockets (h : Owned descriptor [] s w)
    (hempty : s.outputSocketsList.sockets = []) :
    Sat files anyReply KeepsOwnership pollSockets (fun s w errorType =>
      match errorType with
      | .NONE => OwnedTodo descriptor s.outputSocketsList.sockets s w
      | _ => Owned descriptor [] s w) s w := by
  have hreset := h.similar s.similar_reset
  apply sat_pollSockets
  · intro _ _ _
    trivial
  · rw [sat_ask_closed]
    refine ⟨trivial, ?_⟩
    intro r w' hreply _
    obtain rfl : w = w' := Option.some.inj hreply
    refine ⟨fun _ _ => hreset, fun _ _ => hreset, fun _ => hreset, fun _ _ => ?_⟩
    exact ⟨h.polled hempty r.revents, fun p hp => hp⟩

/-- What {lit}`createSocket` returns: the empty pointer, and no descriptor has arrived,
or a new object for the descriptor that has just arrived. -/
def Arrived (descriptor : Int) (ps : List Ptr) (s : Memory) (w : Files) (p : Ptr) : Prop :=
  (p = nullptr ∧ OwnedTodo descriptor ps s w) ∨
    ∃ s₀ w₀ d, ∃ hpos : 0 < d, OwnedTodo descriptor ps s₀ w₀ ∧ d ∉ w₀.opened ∧
      s = s₀.alloc (tcpSocket d hpos) ∧ w = w₀.receive d ∧ p = s₀.next

/-- The globals do not own anything. -/
theorem OwnedTodo.cmptr (h : OwnedTodo descriptor ps s w) (cmptr : Option Int) :
    OwnedTodo descriptor ps { s with cmptr := cmptr } w :=
  ⟨h.owned.similar ⟨fun _ => rfl, rfl, rfl, rfl, rfl⟩, h.collected⟩

/-- One chunk: a descriptor arrives and is taken, or none arrives. -/
theorem owned_receive (h : OwnedTodo descriptor ps s w) (fd : Int) (buf : List Byte) :
    Sat files anyReply KeepsOwnership (Program.ask (.recvmsg fd buf MAXLINE)) (fun s w r =>
      (r.ret = 0 → Arrived descriptor ps s w nullptr) ∧
      (r.ret ≠ 0 →
        let s := s.storeControl r.data
        let sc := scan (s.cmptr.getD 0) (memcpy buf r.bytes) r.ret (-1)
        (sc.status < 0 → OwnedTodo descriptor ps s w) ∧
        (sc.status = 0 → Sat files anyReply KeepsOwnership (makeTcpSocket (s.cmptr.getD 0))
          (Arrived descriptor ps) s w) ∧
        (sc.status > 0 → Arrived descriptor ps s w nullptr))) s w := by
  rw [sat_ask_closed]
  refine ⟨trivial, ?_⟩
  intro r w' hreply _
  cases hdata : r.data with
  | some d =>
      simp only [files, hdata] at hreply
      split at hreply
      next hmessage =>
        obtain ⟨hstatus, hret, hnonneg, hfresh⟩ := hmessage
        obtain rfl : w.receive d = w' := Option.some.inj hreply
        have hne : d ≠ 0 := fun hzero => hfresh (hzero ▸ h.owned.zero)
        have hscan : scan d (memcpy buf r.bytes) r.bytes.length (-1) = _ :=
          scan_messageStatus hstatus buf (-1)
        have hzero : r.ret ≠ 0 := by
          intro hzero
          obtain ⟨pre, hbytes, _⟩ := messageStatus_eq_some hstatus
          rw [hret, hbytes, List.length_append] at hzero
          simp at hzero
          omega
        refine ⟨fun h => absurd h hzero, fun _ => ?_⟩
        have hcontrol : (s.storeControl (some d)).cmptr.getD 0 = d := rfl
        simp only [hcontrol]
        rw [hret, hscan]
        refine ⟨fun h => absurd h (Int.lt_irrefl 0), fun _ => ?_,
          fun h => absurd h (Int.lt_irrefl 0)⟩
        have hpos : 0 < d := by omega
        rw [makeTcpSocket, dif_pos hpos, sat_makeShared]
        exact Or.inr ⟨_, w, d, hpos, h.cmptr (some d), hfresh, rfl, rfl, rfl⟩
      next => contradiction
  | none =>
      simp only [files, hdata] at hreply
      split at hreply
      next hmessage =>
        obtain rfl : w = w' := Option.some.inj hreply
        have hstored : s.storeControl none = s := rfl
        simp only [hstored]
        refine ⟨fun _ => Or.inl ⟨rfl, h⟩, fun _ => ⟨fun _ => h, fun hstatus => ?_,
          fun _ => Or.inl ⟨rfl, h⟩⟩⟩
        exfalso
        rcases hmessage with hneg | ⟨hret, hfree | ⟨b, hb, hne⟩⟩
        · rw [scan_of_nonpos (by omega)] at hstatus
          contradiction
        · rw [hret, memcpy, scan_of_zero_not_mem hfree] at hstatus
          contradiction
        · rw [hret, scan_messageStatus hb] at hstatus
          apply hne
          rw [← UInt8.toNat_inj]
          exact Int.ofNat.inj hstatus
      next => contradiction

/-- A call of {lit}`createSocket`. -/
theorem owned_createSocket (h : OwnedTodo descriptor ps s w) :
    Sat files anyReply KeepsOwnership (createSocket unixSocket fuel)
      (Arrived descriptor ps) s w := by
  rw [createSocket, sat_bind]
  refine sat_ask_quiet (neutral_quiet (fun _ => True) w) (by trivial) trivial rfl ?_
  rintro buf w rfl
  have hloop : Sat files anyReply KeepsOwnership
      (createSocketLoop unixSocket fuel buf.bytes (-1)) (Arrived descriptor ps) s w := by
    apply sat_createSocketLoop (OwnedTodo descriptor ps) _ _ _ h
    · intro _ _ _ _ _ _
      trivial
    · intro s w h
      apply sat_allocControl
      · intro _
        simpa using h
      · intro _
        refine sat_ask_quiet (neutral_quiet (fun _ => True) w) (by trivial) trivial rfl ?_
        rintro r _ rfl
        refine ⟨fun _ => ?_, fun content _ => ?_⟩
        · exact Or.inl ⟨rfl, h⟩
        · exact h.cmptr _
    · intro s w socket buf h _
      exact owned_receive h socket.descriptor buf
  refine hloop.seq ?_
  intro s w p hp
  rw [sat_bind, sat_get, sat_bind]
  refine sat_note_quiet (neutral_quiet (fun _ => True) w) (by trivial) trivial rfl ?_
  rintro _ rfl
  exact hp

/-- A message of the listener. -/
theorem owned_dispatcherProcess (h : OwnedTodo descriptor ps s w) :
    Sat files anyReply KeepsOwnership (dispatcherProcess unixSocket fuel)
      (fun s w _ => OwnedTodo descriptor ps s w) s w := by
  have hbackground : Quiet files anyReply KeepsOwnership
      (fun s => OwnedTodo descriptor ps s w) (Background descriptor) (· = w) := by
    apply (neutral_quiet _ w).mono fun _ hI => hI
    apply forall_background
    · apply forall_configuring <;> intros <;> trivial
    · exact fun _ _ _ => trivial
  apply sat_dispatcherProcess_background hbackground
  · intro s socket hI hsocket
    exact hI.owned.shape.descriptor_unix hsocket
  · intro s appCfg h
    exact ⟨h.owned.similar ⟨fun _ => rfl, rfl, rfl, rfl, rfl⟩, h.collected⟩
  · intro s ssl h
    exact ⟨h.owned.similar ⟨fun _ => rfl, rfl, rfl, rfl, rfl⟩, h.collected⟩
  · rintro s w h rfl
    apply (owned_createSocket h).mono
    rintro _ _ p (⟨rfl, h⟩ | ⟨s, w, d, hpos, h, hd, rfl, rfl, rfl⟩)
    · simpa using h
    · have hneutral := neutral_quiet (fun _ => True) (w.receive d)
      rw [if_neg h.owned.shape.next_ne_nullptr]
      apply sat_acceptClient h.owned.shape.toTidy
      · intro _ w₁ hacts
        exact hneutral.guarantee _ w₁ _ trivial trivial (hacts.keeps hneutral.act rfl)
      · intro hroom
        refine sat_note_quiet hneutral (by trivial) trivial rfl ?_
        rintro _ rfl
        exact ⟨h.owned.join hpos hd hroom, h.collected⟩
      · intro _
        refine sat_note_quiet hneutral (by trivial) trivial rfl ?_
        rintro _ rfl
        refine sat_ask_quiet hneutral (by trivial) trivial rfl ?_
        rintro _ _ rfl
        rw [sat_ask_closed]
        refine ⟨⟨List.mem_cons_self .., ?_⟩, ?_⟩
        · intro q hq heq
          have hlive : s.heap q ≠ none := h.owned.shape.live q (Or.inl hq)
          have hdescriptor : s.descriptorOf q = d := heq
          exact hd (hdescriptor ▸ h.owned.opened q hlive)
        · intro r w' hreply _
          obtain rfl : (w.receive d).close d = w' := Option.some.inj hreply
          rw [h.owned.receive_close hd]
          exact ⟨h.owned.refuse, h.collected⟩
  · rintro s _ _ h rfl
    exact h
  · exact h
  · rfl

/-- The removal of a dropped client. -/
theorem owned_delSocket (h : OwnedTodo descriptor ps s w)
    (hp : p ∈ s.outputSocketsList.sockets) :
    Sat files anyReply KeepsOwnership (delSocket p)
      (fun s w _ => OwnedTodo descriptor ps s w) s w := by
  have hlive : s.heap p ≠ none := h.owned.shape.live p (Or.inr (Or.inl hp))
  have hpost : OwnedTodo descriptor ps { s with socketsList :=
      (SocketsList.delSocket s.descriptorOf s.socketsList (s.descriptorOf p)).1 } w :=
    ⟨h.owned.delSocket hp, h.collected⟩
  rw [delSocket, sat_bind, sat_get, sat_bind, sat_set, sat_bind, sat_note,
    sat_ask_closed]
  refine ⟨?_, ?_⟩
  · intro hdeleted
    obtain ⟨hmem, _, herase⟩ := h.owned.delSocket_eq hlive hdeleted
    exact ⟨hmem, herase⟩
  · intro r w' hreply _
    obtain rfl : w = w' := Option.some.inj hreply
    rw [sat_bind, sat_when]
    split
    next hdeleted =>
      obtain ⟨_, hfirst, _⟩ := h.owned.delSocket_eq hlive hdeleted
      rw [hfirst]
      exact sat_release_referenced (Or.inr (Or.inl hp)) hpost
    next => exact hpost

/-- A conversation, and the removal of the client if it is dropped. -/
theorem owned_processClient (h : OwnedTodo descriptor (p :: ps) s w) (hp : p ≠ unixSocket) :
    Sat files anyReply KeepsOwnership (processClient p)
      (fun s w ok => if ok then OwnedTodo descriptor ps s w
        else Sat files anyReply KeepsOwnership (note (.clientDropped p))
          (fun s w _ => Sat files anyReply KeepsOwnership (delSocket p)
            (fun s w _ => OwnedTodo descriptor ps s w) s w) s w)
      s w := by
  have hquiet : Quiet files anyReply KeepsOwnership
      (fun s' => s.Similar s' ∧ s'.appCfg = s.appCfg) (Conversation p) (· = w) := by
    apply (neutral_quiet _ w).mono fun _ hI => hI
    intro c hc
    cases c <;> trivial
  have hwithin := h.owned.shape.within_processClient hp
  apply (hwithin.sat hquiet ⟨Memory.Similar.refl s, rfl⟩ rfl).mono
  rintro s' w ok ⟨⟨hsim, -⟩, rfl⟩
  have hcollected : ∀ q ∈ p :: ps, q ∈ s'.outputSocketsList.sockets :=
    hsim.outputSocketsList ▸ h.collected
  have htail : OwnedTodo descriptor ps s' w :=
    ⟨h.owned.similar hsim, fun q hq => hcollected q (List.mem_cons_of_mem p hq)⟩
  cases ok with
  | true => exact htail
  | false =>
      refine sat_note_quiet (neutral_quiet (fun _ => True) w) (by trivial) trivial rfl ?_
      rintro _ rfl
      exact owned_delSocket htail (hcollected p (List.mem_cons_self ..))

end Cycle

/-! ## The main loop -/

/-- The dispatcher enters its loop owning the descriptor of its UNIX socket. -/
theorem owned_of_started {descriptor : Nat} {w : Files} (hzero : 0 ∈ w.opened)
    (hopened : (descriptor : Int) ∈ w.opened) (hreceived : w.received = []) :
    Owned descriptor [] (started descriptor) w := by
  have hunix : ∀ p, (started descriptor).heap p ≠ none → p = unixSocket := by
    intro p hp
    by_contra hne
    exact hp (by simp [started, hne])
  exact
    { shape := shape_started descriptor
      zero := hzero
      client := fun p hp hlive => absurd (hunix p hlive) hp
      injective := fun p q hp hq _ => (hunix p hp).trans (hunix q hq).symm
      opened := by
        intro p hp
        rw [hunix p hp, (shape_started descriptor).descriptorOf_unix]
        exact hopened
      owner := fun d hd => by simp [hreceived] at hd
      held := by
        intro p hp
        left
        rw [hunix p hp]
        exact (shape_started descriptor).unix_referenced }

theorem owned_started (descriptor : Nat) (others : List Int) :
    Owned descriptor [] (started descriptor) ⟨0 :: (descriptor : Int) :: others, []⟩ :=
  owned_of_started (List.mem_cons_self ..) (by simp) rfl

/-- In every run of the main loop, at every loop head the listed descriptors are
distinct and open, and every open received descriptor has exactly one owner, which
a list holds; no descriptor is closed twice or while it is listed; and every
successful removal removes exactly the given client. -/
theorem owns_descriptors (descriptor fuel cycles : Nat) (others : List Int) :
    Safe files anyReply KeepsOwnership
      ⟨started descriptor, ⟨0 :: (descriptor : Int) :: others, []⟩,
        mainLoop unixSocket fuel cycles⟩ := by
  apply Sat.safe
  have hend : ∀ s w, Owned descriptor [] s w →
      Sat files anyReply KeepsOwnership (note .loopEnd)
        (fun s w _ => Owned descriptor [] s w) s w := by
    intro s w h
    refine sat_note_quiet (neutral_quiet (fun _ => True) w) (by trivial) trivial rfl ?_
    rintro _ rfl
    exact h
  apply sat_mainLoop (Owned descriptor [])
    (fun s w => Owned descriptor [] s w ∧ s.outputSocketsList.sockets = [])
    (Owned descriptor []) (Owned descriptor []) (OwnedTodo descriptor)
  · intro s w h
    exact owned_prepare h
  · intro s w h
    apply (owned_pollSockets h.1 h.2).mono
    intro s w errorType h
    cases errorType <;> exact h
  · intro p ps s w h
    have hlive : s.heap p ≠ none :=
      h.owned.shape.live p (Or.inr (Or.inl (h.collected p (List.mem_cons_self ..))))
    apply sat_processReEvents h.owned.shape hlive
    · intro _
      have htail : OwnedTodo descriptor ps s w :=
        ⟨h.owned, fun q hq => h.collected q (List.mem_cons_of_mem p hq)⟩
      apply (owned_dispatcherProcess htail).mono
      intro s w ok h
      refine sat_note_quiet (neutral_quiet (fun _ => True) w) (by trivial) trivial rfl ?_
      rintro _ rfl
      cases ok with
      | true => exact h
      | false => exact h.owned
    · intro hp
      exact owned_processClient h hp
  · exact fun s w h => h.owned
  · exact hend
  · intro s w h
    exact (hend s w h).mono fun _ _ _ _ => trivial
  · exact owned_started descriptor others

end Mydisp

end SocketDispatcher
