import SocketDispatcher.Files
import SocketDispatcher.Mylsnr.Rules

/-!
# Accepted descriptors

Who closes a descriptor that the listener has accepted.  It belongs to no object until
{lit}`acceptConnection` returns, and is then handed from one reference to the next:
the local pointer, the sockets list, the output list.

Main results:

- Theorem {lit}`owned_delSocket` and theorem {lit}`owned_clearOutput`: dropping a
  reference closes the descriptor or leaves it to a list.
- Theorem {lit}`owns_accepted`: as long as every handshake succeeds, every accepted
  descriptor that is open has an owner in one of the lists at every loop head.
- Theorem {lit}`leaked_descriptor`: a failed handshake leaves its descriptor open for
  ever.
-/

namespace SocketDispatcher

open Interaction

namespace Mylsnr

/-! ## Surroundings -/

/-- Every call is answered in every way, but an accepted descriptor is numbered
differently from the open ones. -/
def acceptedFiles : Kernel Files Call Reply Empty where
  reply w c r :=
    match c with
    | .accept _ =>
        if r.ret < 0 then some w
        else if r.ret ∈ w.opened then none
        else some (w.receive r.ret)
    | .close d => some (w.close d)
    | _ => some w
  act _ a := nomatch a

/-- At the loop head every accepted descriptor that is open has an owner in one of the
lists. -/
def OwnsAccepted (m : Memory) (w : Files) : Call → Prop
  | .note .loopHead => ∀ d ∈ w.received, ∃ p,
      (p ∈ m.socketsList.sockets ∨ p ∈ m.outputSocketsList.sockets) ∧ Owns m p d
  | _ => True

/-- Handshakes succeed. -/
def HandshakeSucceeds (_ : Memory) (_ : Files) : Call → Reply → Prop
  | .sslAccept _, r => 0 < r.ret
  | _, _ => True

/-- The calls that leave the open descriptors alone. -/
def Elsewhere : Call → Prop
  | .accept _ | .close _ | .note .loopHead => False
  | _ => True

theorem elsewhere_of_forking : ∀ c, Forking c → Elsewhere c := by
  apply forall_forking <;> trivial

theorem elsewhere_of_sending : ∀ c, Sending c → Elsewhere c := by
  apply forall_sending <;> intros <;> trivial

theorem elsewhere_of_greeting : ∀ c, Greeting c → Elsewhere c := by
  apply forall_greeting <;> intros <;> trivial

theorem elsewhere_of_calm : ∀ c, Calm c → Elsewhere c := by
  apply forall_calm <;> intros <;> trivial

/-- What {lit}`accept` does to the open descriptors. -/
theorem accept_eq_some {w w' : Files} {fd : Int} {r : Reply}
    (h : acceptedFiles.reply w (.accept fd) r = some w') :
    (r.ret < 0 → w' = w) ∧ (0 ≤ r.ret → w' = w.receive r.ret) := by
  by_cases hneg : r.ret < 0
  · simp only [acceptedFiles, if_pos hneg, Option.some.injEq] at h
    exact ⟨fun _ => h.symm, fun hd => absurd hneg (by omega)⟩
  · simp only [acceptedFiles, if_neg hneg] at h
    split at h
    · contradiction
    · exact ⟨fun hlt => absurd hlt hneg, fun _ => (Option.some.inj h).symm⟩

theorem elsewhere_quiet (I : Memory → Prop) (J : Files → Prop) :
    Quiet acceptedFiles HandshakeSucceeds OwnsAccepted I Elsewhere J where
  guarantee s w c _ hc _ := by
    fun_cases OwnsAccepted s w c <;> trivial
  reply s w₁ c r w' _ hc hreply _ hJ := by
    have hw' : w₁ = w' := by
      cases c with
      | accept => exact hc.elim
      | close => exact hc.elim
      | _ => exact Option.some.inj hreply
    exact hw' ▸ hJ
  act _ a _ _ _ := nomatch a

/-! ## The invariant -/

/-- Every accepted descriptor that is open belongs to a connection that a list holds,
or to one of {lit}`ps`, whose references are about to be dropped. -/
structure Owned (tcp unix : Int) (ps : List Ptr) (s : Memory) (w : Files) : Prop where
  shape : Shape tcp unix s
  owner : ∀ d ∈ w.received, ∃ p, IsConnection p ∧ s.heap p ≠ none ∧ s.descriptorOf p = d ∧
    (p ∈ s.socketsList.sockets ∨ p ∈ s.outputSocketsList.sockets ∨ p ∈ ps)

section Steps

variable {tcp unix : Int} {p : Ptr} {ps : List Ptr} {s s' : Memory} {w : Files}

theorem Owned.similar (h : Owned tcp unix ps s w) (hsim : s.Similar s') :
    Owned tcp unix ps s' w where
  shape := h.shape.similar hsim
  owner d hd := by
    rcases h.owner d hd with ⟨p, hp, hlive, hdescriptor, hheld⟩
    rw [← hsim.socketsList, ← hsim.outputSocketsList] at hheld
    exact ⟨p, hp, (not_congr (hsim.heap_eq_none_iff p)).mpr hlive,
      (hsim.descriptorOf p).trans hdescriptor, hheld⟩

/-- The guarantee at the loop head. -/
theorem Owned.loopHead (h : Owned tcp unix [] s w) : OwnsAccepted s w (.note .loopHead) := by
  intro d hd
  rcases h.owner d hd with ⟨p, hp, hlive, rfl, hheld⟩
  rcases Option.ne_none_iff_exists'.mp hlive with ⟨socket, hsocket⟩
  refine ⟨p, by simpa using hheld, socket, hsocket, ?_, h.shape.unprotected hsocket⟩
  simp [Memory.descriptorOf, hsocket]

/-- A reference is dropped that was not the last one. -/
theorem Owned.keep (h : Owned tcp unix (p :: ps) s w)
    (hp : s.Referenced p ∨ s.heap p = none) : Owned tcp unix ps s w where
  shape := h.shape
  owner d hd := by
    rcases h.owner d hd with ⟨q, hq, hlive, hdescriptor, hheld⟩
    refine ⟨q, hq, hlive, hdescriptor, ?_⟩
    rcases hheld with hlist | houtput | hmem
    · exact Or.inl hlist
    · exact Or.inr (Or.inl houtput)
    · rcases List.mem_cons.mp hmem with rfl | hmem
      · rcases hp.resolve_right hlive with hlist | houtput | hlocal
        · exact Or.inl hlist
        · exact Or.inr (Or.inl houtput)
        · rw [h.shape.locals, List.mem_pair] at hlocal
          exact absurd hlocal (not_or.mpr hq)
      · exact Or.inr (Or.inr hmem)

/-- A destroyed object takes its descriptor with it. -/
theorem Owned.erase (h : Owned tcp unix (p :: ps) s w) (href : ¬s.Referenced p) :
    Owned tcp unix ps (s.erase p) (w.close (s.descriptorOf p)) where
  shape := h.shape.pruned (Memory.pruned_erase href)
  owner d hd := by
    obtain ⟨hd, hne⟩ := List.mem_filter.mp hd
    rcases h.owner d hd with ⟨q, hq, hlive, rfl, hheld⟩
    have hqp : q ≠ p := by
      rintro rfl
      simp at hne
    refine ⟨q, hq, by simpa [hqp] using hlive, by simp [Memory.descriptorOf, hqp], ?_⟩
    rcases hheld with hlist | houtput | hmem
    · exact Or.inl hlist
    · exact Or.inr (Or.inl houtput)
    · exact Or.inr (Or.inr ((List.mem_cons.mp hmem).resolve_left hqp))

/-- Dropping a reference keeps the accounts. -/
theorem owned_release (h : Owned tcp unix (p :: ps) s w) :
    Sat acceptedFiles HandshakeSucceeds OwnsAccepted (release p) (fun s' w' _ =>
      Owned tcp unix ps s' w' ∧ s'.socketsList = s.socketsList ∧
        s'.outputSocketsList = s.outputSocketsList) s w := by
  apply sat_release
  · exact fun hp => ⟨h.keep hp, rfl, rfl⟩
  · intro socket _ hsocket hprotected
    rw [h.shape.unprotected hsocket] at hprotected
    contradiction
  · intro socket href hsocket _
    rw [sat_ask_closed]
    refine ⟨trivial, ?_⟩
    intro r w' hreply _
    obtain rfl := Option.some.inj hreply
    have herase := h.erase href
    rw [Memory.descriptorOf, hsocket] at herase
    exact ⟨herase, rfl, rfl⟩

/-- The output list drops its references. -/
theorem owned_clearOutput (h : Owned tcp unix [] s w) :
    Sat acceptedFiles HandshakeSucceeds OwnsAccepted clearOutput (fun s' w' _ =>
      Owned tcp unix [] s' w' ∧ s'.outputSocketsList.sockets = []) s w := by
  rw [clearOutput, sat_bind, sat_get, sat_bind, sat_set]
  apply sat_forEach fun ps s' w' =>
    Owned tcp unix ps s' w' ∧ s'.outputSocketsList.sockets = []
  · intro p ps s' w' hinv
    apply (owned_release hinv.1).mono
    rintro s'' w'' _ ⟨h, -, houtput⟩
    exact ⟨h, houtput ▸ hinv.2⟩
  · refine ⟨⟨h.shape.clearOutput, fun d hd => ?_⟩, rfl⟩
    rcases h.owner d hd with ⟨p, hp, hlive, hdescriptor, hlist | houtput | hnone⟩
    · exact ⟨p, hp, hlive, hdescriptor, Or.inl hlist⟩
    · exact ⟨p, hp, hlive, hdescriptor, Or.inr (Or.inr houtput)⟩
    · cases hnone

/-- A removed socket is left to the output list, or closed. -/
theorem owned_delSocket (h : Owned tcp unix [] s w) (p : Ptr) :
    Sat acceptedFiles HandshakeSucceeds OwnsAccepted (delSocket p) (fun s' w' _ =>
      Owned tcp unix [] s' w' ∧ s'.outputSocketsList = s.outputSocketsList) s w := by
  rw [delSocket, sat_bind, sat_get, sat_bind, sat_set, sat_bind]
  refine sat_note_quiet (elsewhere_quiet (fun _ => True) (· = w)) (by trivial) trivial rfl ?_
  rintro w rfl
  rw [sat_bind, sat_when]
  have hshape := h.shape.delSocket (s.descriptorOf p)
  cases hdeleted : (SocketsList.delSocket s.descriptorOf s.socketsList (s.descriptorOf p)).2 with
  | false =>
      rw [if_neg (by decide), SocketsList.delSocket_of_eq_false hdeleted]
      exact ⟨h, rfl⟩
  | true =>
      rw [if_pos rfl]
      obtain ⟨hroom, x, hx, heq⟩ := (SocketsList.delSocket_eq_true_iff _ _ _).mp hdeleted
      cases hfind : s.socketsList.sockets.find? (s.descriptorOf · == s.descriptorOf p) with
      | none =>
          have hnone := List.find?_eq_none.mp hfind x hx
          simp [heq] at hnone
      | some q =>
          have hq : s.descriptorOf q = s.descriptorOf p := by simpa using List.find?_some hfind
          rw [← hq] at hfind hshape
          have hfirst := (SocketsList.delSocket_first hroom hfind).2
          rw [← hq]
          let list := (SocketsList.delSocket s.descriptorOf s.socketsList (s.descriptorOf q)).1
          have hdropped : Owned tcp unix [q] { s with socketsList := list } w := by
            refine ⟨hshape, fun d hd => ?_⟩
            rcases h.owner d hd with ⟨y, hy, hlive, hdescriptor, hlist | houtput | hnone⟩
            · refine ⟨y, hy, hlive, hdescriptor, ?_⟩
              by_cases hyq : y = q
              · exact Or.inr (Or.inr (by simp [hyq]))
              · left
                change y ∈ list.sockets
                rw [hfirst]
                exact (List.mem_erase_of_ne hyq).mpr hlist
            · exact ⟨y, hy, hlive, hdescriptor, Or.inr (Or.inl houtput)⟩
            · cases hnone
          apply (owned_release hdropped).mono
          rintro s' w' _ ⟨h, -, houtput⟩
          exact ⟨h, houtput⟩

/-- A successful poll shares listed objects with the output list. -/
theorem Owned.polled (h : Owned tcp unix [] s w) (hempty : s.outputSocketsList.sockets = [])
    (revents : List Events) : Owned tcp unix [] (s.polled revents) w := by
  apply Owned.similar _ (s.similar_polled revents)
  refine ⟨(h.shape.polled hempty revents).similar (s.similar_polled revents).symm, ?_⟩
  intro d hd
  rcases h.owner d hd with ⟨p, hp, hlive, hdescriptor, hlist | houtput | hnone⟩
  · exact ⟨p, hp, hlive, hdescriptor, Or.inl hlist⟩
  · rw [hempty] at houtput
    cases houtput
  · cases hnone

/-- An accepted dispatcher is owned by the list, or by the local pointer. -/
theorem Owned.connect (h : Owned tcp unix [] s w) {d : Int} (hd : 0 ≤ d) :
    Owned tcp unix [s.next] (connect s d hd) (w.receive d) where
  shape := h.shape.connect hd
  owner x hx := by
    rcases List.mem_cons.mp hx with rfl | hx
    · refine ⟨s.next, h.shape.isConnection_next, ?_, ?_, Or.inr (Or.inr (by simp))⟩
      · simp [Mylsnr.connect]
      · simp [Memory.descriptorOf, Mylsnr.connect, connection]
    · rcases h.owner x hx with ⟨p, hp, hlive, hdescriptor, hheld⟩
      have hne : p ≠ s.next := Nat.ne_of_lt (h.shape.lt_next hlive)
      refine ⟨p, hp, by simpa [Mylsnr.connect, hne] using hlive, ?_, ?_⟩
      · simpa [Memory.descriptorOf, Mylsnr.connect, hne] using hdescriptor
      · rcases hheld with hlist | houtput | hnone
        · exact Or.inl (SocketsList.mem_putSocket_of_mem hlist)
        · exact Or.inr (Or.inl houtput)
        · cases hnone

/-- A descriptor that is closed again leaves no trace. -/
theorem Owned.attend (h : Owned tcp unix [] s w) (d : Int) (content : Option Int) :
    Owned tcp unix [] (attend s content) ((w.receive d).close d) where
  shape := h.shape.attend content
  owner x hx := by
    obtain ⟨hx, hne⟩ := List.mem_filter.mp hx
    have hold : x ∈ w.received := (List.mem_cons.mp hx).resolve_left (by simpa using hne)
    exact h.owner x hold

/-- The part of an iteration before the poll keeps the accounts. -/
theorem owned_prepare (h : Owned tcp unix [] s w) :
    Sat acceptedFiles HandshakeSucceeds OwnsAccepted prepare (fun s' w' _ =>
      Owned tcp unix [] s' w' ∧ s'.outputSocketsList.sockets = []) s w := by
  rw [prepare, sat_bind, sat_note, sat_ask_closed]
  refine ⟨h.loopHead, ?_⟩
  intro r w₁ hreply _
  obtain rfl : w = w₁ := Option.some.inj hreply
  rw [sat_bind]
  apply (owned_clearOutput h).mono
  rintro s₂ w _ ⟨h, hempty⟩
  rw [sat_bind, sat_get]
  apply (sat_pollForReads fun p hp => h.shape.live p (Or.inl hp)).mono
  rintro s' _ _ ⟨hreads, rfl⟩
  exact ⟨h.similar hreads.similar, hreads.similar.outputSocketsList ▸ hempty⟩

/-- A client whose handshake succeeds is closed again. -/
theorem owned_processClientConnection (h : Owned tcp unix [] s w) :
    Sat acceptedFiles HandshakeSucceeds OwnsAccepted
      (processClientConnection tcpListenerSocket) (fun s' w' _ => Owned tcp unix [] s' w' ∧
        s'.outputSocketsList = s.outputSocketsList) s w := by
  apply sat_processClientConnection h.shape
  rw [sat_ask_closed]
  refine ⟨trivial, ?_⟩
  intro newfd w₁ hreply _
  obtain ⟨hneg, hnonneg⟩ := accept_eq_some hreply
  refine ⟨fun hlt => ?_, fun hd => ?_⟩
  · rw [hneg hlt]
    exact ⟨h, rfl⟩
  · obtain rfl := hnonneg hd
    rw [sat_ask_closed]
    refine ⟨trivial, ?_⟩
    intro r w₂ hreply hsucceeds
    obtain rfl := Option.some.inj hreply
    have hpos : 0 < r.ret := hsucceeds
    refine ⟨fun hle => absurd hpos (by omega), fun _ => ?_⟩
    let client := s.alloc (connection newfd.ret hd .SSL)
    have hsend := within_sendToDispatchers client s.next s.socketsList.sockets
    have hquiet := elsewhere_quiet (fun s' => ∃ content,
      s' = { client with sendCmptr := content }) (· = w.receive newfd.ret)
    apply (hsend.sat (hquiet.mono (fun _ hI => hI) elsewhere_of_sending)
      ⟨client.sendCmptr, rfl⟩ rfl).mono
    rintro s' _ _ ⟨⟨content, rfl⟩, rfl⟩
    refine ⟨content, rfl, ?_⟩
    rw [sat_ask_closed]
    refine ⟨trivial, ?_⟩
    intro r w₃ hreply _
    obtain rfl := Option.some.inj hreply
    exact ⟨h.attend newfd.ret content, rfl⟩

/-- A dispatcher that joins is owned by the list; if the list is full, it is closed. -/
theorem owned_processDispatcherConnection (h : Owned tcp unix [] s w) :
    Sat acceptedFiles HandshakeSucceeds OwnsAccepted
      (processDispatcherConnection unixListenerSocket) (fun s' w' _ =>
        Owned tcp unix [] s' w' ∧ s'.outputSocketsList = s.outputSocketsList) s w := by
  -- until the local pointer goes, the descriptor is accounted to it
  apply sat_processDispatcherConnection h.shape fun m w => Owned tcp unix [s.next] m w
  · exact fun m => (elsewhere_quiet _ _).mono (fun _ hI => hI) elsewhere_of_greeting
  · rw [sat_ask_closed]
    refine ⟨trivial, ?_⟩
    intro newfd w₁ hreply _
    obtain ⟨hneg, hnonneg⟩ := accept_eq_some hreply
    refine ⟨fun hlt => ?_, fun hd => ?_⟩
    · rw [hneg hlt]
      exact ⟨h, rfl⟩
    · rw [hnonneg hd]
      exact h.connect hd
  · intro d hd w sent hroom hjoined
    refine ⟨hjoined.keep (Or.inl (Or.inl ?_)), rfl⟩
    apply SocketsList.mem_putSocket_self
    rw [SocketsList.putSocket_eq_true_iff, h.shape.maxSize]
    exact hroom
  · intro d hd w sent hfull hrefused
    let refused := s.alloc (connection d hd .UNIX)
    rw [h.shape.connect_of_full hd hfull] at hrefused
    have hgone : ¬refused.Referenced s.next := h.shape.not_referenced (Nat.le_refl _)
    have hdescriptor : refused.descriptorOf s.next = d := by
      simp [refused, Memory.descriptorOf, connection]
    have hmemory : refused.erase s.next = attend s s.sendCmptr :=
      h.shape.erase_alloc (connection d hd .UNIX) s.sendCmptr
    have hclosed := hrefused.erase hgone
    rw [hdescriptor, hmemory] at hclosed
    rw [sat_ask_closed]
    refine ⟨trivial, ?_⟩
    intro r w₁ hreply _
    obtain rfl := Option.some.inj hreply
    exact ⟨hclosed, rfl⟩

end Steps

/-! ## Whole runs -/

/-- In every run whose handshakes all succeed, every accepted descriptor that is open
has an owner in one of the lists at every loop head. -/
theorem owns_accepted (tcp unix iterations : Nat) (appCfg : ApplicationConfig)
    (others : List Int) :
    Safe acceptedFiles HandshakeSucceeds OwnsAccepted
      ⟨started tcp unix appCfg, ⟨tcp :: unix :: others, []⟩, main iterations⟩ := by
  apply Sat.safe
  have hquiet : ∀ I J, Quiet acceptedFiles HandshakeSucceeds OwnsAccepted I Elsewhere J :=
    elsewhere_quiet
  have hforking : ∀ I J, Quiet acceptedFiles HandshakeSucceeds OwnsAccepted I Forking J :=
    fun I J => (hquiet I J).mono (fun _ hI => hI) elsewhere_of_forking
  apply sat_main_invariant (Owned tcp unix [])
  · exact fun s w h => h.shape
  · exact fun s => (hquiet _ _).mono (fun _ hI => hI) elsewhere_of_calm
  · exact fun s s' w hsim h => h.similar hsim
  · exact fun s w revents hempty h => h.polled hempty revents
  · apply (within_create_dispatcher.sat (hforking (· = _) (· = _)) rfl rfl).mono
    rintro _ _ _ ⟨rfl, rfl⟩
    refine ⟨rfl, ?_⟩
    refine sat_note_quiet (hquiet (fun _ => True) (· = _)) (by trivial) trivial rfl ?_
    rintro _ rfl
    refine sat_note_quiet (hquiet (fun _ => True) (· = _)) (by trivial) trivial rfl ?_
    rintro _ rfl
    exact ⟨shape_listening tcp unix appCfg, fun d hd => absurd hd (List.not_mem_nil)⟩
  · exact fun s w h => owned_prepare h
  · exact fun p s w h => owned_delSocket h p
  · exact fun s w h => owned_processClientConnection h
  · exact fun s w h => owned_processDispatcherConnection h
  · intro s w h
    apply (within_restartDispatcher.sat (hforking (· = s) (· = w)) rfl rfl).mono
    rintro _ _ _ ⟨rfl, rfl⟩
    exact h
  · exact fun s w _ => sat_ask_quiet (hquiet (fun _ => True) (fun _ => True)) (by trivial)
      trivial trivial fun _ _ _ => trivial

/-- A client connects and its handshake fails.  Its descriptor is still open when the
next iteration begins, and no list holds it. -/
theorem leaked_descriptor :
    ¬Safe acceptedFiles anyReply OwnsAccepted ⟨started 3 4 {}, ⟨[3, 4], []⟩, main 2⟩ :=
  not_safe_of_exec
    (fun m w c =>
      match c with
      | .note .loopHead => w.received.all fun d =>
          (m.socketsList.sockets ++ m.outputSocketsList.sockets).any (m.descriptorOf · == d)
      | _ => true)
    (by
      intro m w c hG
      split
      next =>
        rw [List.all_eq_true]
        intro d hd
        rcases hG d hd with ⟨p, hp, socket, hsocket, hdescriptor, _⟩
        rw [List.any_eq_true]
        refine ⟨p, List.mem_append.mpr hp, ?_⟩
        simp [Memory.descriptorOf, hsocket, hdescriptor]
      next => rfl)
    [.inr { ret := 100 }, .inr {}, .inr {},
      .inr {}, .inr {}, .inr { ret := 1, revents := [POLLIN] },
      .inr { ret := 7 }, .inr { ret := -1 }, .inr {}, .inr {}]
    (by decide)

end Mylsnr

end SocketDispatcher
