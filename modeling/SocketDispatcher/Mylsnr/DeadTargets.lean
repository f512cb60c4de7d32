import SocketDispatcher.Mylsnr.Rules

/-!
# Dispatchers that have died

Whether the listener sends a client to a dispatcher that the poll of the same pass
has reported as dropped.  The sockets are handled one after another in list order,
and a client is sent to every listed dispatcher, whatever its revents are.

Main results:

- Theorem {lit}`reported_polled`: a successful poll collects every socket that it
  reports as dropped.
- Theorem {lit}`spares_dropped`: as long as no handshake succeeds in a pass whose poll
  has reported a dispatcher as dropped, no client is sent to a dropped dispatcher.
- Theorem {lit}`dead_target`: a client and a dead dispatcher in one poll.
-/

namespace SocketDispatcher

open Interaction

namespace Mylsnr

/-- The surroundings answer every call in every way. -/
def anything : Kernel Unit Call Reply Empty :=
  observer fun w _ _ => w

/-- No client is sent to a socket whose revents make {lit}`isDropped` true. -/
def SparesDropped (m : Memory) (_ : Unit) : Call → Prop
  | .note (.sendSocket p _) => ∀ socket, m.heap p = some socket → socket.isDropped = false
  | _ => True

/-- A handshake succeeds only while the output list holds no dropped dispatcher. -/
def NoneDropped (m : Memory) (_ : Unit) : Call → Reply → Prop
  | .sslAccept _, r => 0 < r.ret → ∀ p ∈ m.outputSocketsList.sockets, ∀ socket,
      m.heap p = some socket → socket.isDispatcher = true → socket.isDropped = false
  | _, _ => True

/-- The calls other than sending a client. -/
def Harmless : Call → Prop
  | .note (.sendSocket ..) => False
  | _ => True

theorem harmless_quiet :
    Quiet anything NoneDropped SparesDropped (fun _ => True) Harmless (fun _ => True) where
  guarantee s w c _ hc _ := by
    fun_cases SparesDropped s w c <;> trivial
  reply _ _ _ _ _ _ _ _ _ _ := trivial
  act _ a _ _ _ := nomatch a

theorem harmless_of_greeting : ∀ c, Greeting c → Harmless c := by
  apply forall_greeting <;> intros <;> trivial

theorem harmless_of_forking : ∀ c, Forking c → Harmless c := by
  apply forall_forking <;> trivial

/-! ## The invariant -/

/-- Every listed socket that the last poll has reported as dropped is in the output
list, and so are the entries still to be handled. -/
structure Reported (tcp unix : Int) (ps : List Ptr) (s : Memory) : Prop where
  shape : Shape tcp unix s
  reported : ∀ p ∈ s.socketsList.sockets, ∀ socket, s.heap p = some socket →
    socket.isDropped = true → p ∈ s.outputSocketsList.sockets
  collected : ∀ p ∈ ps, p ∈ s.outputSocketsList.sockets

section Steps

variable {tcp unix : Int} {p : Ptr} {ps : List Ptr} {s : Memory} {w : Unit}

theorem isDropped_of_revents {socket : Socket} (h : socket.revents = NO_EVENTS) :
    socket.isDropped = false := by
  simp [Socket.isDropped, h]
  decide

/-- A successful poll collects every socket that it reports as dropped. -/
theorem reported_polled (hs : Shape tcp unix s) (hempty : s.outputSocketsList.sockets = [])
    (revents : List Events) :
    Reported tcp unix (s.polled revents).outputSocketsList.sockets (s.polled revents) where
  shape := hs.polled hempty revents
  reported := by
    intro p hp socket hsocket hdropped
    rw [Memory.polled_socketsList] at hp
    rw [hs.polled_output hempty revents, List.mem_filter]
    refine ⟨hp, ?_⟩
    rw [Memory.polled_heap hs.nodup, Memory.reset_heap, if_pos hp] at hsocket
    split at hsocket
    next hrevents => simpa using hrevents
    next =>
      obtain ⟨socket', _, rfl⟩ := Option.map_eq_some_iff.mp hsocket
      rw [isDropped_of_revents rfl] at hdropped
      contradiction
  collected _ hp := hp

/-- The rest of the entries is still reported. -/
theorem Reported.tail (h : Reported tcp unix (p :: ps) s) : Reported tcp unix ps s :=
  ⟨h.shape, h.reported, fun q hq => h.collected q (List.mem_cons_of_mem p hq)⟩

/-- A connection that has gone again does not matter. -/
theorem Reported.attend (h : Reported tcp unix ps s) (content : Option Int) :
    Reported tcp unix ps (attend s content) :=
  ⟨h.shape.attend content, h.reported, h.collected⟩

/-- A dispatcher that joins has not been polled. -/
theorem Reported.connect (h : Reported tcp unix ps s) {d : Int} (hd : 0 ≤ d) :
    Reported tcp unix ps (connect s d hd) where
  shape := h.shape.connect hd
  reported := by
    intro p hp socket hsocket hdropped
    by_cases hnew : p = s.next
    · simp only [Mylsnr.connect, Memory.alloc_heap, hnew, if_true,
        Option.some.injEq] at hsocket
      rw [← hsocket, isDropped_of_revents rfl] at hdropped
      contradiction
    · simp only [Mylsnr.connect, Memory.alloc_heap, hnew, if_false] at hsocket
      rcases SocketsList.mem_putSocket hp with hp | hp
      · exact h.reported p hp socket hsocket hdropped
      · exact absurd hp hnew
  collected := h.collected

/-- A removal keeps what is reported. -/
theorem reported_delSocket (h : Reported tcp unix ps s) (p : Ptr) :
    Sat anything NoneDropped SparesDropped (delSocket p)
      (fun s' _ _ => Reported tcp unix ps s') s w := by
  apply (sat_delSocket_quiet harmless_quiet (fun _ => trivial) rfl rfl _).mono
  · rintro s' _ _ ⟨hpruned, -⟩
    have houtput := hpruned.outputSocketsList
    refine ⟨(h.shape.delSocket _).pruned hpruned, ?_, houtput.symm ▸ h.collected⟩
    intro q hq socket hsocket hdropped
    rw [hpruned.socketsList] at hq
    rw [houtput]
    exact h.reported q ((SocketsList.delSocket_sublist _ _ _).subset hq) socket
      (hpruned.object hsocket) hdropped
  · exact sat_note_quiet harmless_quiet (by trivial) trivial trivial fun _ _ => ⟨rfl, trivial⟩

/-- An accepted client is not sent to a dropped dispatcher. -/
theorem reported_processClientConnection (h : Reported tcp unix ps s) :
    Sat anything NoneDropped SparesDropped (processClientConnection tcpListenerSocket)
      (fun s' _ _ => Reported tcp unix ps s') s w := by
  apply sat_processClientConnection h.shape
  refine sat_ask_quiet harmless_quiet (by trivial) trivial trivial fun newfd w _ => ?_
  refine ⟨fun _ => h, fun hd => ?_⟩
  rw [sat_ask_closed]
  refine ⟨trivial, ?_⟩
  intro r w _ hnone
  refine ⟨fun _ => h, fun hpos => ?_⟩
  have hspared := hnone hpos
  let client := s.alloc (connection newfd.ret hd .SSL)
  have hold : ∀ p ∈ s.socketsList.sockets, client.heap p = s.heap p := by
    intro p hp
    have hne : p ≠ s.next := Nat.ne_of_lt (h.shape.lt_next (h.shape.live p (Or.inl hp)))
    simp [client, hne]
  refine (sat_sendToDispatchers (s := client) (fun _ _ => True) ?_ ?_ ?_ trivial).mono ?_
  · intro p hp
    rw [hold p hp]
    exact h.shape.live p (Or.inl hp)
  · exact fun _ _ _ _ _ _ _ => trivial
  · intro p ps content w socket hp hsocket hdispatcher _
    have hspare : socket.isDropped = false := by
      by_contra hdropped
      rw [hold p hp] at hsocket
      have hcollected := h.reported p hp socket hsocket (by simpa using hdropped)
      exact hdropped (hspared p hcollected socket hsocket hdispatcher)
    have hclient : ({ client with sendCmptr := content } : Memory).heap s.next =
        some (connection newfd.ret hd .SSL) := by
      simp [client]
    apply (sat_sendSocket (s := { client with sendCmptr := content }) (fun _ => True)
      (fun _ => True) hsocket hclient hd _ _ _ fun _ _ => trivial).mono
    · rintro s' w _ ⟨⟨content', rfl⟩, -⟩
      exact ⟨⟨content', rfl⟩, trivial⟩
    · rw [sat_note, sat_ask_closed]
      refine ⟨?_, fun _ _ _ _ => trivial⟩
      intro socket' hsocket'
      obtain rfl := Option.some.inj (hsocket.symm.trans hsocket')
      exact hspare
    · exact fun w _ =>
        sat_ask_quiet harmless_quiet (by trivial) trivial trivial fun _ _ _ => trivial
    · exact fun _ w _ =>
        sat_ask_quiet harmless_quiet (by trivial) trivial trivial fun _ _ _ => trivial
  · rintro s' w _ ⟨⟨content, rfl⟩, -⟩
    refine ⟨content, rfl, ?_⟩
    exact sat_ask_quiet harmless_quiet (by trivial) trivial trivial fun _ _ _ => h.attend content

/-- An accepted dispatcher is not dropped. -/
theorem reported_processDispatcherConnection (h : Reported tcp unix ps s) :
    Sat anything NoneDropped SparesDropped (processDispatcherConnection unixListenerSocket)
      (fun s' _ _ => Reported tcp unix ps s') s w := by
  apply sat_processDispatcherConnection h.shape fun _ _ => True
  · intro s
    exact harmless_quiet.mono (fun _ _ => trivial) harmless_of_greeting
  · exact sat_ask_quiet harmless_quiet (by trivial) trivial trivial fun _ _ _ =>
      ⟨fun _ => h, fun _ => trivial⟩
  · exact fun d hd _ _ _ _ => h.connect hd
  · exact fun d hd w _ _ _ =>
      sat_ask_quiet harmless_quiet (by trivial) trivial trivial fun _ _ _ => h.attend _

/-- One entry of the output list keeps what is reported. -/
theorem reported_processSocket (h : Reported tcp unix (p :: ps) s) :
    Sat anything NoneDropped SparesDropped (processSocket p)
      (fun s' _ _ => Reported tcp unix ps s') s w := by
  have hlive := h.shape.live p (Or.inr (Or.inl (h.collected p (List.mem_cons_self ..))))
  apply sat_processSocket h.shape hlive
  · exact fun _ _ _ => reported_delSocket h.tail p
  · exact fun _ => reported_processClientConnection h.tail
  · exact fun _ => reported_processDispatcherConnection h.tail
  · exact h.tail

end Steps

/-! ## Whole runs -/

/-- In every run whose handshakes succeed only in passes without a dropped dispatcher,
no client is sent to a dispatcher that the poll of the same pass has reported as
dropped. -/
theorem spares_dropped (tcp unix iterations : Nat) (appCfg : ApplicationConfig) :
    Safe anything NoneDropped SparesDropped
      ⟨started tcp unix appCfg, (), main iterations⟩ := by
  apply Sat.safe
  have hforking : ∀ s, Quiet anything NoneDropped SparesDropped (· = s) Forking
      (fun _ => True) := by
    intro s
    exact harmless_quiet.mono (fun _ _ => trivial) harmless_of_forking
  apply sat_main (fun s _ => Shape tcp unix s) (fun _ _ => True)
  · apply (within_create_dispatcher.sat (hforking _) rfl trivial).mono
    rintro _ w _ ⟨rfl, -⟩
    refine ⟨rfl, ?_⟩
    refine sat_note_quiet harmless_quiet (by trivial) trivial trivial fun _ _ => ?_
    refine sat_note_quiet harmless_quiet (by trivial) trivial trivial fun _ _ => ?_
    exact shape_listening tcp unix appCfg
  · intro s w hs
    apply sat_mainLoop (fun s _ => Shape tcp unix s)
      (fun s _ => Shape tcp unix s ∧ s.outputSocketsList.sockets = [])
      (fun s _ => Shape tcp unix s) (fun s _ => Shape tcp unix s)
      (fun ps s _ => Reported tcp unix ps s)
    · exact fun s w hs => sat_ask_quiet harmless_quiet (by trivial) trivial trivial fun _ _ _ => hs
    · intro s w hs
      apply (sat_prepare_quiet hs harmless_quiet trivial (fun _ => trivial) trivial).mono
      rintro s' w _ ⟨hprepared, -⟩
      exact ⟨hs.prepared hprepared, hprepared.output⟩
    · rintro s w ⟨hs, hempty⟩
      apply sat_pollSockets
      · exact fun _ _ _ => trivial
      · have hreset := hs.similar s.similar_reset
        refine sat_ask_quiet harmless_quiet (by trivial) trivial trivial fun r _ _ => ?_
        exact ⟨fun _ _ => hreset, fun _ _ => hreset, fun _ => hreset,
          fun _ _ => reported_polled hs hempty r.revents⟩
    · exact fun p ps s w h => reported_processSocket h
    · exact fun s w h => h.shape
    · intro s w hs
      apply (within_restartDispatcher.sat (hforking s) rfl trivial).mono
      rintro _ w _ ⟨rfl, -⟩
      exact hs
    · exact fun s w hs => sat_note_quiet harmless_quiet (by trivial) trivial trivial fun _ _ => hs
    · exact hs
  · intro s w hs
    have hwriting : Quiet anything NoneDropped SparesDropped (· = s) Harmless (fun _ => True) :=
      harmless_quiet.mono (fun _ _ => trivial) fun _ hc => hc
    exact (sat_sayGoodbye_quiet hs hwriting (fun _ _ => trivial) trivial).mono
      fun _ _ _ _ => trivial
  · exact fun s w _ =>
      sat_ask_quiet harmless_quiet (by trivial) trivial trivial fun _ _ _ => trivial

/-- A dispatcher connects.  The next poll reports a client and the end of that
dispatcher, and the client is sent to it all the same. -/
theorem dead_target :
    ¬Safe anything anyReply SparesDropped ⟨started 3 4 {}, (), main 2⟩ :=
  not_safe_of_exec
    (fun m _ c =>
      match c with
      | .note (.sendSocket p _) => (m.heap p).all fun socket => !socket.isDropped
      | _ => true)
    (by
      intro m w c hG
      split
      next p _ =>
        rw [Option.all_eq_true]
        exact fun socket hsocket => by simpa using hG socket hsocket
      next => rfl)
    [.inr { ret := 100 }, .inr {}, .inr {},
      .inr {}, .inr {}, .inr { ret := 1, revents := [NO_EVENTS, POLLIN] },
      .inr { ret := 7 }, .inr {}, .inr { ret := 6 }, .inr { ret := 1 }, .inr { ret := 40 },
      .inr {},
      .inr {}, .inr {}, .inr { ret := 2, revents := [POLLIN, NO_EVENTS, POLLHUP] },
      .inr { ret := 8 }, .inr { ret := 1 }]
    (by decide)

end Mylsnr

end SocketDispatcher
