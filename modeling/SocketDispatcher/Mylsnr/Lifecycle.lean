import SocketDispatcher.Mylsnr.Holdings
import SocketDispatcher.Mylsnr.MainProcess

/-!
# Giving everything back

Every run of the listener from its command line to its exit status, for every outcome of the
calls that create its context and its sockets.

Main results:

- Theorem {lit}`doomed_run`: a listener that lists the empty pointer never returns.
- Theorem {lit}`accounted_leaveScope`: the destructors leave nothing behind.
- Theorem {lit}`gives_back`: when {lit}`main` returns, every descriptor that the listener
  obtained has been closed, but those whose handshake failed, and its socket file is gone if it
  could be removed.
-/

namespace SocketDispatcher

open Interaction

namespace Mylsnr

/-! ## The start -/

section Start

variable {s : Memory} {w : Holdings}

theorem holdings_create_dispatcher :
    Sat holdings anyReply ClosesOwn create_dispatcher (fun s' w' _ => s' = s ∧ w' = w) s w :=
  within_create_dispatcher.sat
    ((incidental_quiet (· = s) (· = w)).mono (fun _ hI => hI) incidental_of_forking) rfl rfl

theorem holdings_putSocket (p : Ptr) :
    Sat holdings anyReply ClosesOwn (putSocket p) (fun s' w' _ =>
      s' = { s with socketsList := (s.socketsList.putSocket p).1 } ∧ w' = w) s w := by
  rw [putSocket, sat_bind, sat_get, sat_bind, sat_set, sat_bind]
  refine sat_note_quiet (incidental_quiet (fun _ => True) (· = w)) (by trivial) trivial rfl ?_
  rintro _ rfl
  exact ⟨rfl, rfl⟩

/-- Binding to a free address. -/
theorem holdings_bind (d : Int) {address : SocketAddress} (hfree : w.Free address) :
    Sat holdings anyReply ClosesOwn (Program.ask (.bind d address))
      (fun s' w' _ => s' = s ∧ ∃ paths, w' = { w with paths := paths }) s w := by
  rw [sat_ask_closed]
  refine ⟨hfree, fun r w' hreply _ => ⟨rfl, ?_⟩⟩
  cases address with
  | inet port =>
      obtain rfl := Option.some.inj hreply
      exact ⟨w.paths, rfl⟩
  | unix path =>
      simp only [holdings] at hreply
      split at hreply
      · obtain rfl := Option.some.inj hreply
        exact ⟨w.paths, rfl⟩
      · split at hreply
        · contradiction
        · obtain rfl := Option.some.inj hreply
          exact ⟨_, rfl⟩

/-- A factory returns a new object or the empty pointer; in the second case a descriptor may be
left open. -/
theorem holdings_createListener {family : AddressFamily} {second : Int → Call}
    {address : SocketAddress} {queueLength : Nat}
    {listener : (socketfd : Int) → socketfd ≠ FREE_SOCKET → Socket}
    (hlistener : ∀ d hfree, (listener d hfree).descriptor = d ∧
      (listener d hfree).protectDescriptor = false)
    (hsecond : ∀ d w, Sat holdings anyReply ClosesOwn (Program.ask (second d))
      (fun _ w' _ => (∃ paths stuck, w' = { w with paths := paths, stuck := stuck }) ∧
        w'.Free address) s w)
    (hfresh : s.heap s.next = none) :
    Sat holdings anyReply ClosesOwn (createListener family second address queueLength listener)
      (fun s' w' p => (p = nullptr ∧ s' = s) ∨
        ∃ d hfree, 0 ≤ d ∧ p = s.next ∧ s' = s.alloc (listener d hfree) ∧
          (s.Inventory [] w.owned ∧ w.Registered →
            s'.Inventory [s.next] w'.owned ∧ w'.Registered)) s w := by
  apply sat_createListener
  rw [sat_ask_closed]
  refine ⟨trivial, fun socketfd w₁ hreply _ => ⟨fun _ => Or.inl ⟨rfl, rfl⟩, ?_⟩⟩
  intro hnonneg hfree
  obtain ⟨hnew, rfl⟩ := (Holdings.give_eq_some hreply).2 hnonneg
  apply (hsecond socketfd.ret _).ask_mono
  rintro _ _ ⟨⟨paths, stuck, rfl⟩, haddress⟩
  apply (holdings_bind (s := s) socketfd.ret haddress).ask_mono
  rintro _ _ ⟨-, paths', rfl⟩
  refine ⟨fun _ => Or.inl ⟨rfl, rfl⟩, fun _ => ?_⟩
  rw [sat_ask_closed]
  refine ⟨trivial, fun r w' hreply _ => ?_⟩
  obtain rfl := Option.some.inj hreply
  refine ⟨fun _ => Or.inl ⟨rfl, rfl⟩, fun _ => Or.inr ?_⟩
  refine ⟨socketfd.ret, hfree, hnonneg, rfl, rfl, fun ⟨hinventory, hregistered⟩ => ?_⟩
  obtain ⟨hdescriptor, hprotect⟩ := hlistener socketfd.ret hfree
  have hregistered' := hregistered.obtain socketfd.ret
  refine ⟨?_, hregistered'.opened, hregistered'.failed⟩
  have hunowned : (listener socketfd.ret hfree).descriptor ∉ w.owned := by
    rw [hdescriptor]
    exact hregistered.not_mem_owned hnew
  have halloc := hinventory.alloc hfresh hunowned hprotect
  rw [hdescriptor, ← hregistered.owned_obtain hnew] at halloc
  exact halloc

theorem holdings_createTcpListener (hfresh : s.heap s.next = none) :
    Sat holdings anyReply ClosesOwn (TcpSslListenerSocketFactory.createSocket 5555 32)
      (fun s' w' p => (p = nullptr ∧ s' = s) ∨ ∃ d hfree, 0 ≤ d ∧ p = s.next ∧
        s' = s.alloc (TcpSslListenerSocketFactory.tcpSslListenerSocket d hfree) ∧
          (s.Inventory [] w.owned ∧ w.Registered →
            s'.Inventory [s.next] w'.owned ∧ w'.Registered)) s w := by
  apply holdings_createListener (fun _ _ => ⟨rfl, rfl⟩) _ hfresh
  intro d w
  refine sat_ask_quiet (incidental_quiet (fun _ => True) (· = w)) (by trivial) trivial rfl ?_
  rintro _ _ rfl
  exact ⟨⟨_, _, rfl⟩, trivial⟩

/-- The socket file of an earlier run is removed first, if that is possible. -/
theorem holdings_createUnixListener (hfresh : s.heap s.next = none) :
    Sat holdings anyReply ClosesOwn (UnixListenerSocketFactory.createSocket MY_SOCK_PATH)
      (fun s' w' p => (p = nullptr ∧ s' = s) ∨ ∃ d hfree, 0 ≤ d ∧ p = s.next ∧
        s' = s.alloc (UnixListenerSocketFactory.unixListenerSocket d hfree) ∧
          (s.Inventory [] w.owned ∧ w.Registered →
            s'.Inventory [s.next] w'.owned ∧ w'.Registered)) s w := by
  apply holdings_createListener (fun _ _ => ⟨rfl, rfl⟩) _ hfresh
  intro d w
  have hpath : UnixListenerSocketFactory.sunPath MY_SOCK_PATH = cString MY_SOCK_PATH := by decide
  rw [sat_ask_closed, hpath]
  refine ⟨trivial, fun r w' hreply _ => ?_⟩
  obtain rfl := Option.some.inj hreply
  exact ⟨w.unlink_eq _ r.ret, w.removed_unlink _ r.ret⟩

end Start

/-! ## A failed start -/

/-- The empty pointer is listed. -/
structure Doomed (s : Memory) : Prop where
  listed : nullptr ∈ s.socketsList.sockets
  vacant : s.heap nullptr = none
  output : s.outputSocketsList.sockets = []

section Doomed

variable {s : Memory} {w : Holdings}

/-- A loop that dereferences the listed pointers ends at the empty one. -/
theorem doomed_forEach {body : Ptr → Socket → Proc Unit}
    (hbody : ∀ p socket s w, s.heap nullptr = none → Sat holdings anyReply ClosesOwn
      (body p socket) (fun s' _ _ => s'.heap nullptr = none) s w)
    (h : Doomed s) :
    Sat holdings anyReply ClosesOwn
      (Program.forEach s.socketsList.sockets fun p => deref p >>= body p)
      (fun _ _ _ => False) s w := by
  apply (sat_forEach (fun ps s' _ => nullptr ∈ ps ∧ s'.heap nullptr = none) _ _
    ⟨h.listed, h.vacant⟩).mono
  · rintro s' w' _ ⟨hnone, -⟩
    cases hnone
  · rintro p ps s' w' ⟨hmem, hvacant⟩
    rw [sat_bind]
    apply sat_deref
    · exact fun _ _ _ => trivial
    · intro socket hsocket
      have hne : nullptr ≠ p := by
        rintro rfl
        rw [hvacant] at hsocket
        contradiction
      apply (hbody p socket s' w' hvacant).mono
      intro s'' _ _ hvacant'
      exact ⟨(List.mem_cons.mp hmem).resolve_left hne, hvacant'⟩

/-- The first thing that an iteration does with the list is to ask for read events. -/
theorem doomed_iteration (h : Doomed s) :
    Sat holdings anyReply ClosesOwn iteration (fun _ _ _ => False) s w := by
  rw [iteration, sat_bind]
  refine sat_note_quiet (incidental_quiet (fun _ => True) (· = w)) (by trivial) trivial rfl ?_
  rintro w rfl
  rw [sat_bind, clearOutput, sat_bind, sat_get, sat_bind, sat_set, h.output, Program.forEach,
    sat_pure, sat_bind, sat_get]
  have hdoomed : Doomed { s with outputSocketsList := s.outputSocketsList.clear } :=
    ⟨h.listed, h.vacant, rfl⟩
  have hreads : Sat holdings anyReply ClosesOwn
      (Program.forEach s.socketsList.sockets pollForRead) (fun _ _ _ => False)
      { s with outputSocketsList := s.outputSocketsList.clear } w := by
    refine doomed_forEach ?_ hdoomed
    intro p socket s' w' hvacant
    rw [sat_modifySocket, Memory.modifySocket_heap, hvacant]
    split
    · rfl
    · rfl
  exact hreads.seq fun _ _ _ hfalse => hfalse.elim

/-- If the loop is left before its first iteration, the farewell meets the empty pointer. -/
theorem doomed_sayGoodbye (h : Doomed s) :
    Sat holdings anyReply ClosesOwn sayGoodbyeToAllDispatchers (fun _ _ _ => False) s w := by
  rw [sayGoodbyeToAllDispatchers, sat_bind, sat_get]
  refine doomed_forEach ?_ h
  intro p socket s' w' hvacant
  rw [sat_when]
  split
  · rw [sat_bind]
    refine sat_ask_quiet (incidental_quiet (fun _ => True) (fun _ => True)) (by trivial) trivial
      trivial ?_
    exact fun _ _ _ => hvacant
  · exact hvacant

/-- A listener that lists the empty pointer never returns. -/
theorem doomed_run {p q : Ptr} (iterations : Nat) (hnull : p = nullptr ∨ q = nullptr)
    (hlist : s.socketsList = SocketsList.empty MAX_SOCKETS) (hvacant : s.heap nullptr = none)
    (houtput : s.outputSocketsList.sockets = []) :
    Sat holdings anyReply ClosesOwn (run p q iterations) (fun _ _ _ => False) s w := by
  apply sat_run (fun s _ => Doomed s) (fun s _ => Doomed s) (fun _ _ => False)
  · apply holdings_create_dispatcher.mono
    rintro _ _ _ ⟨rfl, rfl⟩
    apply (holdings_putSocket p).mono
    rintro _ _ _ ⟨rfl, rfl⟩
    apply (holdings_putSocket q).mono
    rintro _ _ _ ⟨rfl, rfl⟩
    refine ⟨?_, hvacant, houtput⟩
    dsimp only
    rw [hlist]
    change nullptr ∈ [p, q]
    rcases hnull with rfl | rfl
    · exact List.mem_cons_self
    · exact List.mem_cons_of_mem p List.mem_cons_self
  · intro s w h
    apply sat_repeatUntil (fun s _ => Doomed s) (fun s _ => Doomed s) _ iterations h
    intro s w h
    rw [testAndIterate, sat_bind]
    refine sat_ask_quiet (incidental_quiet (fun _ => True) (fun _ => True)) (by trivial) trivial
      trivial ?_
    intro requested w _
    rw [sat_ite]
    split
    · exact h
    · exact (doomed_iteration h).mono fun _ _ _ hfalse => hfalse.elim
  · exact fun s w h => doomed_sayGoodbye h
  · exact fun _ _ hfalse => hfalse.elim

end Doomed

/-! ## The end -/

section Leave

variable {s : Memory} {w : Holdings}

/-- The destructor of the listening UNIX socket removes the socket file. -/
theorem holdings_removeSocketFile (p : Ptr) :
    Sat holdings anyReply ClosesOwn (removeSocketFile p) (fun s' w' _ => s' = s ∧
      (∃ paths stuck, w' = { w with paths := paths, stuck := stuck }) ∧
        (w.Removed MY_SOCK_PATH ∨ (∃ socket, s.heap p = some socket ∧
          socket.cls = .unixListenerSocket ∧ ¬s.Referenced p) → w'.Removed MY_SOCK_PATH)) s w := by
  have hkeep : (¬∃ socket, s.heap p = some socket ∧ socket.cls = .unixListenerSocket ∧
      ¬s.Referenced p) → (w.Removed MY_SOCK_PATH ∨ (∃ socket, s.heap p = some socket ∧
        socket.cls = .unixListenerSocket ∧ ¬s.Referenced p) → w.Removed MY_SOCK_PATH) :=
    fun hnot hcond => hcond.resolve_right hnot
  rw [removeSocketFile, sat_bind, sat_get]
  cases hheap : s.heap p with
  | none => exact ⟨rfl, ⟨_, _, rfl⟩, fun hcond => hcond.resolve_right (by simp)⟩
  | some socket =>
      rw [hheap] at hkeep
      rw [sat_when]
      split
      next hlast =>
        rw [sat_bind, sat_ask_closed]
        refine ⟨trivial, fun r w' hreply _ => ?_⟩
        obtain rfl := Option.some.inj hreply
        have hpath : cString MY_SOCK_PATH = MY_SOCK_PATH := by decide
        rw [hpath]
        exact ⟨rfl, w.unlink_eq _ r.ret, fun _ => w.removed_unlink _ r.ret⟩
      next hlast =>
        refine ⟨rfl, ⟨_, _, rfl⟩, hkeep ?_⟩
        rintro ⟨socket', hsocket, hcls, hgone⟩
        obtain rfl := Option.some.inj hsocket
        simp [hcls, hgone] at hlast

/-- A variable that held the last reference takes the object with it. -/
theorem holdings_dropLocal {p : Ptr} (h : s.Inventory [] w.owned) (hregistered : w.Registered) :
    Sat holdings anyReply ClosesOwn (dropLocal p) (fun s' w' _ =>
      Memory.Pruned { s with locals := s.locals.erase p } s' ∧ s'.Inventory [] w'.owned ∧
        w'.Registered ∧
        (w.Removed MY_SOCK_PATH ∨ (∃ socket, s.heap p = some socket ∧
          socket.cls = .unixListenerSocket ∧
          ¬Memory.Referenced { s with locals := s.locals.erase p } p) →
            w'.Removed MY_SOCK_PATH)) s w := by
  rw [dropLocal, sat_bind, sat_modify, sat_bind]
  apply (holdings_removeSocketFile p).mono
  rintro _ _ _ ⟨rfl, ⟨paths, stuck, rfl⟩, hremoved⟩
  apply sat_release_inventory (holdings_givesUp fun paths stuck =>
    w.Removed MY_SOCK_PATH ∨ (∃ socket, s.heap p = some socket ∧
      socket.cls = .unixListenerSocket ∧
      ¬Memory.Referenced { s with locals := s.locals.erase p } p) →
        MY_SOCK_PATH ∈ paths → stuck = true)
  · refine h.move ?_ ?_
    · rfl
    rintro q ((hlist | houtput | hlocal) | hnone)
    · exact Or.inl (Or.inl hlist)
    · exact Or.inl (Or.inr (Or.inl houtput))
    · by_cases hqp : q = p
      · exact Or.inr (by simp [hqp])
      · exact Or.inl (Or.inr (Or.inr ((List.mem_erase_of_ne hqp).mpr hlocal)))
    · cases hnone
  · exact ⟨⟨hregistered.opened, hregistered.failed⟩, hremoved⟩

/-- When both lists and both variables are gone, nothing is owned. -/
theorem accounted_leaveScope {tcp unix : Int} (h : Accounted tcp unix s w) :
    Sat holdings anyReply ClosesOwn leaveScope (fun s' w' _ =>
      ((∀ p, s'.heap p = none) ∧ w'.owned = ∅) ∧ w'.Registered ∧ w'.Removed MY_SOCK_PATH)
      s w := by
  have hgives := holdings_givesUp fun _ _ => True
  obtain ⟨socket, hsocket, hid⟩ := h.shape.unix
  have hcls : socket.cls = .unixListenerSocket := congrArg (·.1) hid
  have hlocal : ∀ {m : Memory}, m.locals = [tcpListenerSocket, unixListenerSocket] →
      m.Referenced unixListenerSocket :=
    fun hlocals => Or.inr (Or.inr (by simp [hlocals]))
  rw [leaveScope, sat_bind]
  apply (sat_clearOutput_inventory hgives h.inventory ⟨h.registered, trivial⟩).mono
  rintro s₁ w₁ _ ⟨hpruned₁, hinventory₁, hregistered₁, -⟩
  have hlocals₁ : s₁.locals = [tcpListenerSocket, unixListenerSocket] :=
    hpruned₁.locals.trans h.shape.locals
  have hsocket₁ : s₁.heap unixListenerSocket = some socket :=
    (hpruned₁.heap_of_referenced (hlocal h.shape.locals)).trans hsocket
  rw [sat_bind]
  apply (sat_clearSockets_inventory hgives hinventory₁ ⟨hregistered₁, trivial⟩).mono
  rintro s₂ w₂ _ ⟨hpruned₂, hinventory₂, hregistered₂, -⟩
  have hlocals₂ : s₂.locals = [tcpListenerSocket, unixListenerSocket] :=
    hpruned₂.locals.trans hlocals₁
  have hsocket₂ : s₂.heap unixListenerSocket = some socket :=
    (hpruned₂.heap_of_referenced (hlocal hlocals₁)).trans hsocket₁
  have hlist₂ : s₂.socketsList.sockets = [] := by
    rw [hpruned₂.socketsList]
    rfl
  have houtput₂ : s₂.outputSocketsList.sockets = [] := by
    rw [hpruned₂.outputSocketsList]
    change s₁.outputSocketsList.sockets = []
    rw [hpruned₁.outputSocketsList]
    rfl
  rw [sat_bind, sat_get, hlocals₂]
  change Sat _ _ _ (Program.forEach [unixListenerSocket, tcpListenerSocket] dropLocal) _ s₂ w₂
  rw [Program.forEach, sat_bind]
  apply (holdings_dropLocal hinventory₂ hregistered₂).mono
  rintro s₃ w₃ _ ⟨hpruned₃, hinventory₃, hregistered₃, hpath₃⟩
  have hlocals₃ : s₃.locals = [tcpListenerSocket] := by
    rw [hpruned₃.locals]
    change s₂.locals.erase unixListenerSocket = [tcpListenerSocket]
    rw [hlocals₂]
    decide
  have hgone : w₃.Removed MY_SOCK_PATH := by
    refine hpath₃ (Or.inr ⟨socket, hsocket₂, hcls, ?_⟩)
    simp [Memory.Referenced, hlist₂, houtput₂, hlocals₂, tcpListenerSocket, unixListenerSocket]
  rw [Program.forEach, sat_bind]
  apply (holdings_dropLocal hinventory₃ hregistered₃).mono
  rintro s₄ w₄ _ ⟨hpruned₄, hinventory₄, hregistered₄, hpath₄⟩
  refine ⟨hinventory₄.eq_empty ?_, hregistered₄, hpath₄ (Or.inl hgone)⟩
  intro p
  rw [hpruned₄.referenced_iff]
  have hlist₃ : s₃.socketsList.sockets = [] := by
    rw [hpruned₃.socketsList]
    exact hlist₂
  have houtput₃ : s₃.outputSocketsList.sockets = [] := by
    rw [hpruned₃.outputSocketsList]
    exact houtput₂
  simp [Memory.Referenced, hlist₃, houtput₃, hlocals₃]

end Leave

/-! ## Whole runs -/

section Main

variable {w : Holdings} (iterations : Nat)

/-- The tail of {lit}`main` once both listening sockets exist. -/
theorem accounted_run {s : Memory} {tcp unix : Nat} {appCfg : ApplicationConfig}
    {ssl : SslGlobals} (hs : s = { started tcp unix appCfg with ssl := ssl })
    (hinventory : s.Inventory [] w.owned) (hregistered : w.Registered) :
    Sat holdings anyReply ClosesOwn (run tcpListenerSocket unixListenerSocket iterations)
      (fun s' w' _ => Accounted tcp unix s' w') s w := by
  subst hs
  apply sat_run (Accounted tcp unix) (Accounted tcp unix) (Accounted tcp unix)
  · apply holdings_create_dispatcher.mono
    rintro _ _ _ ⟨rfl, rfl⟩
    apply (holdings_putSocket tcpListenerSocket).mono
    rintro _ _ _ ⟨rfl, rfl⟩
    apply (holdings_putSocket unixListenerSocket).mono
    rintro _ _ _ ⟨rfl, rfl⟩
    have hsimilar : (listening tcp unix appCfg).Similar
        { listening tcp unix appCfg with ssl := ssl } := ⟨fun _ => rfl, rfl, rfl, rfl, rfl⟩
    refine ⟨(shape_listening tcp unix appCfg).similar hsimilar, hinventory.move ?_ ?_, hregistered⟩
    · rfl
    rintro p ((hlist | houtput | hlocal) | hnone)
    · exact Or.inl (Or.inl (SocketsList.mem_putSocket_of_mem
        (SocketsList.mem_putSocket_of_mem hlist)))
    · exact Or.inl (Or.inr (Or.inl houtput))
    · exact Or.inl (Or.inr (Or.inr hlocal))
    · cases hnone
  · exact fun s w h => accounted_mainLoop iterations h
  · intro s w h
    apply (sat_sayGoodbye_quiet h.shape (incidental_quiet (· = s) (· = w)) (fun _ _ => trivial)
      rfl).mono
    rintro _ _ _ ⟨rfl, rfl⟩
    exact h
  · intro s w h
    refine sat_ask_quiet (incidental_quiet (fun _ => True) (· = w)) (by trivial) trivial rfl ?_
    rintro _ _ rfl
    exact h

/-- Both listening sockets exist, or the listener does not return. -/
theorem accounted_start (appCfg : ApplicationConfig) (ssl : SslGlobals)
    (hobtained : w.obtained = []) (hregistered : w.Registered) :
    Sat holdings anyReply ClosesOwn (start iterations)
      (fun s' w' _ => ∃ tcp unix, Accounted tcp unix s' w')
      { booted appCfg with ssl := ssl } w := by
  have hinventory : ({ booted appCfg with ssl := ssl } : Memory).Inventory [] w.owned := by
    have hlive : ({ booted appCfg with ssl := ssl } : Memory).live = ∅ := by
      simp [Memory.live, booted]
    refine ⟨fun p hp => absurd rfl hp, ?_, fun p socket hsocket => ?_⟩
    · rw [hlive, Set.bijOn_empty_iff_right]
      simp [Holdings.owned, hobtained]
    · simp [booted] at hsocket
  have hdoomed : ∀ {s : Memory} {w : Holdings} {p q : Ptr}, p = nullptr ∨ q = nullptr →
      s.socketsList = SocketsList.empty MAX_SOCKETS → s.heap nullptr = none →
      s.outputSocketsList.sockets = [] →
      Sat holdings anyReply ClosesOwn (run p q iterations)
        (fun s' w' _ => ∃ tcp unix, Accounted tcp unix s' w') s w :=
    fun hnull hlist hvacant houtput =>
      (doomed_run iterations hnull hlist hvacant houtput).mono fun _ _ _ hfalse => hfalse.elim
  rw [start, sat_bind]
  apply (holdings_createTcpListener rfl).mono
  rintro s₁ w₁ p (⟨rfl, rfl⟩ | ⟨fd, hfree, hnonneg, rfl, rfl, hkept⟩)
  · -- the descriptor of a half-made socket is lost, but so is the listener
    rw [sat_bind, hold, sat_modify, sat_bind]
    apply (holdings_createUnixListener rfl).mono
    rintro s₂ w₂ q (⟨rfl, rfl⟩ | ⟨fd', hfree', -, rfl, rfl, -⟩)
    · rw [sat_bind, hold, sat_modify]
      exact hdoomed (Or.inl rfl) rfl rfl rfl
    · rw [sat_bind, hold, sat_modify]
      exact hdoomed (Or.inl rfl) rfl rfl rfl
  · rw [sat_bind, hold, sat_modify, sat_bind]
    apply (holdings_createUnixListener rfl).mono
    rintro s₂ w₂ q (⟨rfl, rfl⟩ | ⟨fd', hfree', hnonneg', rfl, rfl, hkept'⟩)
    · rw [sat_bind, hold, sat_modify]
      exact hdoomed (Or.inr rfl) rfl rfl rfl
    · obtain ⟨tcp, htcp⟩ := Int.eq_ofNat_of_zero_le hnonneg
      obtain ⟨unix, hunix⟩ := Int.eq_ofNat_of_zero_le hnonneg'
      obtain ⟨hinventory₁, hregistered₁⟩ := hkept ⟨hinventory, hregistered⟩
      have hheld : ∀ {m : Memory} {q : Ptr} {owned : Set Int}, m.Inventory [q] owned →
          ({ m with locals := m.locals ++ [q] } : Memory).Inventory [] owned := by
        intro m q owned h
        refine h.move ?_ ?_
        · rfl
        rintro y ((hlist | houtput | hlocal) | hq)
        · exact Or.inl (Or.inl hlist)
        · exact Or.inl (Or.inr (Or.inl houtput))
        · exact Or.inl (Or.inr (Or.inr (List.mem_append_left _ hlocal)))
        · exact Or.inl (Or.inr (Or.inr (List.mem_append_right _ hq)))
      obtain ⟨hinventory₂, hregistered₂⟩ := hkept' ⟨hheld hinventory₁, hregistered₁⟩
      have hmemory := congrArg (fun m : Memory => { m with ssl := ssl })
        (started_eq htcp hunix hfree hfree' appCfg)
      rw [sat_bind, hold, sat_modify]
      apply (accounted_run iterations hmemory.symm (hheld hinventory₂) hregistered₂).mono
      exact fun s' w' _ h => ⟨tcp, unix, h⟩

/-- What is left when {lit}`main` returns: no object, no socket file that could be removed, and no
open descriptor but the ones whose handshake failed; nothing at all if there was no context. -/
def GivenBack (m : Memory) (w : Holdings) (status : Int) : Prop :=
  (∀ p, m.heap p = none) ∧
    ((status = 0 ∧ (∀ d, d ∈ w.obtained ↔ d ∈ w.failed) ∧ w.Removed MY_SOCK_PATH) ∨
      (status = 1 ∧ w.obtained = []))

theorem sat_givenBack (args : List Argument) (hobtained : w.obtained = [])
    (hregistered : w.Registered) :
    Sat holdings anyReply ClosesOwn (mainProcess args iterations) GivenBack (booted {}) w := by
  apply sat_mainProcess
  have hcreate : Within (fun m => ∃ ssl, m = { booted (settings args) with ssl := ssl }) Incidental
      (createContext (settings args).caFile (settings args).certFile (settings args).keyFile
        keyPassword) := by
    apply within_createContext
    · rintro _ ssl ⟨_, rfl⟩
      exact ⟨ssl, rfl⟩
    · trivial
    · trivial
    · exact fun _ _ => trivial
    · trivial
  apply (hcreate.sat (incidental_quiet _ (· = w)) ⟨_, rfl⟩ rfl).mono
  rintro _ _ _ ⟨⟨ssl, rfl⟩, rfl⟩
  refine ⟨⟨fun _ => rfl, Or.inr ⟨rfl, hobtained⟩⟩, fun _ => ?_⟩
  apply (accounted_start iterations (settings args) ssl hobtained hregistered).mono
  rintro s w _ ⟨tcp, unix, h⟩
  apply (accounted_leaveScope h).mono
  rintro s w _ ⟨⟨hgone, howned⟩, hregistered, hpath⟩ ssl
  refine ⟨hgone, Or.inl ⟨rfl, fun d => ⟨fun hd => ?_, hregistered.failed d⟩, hpath⟩⟩
  by_contra hfailed
  have hmem : d ∈ w.owned := ⟨hd, hfailed⟩
  rw [howned] at hmem
  cases hmem

end Main

end Mylsnr

end SocketDispatcher
