import SocketDispatcher.Mydisp.Rules

/-!
# Service of the reported sockets

Whom the dispatcher polls, and whom it reads from between two polls.  The record of the
surroundings holds the events that the last poll has returned, and the sockets that had their
turn since.

Main results:

- Theorem {lit}`due_polled`: the collected sockets are the listed ones with events, in the
  order of the list, and carry the returned events.
- Theorem {lit}`sat_processClient_turn`: a client with its turn is read from once.
- Theorem {lit}`serves_all`: all listed sockets are polled.  Every one that the poll reports
  and that has a turn has it once, in the order of the list, unless a message of the listener
  ends the loop, and nothing is read from any other socket.
-/

namespace SocketDispatcher

open Interaction

namespace Mydisp

/-! ## Turns -/

/-- What has happened since the last cycle. -/
structure Round where
  /-- The polled descriptors with the events that the poll has returned for them, without
  the empty ones. -/
  due : List (Int × Events) := []
  /-- The sockets that had their turn. -/
  served : List Ptr := []
  /-- A message of the listener has ended the loop. -/
  ended : Bool := false

/-- What a poll returns for the entries of its array, without the empty events. -/
def returnedEvents (pollInfo : List PollFd) (r : Reply) : List (Int × Events) :=
  if r.ret = -1 ∨ r.ret = 0 then []
  else ((pollInfo.map PollFd.fd).zip r.revents).filter (·.2 ≠ NO_EVENTS)

/-- A turn is a message of the listener or a read from a client. -/
def recordRound (w : Round) : Call → Reply → Round
  | .poll pollInfo _, r => { w with due := returnedEvents pollInfo r }
  | .bioRead p _ _, _ => { w with served := w.served ++ [p] }
  | .note (.dispatcherProcess ok), _ =>
      { w with served := w.served ++ [unixSocket], ended := !ok }
  | .note .loopEnd, _ => {}
  | _, _ => w

/-- The connection to the listener has a turn with any events, a client if it has sent
something and has not been dropped. -/
def hasTurn (p : Ptr) (revents : Events) : Bool :=
  p == unixSocket || (!dropBits revents && hasBit revents POLLIN)

/-- The sockets with a turn, in their order. -/
def turns (ps : List Ptr) (due : List Events) : List Ptr :=
  ((ps.zip due).filter fun entry => hasTurn entry.1 entry.2).map Prod.fst

/-- The collected sockets are the polled ones with events, in their order. -/
def Collected (m : Memory) (w : Round) : Prop :=
  m.outputSocketsList.sockets.map m.descriptorOf = w.due.map Prod.fst

/-- The collected sockets with a turn. -/
def roundTurns (m : Memory) (w : Round) : List Ptr :=
  turns m.outputSocketsList.sockets (w.due.map Prod.snd)

/-- It is the turn of this socket. -/
def Next (m : Memory) (w : Round) (p : Ptr) : Prop :=
  Collected m w ∧ w.served ++ [p] <+: roundTurns m w

/-- All listed sockets are polled, in the order of the list.  Nobody is read from or has a
turn out of order, and at the end of a cycle everybody had it. -/
def Serves (m : Memory) (w : Round) : Call → Prop
  | .poll pollInfo _ => pollInfo.map PollFd.fd = m.socketsList.sockets.map m.descriptorOf
  | .bioRead p _ _ => Next m w p
  | .recv fd .. | .recvmsg fd .. => fd = m.descriptorOf unixSocket ∧ Next m w unixSocket
  | .note (.dispatcherProcess _) => Next m w unixSocket
  | .note .loopEnd => Collected m w ∧ w.served <+: roundTurns m w ∧
      (w.ended = false → w.served = roundTurns m w)
  | _ => True

theorem turns_cons (p : Ptr) (ps : List Ptr) (revents : Events) (due : List Events) :
    turns (p :: ps) (revents :: due) =
      (if hasTurn p revents then [p] else []) ++ turns ps due := by
  rw [turns, List.zip_cons_cons, List.filter_cons]
  split <;> rfl

theorem turns_append {ps : List Ptr} {due : List Events} (hlength : ps.length = due.length)
    (qs : List Ptr) (rest : List Events) :
    turns (ps ++ qs) (due ++ rest) = turns ps due ++ turns qs rest := by
  rw [turns, List.zip_append hlength, List.filter_append, List.map_append]
  rfl

/-! ## The returned events -/

/-- Every listed socket is given the returned events at its position. -/
theorem filter_map_reventsFor {ps : List Ptr} (hnodup : ps.Nodup) (descriptorOf : Ptr → Int)
    (revents : List Events) :
    (ps.map fun p => (descriptorOf p, reventsFor ps revents p)).filter (·.2 ≠ NO_EVENTS) =
      ((ps.map descriptorOf).zip revents).filter (·.2 ≠ NO_EVENTS) := by
  induction ps generalizing revents with
  | nil => simp
  | cons p ps ih =>
      obtain ⟨hp, hnodup⟩ := List.nodup_cons.mp hnodup
      have hrest : ps.map (fun q => (descriptorOf q, reventsFor (p :: ps) revents q)) =
          ps.map fun q => (descriptorOf q, reventsFor ps revents.tail q) := by
        apply List.map_congr_left
        intro q hq
        have hpq : p ≠ q := fun h => hp (h ▸ hq)
        rw [reventsFor, if_neg hpq]
      rw [List.map_cons, hrest, List.filter_cons, ih hnodup]
      cases revents with
      | nil => simp [reventsFor, firstEvents]
      | cons e revents => simp [reventsFor, firstEvents, List.filter_cons]

/-- The revents of an object. -/
def reventsOf (m : Memory) (p : Ptr) : Events :=
  ((m.heap p).map Socket.revents).getD NO_EVENTS

theorem reventsOf_of_some {m : Memory} {p : Ptr} {socket : Socket}
    (hsocket : m.heap p = some socket) : reventsOf m p = socket.revents := by
  rw [reventsOf, hsocket]
  rfl

theorem reventsOf_congr {m m' : Memory} {p : Ptr} (h : m'.heap p = m.heap p) :
    reventsOf m' p = reventsOf m p := by
  rw [reventsOf, h, reventsOf]

/-- After a poll a listed socket has the returned events. -/
theorem reventsOf_polled {s : Memory} (hnodup : s.socketsList.sockets.Nodup)
    (revents : List Events) {p : Ptr} (hp : p ∈ s.socketsList.sockets) (hlive : s.heap p ≠ none) :
    reventsOf (s.polled revents) p = reventsFor s.socketsList.sockets revents p := by
  obtain ⟨socket, hsocket⟩ := Option.ne_none_iff_exists'.mp hlive
  rw [reventsOf, Memory.polled_heap hnodup, Memory.reset_heap, if_pos hp, hsocket]
  split
  next => rfl
  next hnone => simpa [Socket.setRevents] using (not_not.mp hnone).symm

/-- What is due to an object. -/
def dueOf (m : Memory) (p : Ptr) : Int × Events :=
  (m.descriptorOf p, reventsOf m p)

theorem pollInfo_fd {m : Memory} (hnodup : m.socketsList.sockets.Nodup) :
    (m.pollInfo m.socketsList.sockets).map PollFd.fd =
      m.socketsList.sockets.map m.descriptorOf := by
  rw [Memory.pollInfo_eq_map hnodup, List.map_map]
  rfl

/-- The collected sockets are the listed ones with events, in the order of the list, and
carry the returned events. -/
theorem due_polled {descriptor : Int} {s : Memory} (hs : Shape descriptor s)
    (hempty : s.outputSocketsList.sockets = []) {r : Reply} (hret : ¬(r.ret = -1 ∨ r.ret = 0)) :
    returnedEvents (s.pollInfo s.socketsList.sockets) r =
      (s.polled r.revents).outputSocketsList.sockets.map (dueOf (s.polled r.revents)) := by
  have hmap : (s.polled r.revents).outputSocketsList.sockets.map (dueOf (s.polled r.revents)) =
      (s.polled r.revents).outputSocketsList.sockets.map fun p =>
        (s.descriptorOf p, reventsFor s.socketsList.sockets r.revents p) := by
    apply List.map_congr_left
    intro p hp
    have hlisted := hs.collected hempty r.revents p hp
    have hdescriptor : (s.polled r.revents).descriptorOf p = s.descriptorOf p :=
      (s.similar_polled r.revents).descriptorOf p
    rw [dueOf, hdescriptor, reventsOf_polled hs.nodup _ hlisted (hs.live p (Or.inl hlisted))]
  rw [hmap, hs.polled_output hempty, returnedEvents, if_neg hret, pollInfo_fd hs.nodup,
    ← filter_map_reventsFor hs.nodup, List.filter_map]
  rfl

/-! ## The invariant -/

/-- The entries that have been handled had their turns, and the given ones are still to
come. -/
structure InTurn (descriptor : Int) (ps : List Ptr) (s : Memory) (w : Round) : Prop where
  shape : Shape descriptor s
  ended : w.ended = false
  collected : Collected s w
  split : ∃ handled events, s.outputSocketsList.sockets = handled ++ ps ∧
    w.due.map Prod.snd = events ++ ps.map (reventsOf s) ∧ handled.length = events.length ∧
    w.served = turns handled events

/-- The collected sockets are the same, and they have the same descriptors. -/
theorem Collected.congr {s s' : Memory} {w w' : Round} (h : Collected s w)
    (houtput : s'.outputSocketsList = s.outputSocketsList) (hdue : w'.due = w.due)
    (hdescriptor : ∀ q ∈ s.outputSocketsList.sockets, s'.descriptorOf q = s.descriptorOf q) :
    Collected s' w' := by
  rw [Collected, houtput, hdue, ← h]
  exact List.map_congr_left hdescriptor

theorem Next.congr {s s' : Memory} {w : Round} {p : Ptr} (h : Next s w p)
    (houtput : s'.outputSocketsList = s.outputSocketsList)
    (hdescriptor : ∀ q ∈ s.outputSocketsList.sockets, s'.descriptorOf q = s.descriptorOf q) :
    Next s' w p := by
  refine ⟨h.1.congr houtput rfl hdescriptor, ?_⟩
  rw [roundTurns, houtput]
  exact h.2

section InTurn

variable {descriptor : Int} {p : Ptr} {ps : List Ptr} {s s' : Memory} {w w' : Round}

theorem InTurn.remaining (h : InTurn descriptor ps s w) :
    ∀ q ∈ ps, q ∈ s.outputSocketsList.sockets := by
  obtain ⟨handled, events, houtput, -⟩ := h.split
  intro q hq
  rw [houtput]
  exact List.mem_append_right handled hq

/-- An entry that has a turn is the next to have one. -/
theorem InTurn.is_next (h : InTurn descriptor (p :: ps) s w)
    (hturn : hasTurn p (reventsOf s p) = true) : Next s w p := by
  obtain ⟨handled, events, houtput, hdue, hlength, hserved⟩ := h.split
  refine ⟨h.collected, ?_⟩
  rw [roundTurns, houtput, hdue, turns_append hlength, List.map_cons, turns_cons, if_pos hturn,
    hserved]
  exact ⟨turns ps (ps.map (reventsOf s)), by rw [List.append_assoc]⟩

/-- An entry has been handled. -/
theorem InTurn.next (h : InTurn descriptor (p :: ps) s w) (hs' : Shape descriptor s')
    (houtput' : s'.outputSocketsList = s.outputSocketsList)
    (hothers : ∀ q ∈ s.outputSocketsList.sockets, q ≠ p → s'.heap q = s.heap q)
    (hdescriptor : s'.descriptorOf p = s.descriptorOf p)
    (hdue' : w'.due = w.due) (hended' : w'.ended = false)
    (hserved' : w'.served = w.served ++ if hasTurn p (reventsOf s p) then [p] else []) :
    InTurn descriptor ps s' w' := by
  obtain ⟨handled, events, houtput, hdue, hlength, hserved⟩ := h.split
  have hnodup := h.shape.outputNodup
  rw [houtput, List.nodup_append] at hnodup
  have hp : p ∉ ps := (List.nodup_cons.mp hnodup.2.1).1
  have hrest : ps.map (reventsOf s') = ps.map (reventsOf s) := by
    apply List.map_congr_left
    intro q hq
    apply reventsOf_congr
    exact hothers q (h.remaining q (List.mem_cons_of_mem p hq)) fun heq => hp (heq ▸ hq)
  have hcollected : Collected s' w' := by
    apply h.collected.congr houtput' hdue'
    intro q hq
    by_cases hqp : q = p
    · rw [hqp, hdescriptor]
    · exact Memory.descriptorOf_congr (hothers q hq hqp)
  refine ⟨hs', hended', hcollected, handled ++ [p], events ++ [reventsOf s p], ?_, ?_, ?_, ?_⟩
  · rw [houtput', houtput, List.append_assoc]
    rfl
  · rw [hdue', hdue, hrest, List.map_cons, List.append_assoc]
    rfl
  · rw [List.length_append, List.length_append, hlength]
    rfl
  · have hnil : turns [] [] = [] := rfl
    rw [hserved', hserved, turns_append hlength, turns_cons, hnil, List.append_nil]

/-- When all entries have been handled, everybody had a turn. -/
theorem InTurn.done (h : InTurn descriptor [] s w) : Serves s w (.note .loopEnd) := by
  obtain ⟨handled, events, houtput, hdue, hlength, hserved⟩ := h.split
  have hall : w.served = roundTurns s w := by
    rw [roundTurns, houtput, hdue, List.append_nil, List.map_nil, List.append_nil, hserved]
  exact ⟨h.collected, hall ▸ List.prefix_rfl, fun _ => hall⟩

end InTurn

/-! ## One client -/

/-- The calls of a conversation other than the read. -/
def Telling (p : Ptr) : Call → Prop
  | .automatic _ | .crash => True
  | .bioWrite q _ => q = p
  | _ => False

section Client

variable {W A : Type} {K : Kernel W Call Reply A}
variable {H : Memory → W → Call → Reply → Prop} {G : Memory → W → Call → Prop}
variable {J J' : W → Prop} {p : Ptr} {socket : Socket} {s : Memory} {w : W}

/-- A client with its turn is read from once; where everything else that is said to it is
quiet, {lit}`J` holds until the read and {lit}`J'` afterwards. -/
theorem sat_processClient_turn (hsocket : s.heap p = some socket)
    (hssl : socket.isSslSocket = true) (hnow : Quiet K H G (Touches p s) (Telling p) J)
    (hlater : Quiet K H G (Touches p s) (Telling p) J')
    (hread : socket.isDropped = false → socket.isReadAvailable = true → ∀ buffer w, J w →
      Sat K H G (Program.ask (.bioRead p buffer 100)) (fun _ w _ => J' w) s w) (hJ : J w) :
    Sat K H G (processClient p) (fun s' w' _ => Touches p s s' ∧
      if (!socket.isDropped && socket.isReadAvailable) = true then J' w' else J w') s w := by
  have hkeep : ∀ s' f, Talk f → Touches p s s' → Touches p s (s'.modifySocket p f) :=
    fun s' f hf h => h.modifySocket hf
  have hssl' : ∀ s' socket', Touches p s s' → s'.heap p = some socket' →
      socket'.isSslSocket = true := by
    intro s' socket' h hsocket'
    obtain ⟨socket₀, hsocket₀, hid⟩ := h.similar.object hsocket'
    obtain rfl := Option.some.inj (hsocket.symm.trans hsocket₀)
    have hcls : socket'.cls = socket.cls := congrArg (·.1) hid
    rw [Socket.isSslSocket, hcls]
    exact hssl
  have hanswer : Within (Touches p s) (Telling p) (answerClient p) :=
    within_answerClient trivial (fun _ => rfl) hkeep hssl'
  have hwrite : ∀ message, Within (Touches p s) (Telling p) (write p message) :=
    fun message => within_write_call trivial rfl hssl'
  rw [processClient, sat_bind, sat_deref_of_some hsocket, sat_ite]
  split
  next hdropped =>
    have hno : (!socket.isDropped && socket.isReadAvailable) = false := by simp [hdropped]
    simp only [hno, Bool.false_eq_true, if_false]
    exact ⟨Touches.refl p s, hJ⟩
  next hdropped =>
    rw [sat_ite]
    split
    next hreadable =>
      have hyes : (!socket.isDropped && socket.isReadAvailable) = true := by
        simp [hdropped, hreadable]
      simp only [hyes, if_true]
      rw [sat_bind]
      refine sat_ask_quiet hnow (by trivial) (Touches.refl p s) hJ fun buffer w hJ => ?_
      rw [sat_bind, read, sat_bind, sat_deref_of_some hsocket, sat_ite, if_pos hssl, sat_bind]
      apply (hread (by simpa using hdropped) hreadable buffer.bytes w hJ).ask_mono
      intro w r hJ'
      rw [sat_pure]
      refine Within.sat hlater ?_ (Touches.refl p s) hJ'
      refine within_ite ?_ (within_ite ?_ (within_pure _))
      · exact within_bind (hwrite _) fun written => within_ite (within_pure _) hanswer
      · refine within_bind (within_when (within_modify fun s' h => hkeep s' _ .bye h)) fun _ => ?_
        exact within_bind (within_modify fun s' h => hkeep s' _ .answer h) fun _ => hanswer
    next hreadable =>
      have hno : (!socket.isDropped && socket.isReadAvailable) = false := by simp [hreadable]
      simp only [hno, Bool.false_eq_true, if_false]
      exact hanswer.sat hnow (Touches.refl p s) hJ

end Client

/-! ## The main loop -/

/-- The calls that are no turns and read nothing. -/
def Aside : Call → Prop
  | .poll .. | .bioRead .. | .recv .. | .recvmsg .. => False
  | .note (.dispatcherProcess _) | .note .loopEnd => False
  | _ => True

theorem aside_of_configuring : ∀ c, Configuring c → Aside c := by
  apply forall_configuring <;> intros <;> trivial

theorem aside_of_admitting (next : Ptr) : ∀ c, Admitting next c → Aside c := by
  apply forall_admitting <;> intros <;> trivial

theorem aside_of_telling (p : Ptr) : ∀ c, Telling p c → Aside c := by
  intro c
  fun_cases Telling p c <;> intro hc <;> trivial

theorem aside_quiet {I : Memory → Prop} {P : Call → Prop} (hP : ∀ c, P c → Aside c) (w : Round) :
    Quiet (observer recordRound) anyReply Serves I P (· = w) := by
  apply observer_quiet
  · intro s c _ hc
    have haside := hP c hc
    fun_cases Serves s w c <;> trivial
  · intro c r hc
    have haside := hP c hc
    fun_cases recordRound w c r <;> first | rfl | exact haside.elim

section MainLoop

variable {descriptor : Int} {fuel cycles : Nat} {p : Ptr} {ps : List Ptr}
variable {s : Memory} {w : Round}

/-- The collected sockets are left alone. -/
structure Undisturbed (descriptor : Int) (s s' : Memory) : Prop where
  shape : Shape descriptor s'
  next : s.next ≤ s'.next
  output : s'.outputSocketsList = s.outputSocketsList
  same : ∀ q ∈ s.outputSocketsList.sockets, s'.heap q = s.heap q

/-- While it is its turn, the connection to the listener may be read. -/
theorem message_quiet {P : Call → Prop} (hnext : Next s w unixSocket)
    (hP : ∀ c, P c → Aside c ∨ (∃ buffer size peek, c = .recv descriptor buffer size peek) ∨
      ∃ buffer size, c = .recvmsg descriptor buffer size) :
    Quiet (observer recordRound) anyReply Serves (Undisturbed descriptor s) P (· = w) := by
  have haside := aside_quiet (I := fun _ => True) (P := Aside) (fun _ hc => hc) w
  have hread : ∀ s', Undisturbed descriptor s s' →
      descriptor = s'.descriptorOf unixSocket ∧ Next s' w unixSocket := by
    intro s' hs'
    refine ⟨hs'.shape.descriptorOf_unix.symm, hnext.congr hs'.output fun q hq => ?_⟩
    exact Memory.descriptorOf_congr (hs'.same q hq)
  apply observer_quiet
  · intro s' c hs' hc
    rcases hP c hc with hc | ⟨_, _, _, rfl⟩ | ⟨_, _, rfl⟩
    · exact haside.guarantee s' w c trivial hc rfl
    · exact hread s' hs'
    · exact hread s' hs'
  · intro c r hc
    rcases hP c hc with hc | ⟨_, _, _, rfl⟩ | ⟨_, _, rfl⟩
    · exact haside.reply s w c r _ trivial hc rfl trivial rfl
    · rfl
    · rfl

/-- A message of the listener leaves the collected sockets alone. -/
theorem served_dispatcherProcess (hs : Shape descriptor s) (hnext : Next s w unixSocket) :
    Sat (observer recordRound) anyReply Serves (dispatcherProcess unixSocket fuel)
      (fun s' w' _ => Undisturbed descriptor s s' ∧ w' = w) s w := by
  have hbackground : Quiet (observer recordRound) anyReply Serves (Undisturbed descriptor s)
      (Background descriptor) (· = w) := by
    apply message_quiet hnext
    apply forall_background
    · exact fun c hc => Or.inl (aside_of_configuring c hc)
    · exact fun buffer size peek => Or.inr (Or.inl ⟨buffer, size, peek, rfl⟩)
  have hfetching : Quiet (observer recordRound) anyReply Serves (Undisturbed descriptor s)
      (fun c => (∃ size, c = .automatic size) ∨ c = .malloc ∨
        ∃ buffer size, c = .recvmsg descriptor buffer size) (· = w) := by
    apply message_quiet hnext
    rintro _ (⟨size, rfl⟩ | rfl | hc)
    · exact Or.inl trivial
    · exact Or.inl trivial
    · exact Or.inr (Or.inr hc)
  have hadmitting : Quiet (observer recordRound) anyReply Serves (fun _ => True) (Admitting 0)
      (· = w) :=
    aside_quiet (aside_of_admitting 0) w
  have hframe : ∀ s' q, Undisturbed descriptor s s' → q ∈ s.outputSocketsList.sockets →
      q ≠ s'.next + 1 := by
    intro s' q hs' hq
    have hlt := hs.lt_next (hs.live q (Or.inr (Or.inl hq)))
    exact Nat.ne_of_lt (Nat.lt_succ_of_lt (Nat.lt_of_lt_of_le hlt hs'.next))
  apply sat_dispatcherProcess_background hbackground
  · exact fun s' socket hs' hsocket => hs'.shape.descriptor_unix hsocket
  · exact fun s' appCfg hs' =>
      ⟨hs'.shape.globals appCfg s'.ssl s'.cmptr, hs'.next, hs'.output, hs'.same⟩
  · exact fun s' ssl hs' =>
      ⟨hs'.shape.globals s'.appCfg ssl s'.cmptr, hs'.next, hs'.output, hs'.same⟩
  · rintro s₁ w₁ hs₁ hw₁
    obtain rfl := hw₁.symm
    have hcreate : Sat (observer recordRound) anyReply Serves (createSocket unixSocket fuel)
        (fun s' w' p => w' = w ∧ Created (Undisturbed descriptor s) s' p) s₁ w := by
      apply sat_createSocket_live (fun _ w' => w' = w) hfetching
      · exact Or.inl ⟨_, rfl⟩
      · exact Or.inr (Or.inl rfl)
      · exact fun s' socket buf hs' hsocket =>
          Or.inr (Or.inr ⟨buf, MAXLINE, by rw [hs'.shape.descriptor_unix hsocket]⟩)
      · exact fun _ _ _ _ _ _ _ => trivial
      · intro s' _ o hw'
        exact sat_note_quiet (aside_quiet (I := fun _ => True) (fun _ hc => hc) w)
          (by trivial) trivial hw' fun _ hw' => ⟨rfl, hw'⟩
      · exact fun s' cmptr hs' =>
          ⟨hs'.shape.globals s'.appCfg s'.ssl cmptr, hs'.next, hs'.output, hs'.same⟩
      · exact hs₁
      · rfl
    apply hcreate.mono
    rintro s' w' p ⟨rfl, ⟨rfl, hs'⟩ | ⟨s₀, newfd, hpos, hs₀, rfl, rfl⟩⟩
    · rw [if_pos rfl]
      exact ⟨hs', rfl⟩
    · rw [if_neg hs₀.shape.next_ne_nullptr]
      apply sat_acceptClient_quiet hadmitting hs₀.shape (Nat.zero_le _) _ _ rfl
      · rintro _ rfl -
        refine ⟨⟨hs₀.shape.join, Nat.le_add_right_of_le hs₀.next, hs₀.output, ?_⟩, rfl⟩
        intro q hq
        rw [← hs₀.same q hq, join]
        exact Function.update_of_ne (hframe s₀ q hs₀ hq) _ _
      · rintro _ rfl
        exact ⟨⟨hs₀.shape.refuse, Nat.le_add_right_of_le hs₀.next, hs₀.output, hs₀.same⟩, rfl⟩
  · exact fun s' w' _ hs' hw' => ⟨hs', hw'⟩
  · exact ⟨hs, Nat.le_refl _, rfl, fun _ _ => rfl⟩
  · rfl

/-- A dropped client has had its turn. -/
theorem turn_delSocket (h : InTurn descriptor ps s w) :
    Sat (observer recordRound) anyReply Serves (note (.clientDropped p))
      (fun s w _ => Sat (observer recordRound) anyReply Serves (delSocket p)
        (fun s' w' _ => InTurn descriptor ps s' w') s w) s w := by
  have hquiet := aside_quiet (I := fun _ => True) (P := Aside) (fun _ hc => hc) w
  refine sat_note_quiet hquiet (by trivial) trivial rfl ?_
  rintro _ rfl
  apply (sat_delSocket_quiet hquiet (fun _ => trivial) rfl rfl _).mono
  · rintro s' w' _ ⟨hpruned, rfl⟩
    have hkept : ∀ q ∈ s.outputSocketsList.sockets, s'.heap q = s.heap q :=
      fun q hq => hpruned.heap_of_referenced (Or.inr (Or.inl hq))
    have houtput' : s'.outputSocketsList = s.outputSocketsList := hpruned.outputSocketsList
    obtain ⟨handled, events, houtput, hdue, hsplit⟩ := h.split
    refine ⟨(h.shape.delSocket _).pruned hpruned, h.ended, ?_, handled, events, ?_, ?_, hsplit⟩
    · exact h.collected.congr houtput' rfl fun q hq => Memory.descriptorOf_congr (hkept q hq)
    · rw [houtput']
      exact houtput
    · rw [hdue]
      congr 1
      apply List.map_congr_left
      intro q hq
      exact (reventsOf_congr (hkept q (h.remaining q hq))).symm
  · exact sat_note_quiet hquiet (by trivial) trivial rfl fun w hw => ⟨rfl, hw⟩

/-- The connection to the listener has its turn. -/
theorem turn_dispatcherProcess (h : InTurn descriptor (unixSocket :: ps) s w) :
    Sat (observer recordRound) anyReply Serves (dispatcherProcess unixSocket fuel)
      (fun s w ok => Sat (observer recordRound) anyReply Serves (note (.dispatcherProcess ok))
        (fun s' w' _ => if !ok then Serves s' w' (.note .loopEnd)
          else InTurn descriptor ps s' w') s w) s w := by
  have hturn : hasTurn unixSocket (reventsOf s unixSocket) = true := by simp [hasTurn]
  have hnext := h.is_next hturn
  apply (served_dispatcherProcess h.shape hnext).mono
  rintro s' w ok ⟨hs', rfl⟩
  have hdescriptor : ∀ q ∈ s.outputSocketsList.sockets, s'.descriptorOf q = s.descriptorOf q :=
    fun q hq => Memory.descriptorOf_congr (hs'.same q hq)
  have hnext' := hnext.congr hs'.output hdescriptor
  rw [sat_note, sat_ask_observer]
  refine ⟨hnext', fun r => ?_⟩
  cases ok with
  | true =>
      have hunix := hdescriptor unixSocket (h.remaining unixSocket (List.mem_cons_self ..))
      exact h.next hs'.shape hs'.output (fun q hq _ => hs'.same q hq) hunix rfl rfl
        (by rw [if_pos hturn]; rfl)
  | false =>
      refine ⟨hnext'.1, hnext'.2, fun hended => ?_⟩
      have hover : (recordRound w (.note (.dispatcherProcess false)) r).ended = true := rfl
      rw [hover] at hended
      contradiction

/-- A client that has a turn has it, and every other one is passed over. -/
theorem turn_processClient (h : InTurn descriptor (p :: ps) s w) (hpu : p ≠ unixSocket) :
    Sat (observer recordRound) anyReply Serves (processClient p)
      (fun s' w' _ => InTurn descriptor ps s' w') s w := by
  have hs := h.shape
  have hlive := hs.live p (Or.inr (Or.inl (h.remaining p (List.mem_cons_self ..))))
  obtain ⟨socket, hsocket⟩ := Option.ne_none_iff_exists'.mp hlive
  have hturn : hasTurn p (reventsOf s p) = (!socket.isDropped && socket.isReadAvailable) := by
    rw [reventsOf_of_some hsocket, hasTurn, beq_false_of_ne hpu, Bool.false_or]
    rfl
  have htelling : ∀ w', Quiet (observer recordRound) anyReply Serves (Touches p s) (Telling p)
      (· = w') :=
    aside_quiet (aside_of_telling p)
  let served : Round := { w with served := w.served ++ [p] }
  apply (sat_processClient_turn hsocket (hs.isSslSocket hpu hsocket) (htelling w)
    (htelling served) _ rfl).mono
  · rintro s' w' ok ⟨htouches, hw'⟩
    have hrecord : w'.due = w.due ∧ w'.ended = false ∧
        w'.served = w.served ++ if hasTurn p (reventsOf s p) then [p] else [] := by
      rw [hturn]
      split at hw'
      next hturned =>
        rw [hw', if_pos hturned]
        exact ⟨rfl, h.ended, rfl⟩
      next hpassed =>
        rw [hw', if_neg hpassed, List.append_nil]
        exact ⟨rfl, h.ended, rfl⟩
    exact h.next (hs.similar htouches.similar) htouches.similar.outputSocketsList
      (fun q _ hqp => htouches.others q hqp) (htouches.similar.descriptorOf p) hrecord.1
      hrecord.2.1 hrecord.2.2
  · intro hdropped hreadable buffer w' hw'
    rw [sat_ask_observer, hw']
    exact ⟨h.is_next (by rw [hturn, hdropped, hreadable]; rfl), fun r => rfl⟩

/-- An entry that has a turn has it, and every other one is passed over. -/
theorem turn_processReEvents (h : InTurn descriptor (p :: ps) s w) :
    Sat (observer recordRound) anyReply Serves (processReEvents unixSocket fuel p)
      (fun s' w' failed => if failed then Serves s' w' (.note .loopEnd)
        else InTurn descriptor ps s' w') s w := by
  have hp := h.remaining p (List.mem_cons_self ..)
  apply sat_processReEvents h.shape (h.shape.live p (Or.inr (Or.inl hp)))
  · rintro rfl
    exact turn_dispatcherProcess h
  · intro hpu
    apply (turn_processClient h hpu).mono
    intro s' w' ok hafter
    cases ok with
    | true => exact hafter
    | false => exact turn_delSocket hafter

/-- Without collected sockets nobody has a turn. -/
theorem serves_loopEnd_of_empty (hempty : s.outputSocketsList.sockets = []) :
    Serves s {} (.note .loopEnd) := by
  have hnone : roundTurns s {} = [] := by
    rw [roundTurns, hempty]
    rfl
  have hcollected : Collected s {} := by
    rw [Collected, hempty]
    rfl
  exact ⟨hcollected, List.nil_prefix, fun _ => hnone.symm⟩

/-- After a poll with events all collected sockets are to come, and otherwise there are
none. -/
theorem served_pollSockets (hs : Shape descriptor s) (hempty : s.outputSocketsList.sockets = []) :
    Sat (observer recordRound) anyReply Serves pollSockets (fun s' w' errorType =>
      match errorType with
      | .NONE => InTurn descriptor s'.outputSocketsList.sockets s' w'
      | .ERROR => Serves s' w' (.note .loopEnd)
      | _ => Shape descriptor s' ∧ Serves s' w' (.note .loopEnd)) s {} := by
  have hreset := hs.similar s.similar_reset
  have hnone : Serves s.reset {} (.note .loopEnd) :=
    serves_loopEnd_of_empty (s.similar_reset.outputSocketsList ▸ hempty)
  apply sat_pollSockets
  · intro _ w₁ _
    trivial
  · rw [sat_ask_observer]
    refine ⟨?_, fun r => ?_⟩
    · rw [Serves, pollInfo_fd hs.nodup, s.similar_reset.socketsList]
      exact List.map_congr_left fun p _ => (s.similar_reset.descriptorOf p).symm
    have hfailed : r.ret = -1 ∨ r.ret = 0 → recordRound {}
        (.poll (s.pollInfo s.socketsList.sockets) pollTimeout) r = {} := by
      intro hret
      rw [recordRound, returnedEvents, if_pos hret]
    refine ⟨fun hret _ => ?_, fun hret _ => ?_, fun hret => ?_, fun hne hne' => ?_⟩
    · rw [hfailed (Or.inl hret)]
      exact ⟨hreset, hnone⟩
    · rw [hfailed (Or.inl hret)]
      exact hnone
    · rw [hfailed (Or.inr hret)]
      exact ⟨hreset, hnone⟩
    · have hdue := due_polled hs hempty fun h => h.elim hne hne'
      refine ⟨hs.polled hempty r.revents, rfl, ?_, [], [], rfl, ?_, rfl, rfl⟩
      · rw [Collected, recordRound, hdue, List.map_map]
        rfl
      · rw [recordRound, hdue, List.map_map]
        rfl

/-- In a cycle everybody with a turn has it. -/
theorem serves_mainLoop (hs : Shape descriptor s) :
    Sat (observer recordRound) anyReply Serves (mainLoop unixSocket fuel cycles)
      (fun _ _ _ => True) s {} := by
  have hend : ∀ s w, Serves s w (.note .loopEnd) → ∀ Q : Memory → Round → Unit → Prop,
      Q s {} () → Sat (observer recordRound) anyReply Serves (note .loopEnd) Q s w := by
    intro s w hserves Q hQ
    rw [sat_note, sat_ask_observer]
    exact ⟨hserves, fun _ => hQ⟩
  apply sat_mainLoop (fun s w => Shape descriptor s ∧ w = {})
    (fun s w => (Shape descriptor s ∧ s.outputSocketsList.sockets = []) ∧ w = {})
    (fun s w => Shape descriptor s ∧ Serves s w (.note .loopEnd))
    (fun s w => Serves s w (.note .loopEnd)) (InTurn descriptor)
  · rintro s w ⟨hs, hw⟩
    have hquiet := aside_quiet (I := fun _ => True) (P := Aside) (fun _ hc => hc) {}
    apply (sat_prepare_live hs hquiet trivial (fun _ => trivial) hw).mono
    rintro s' w _ ⟨hprepared, hw⟩
    exact ⟨⟨hs.prepared hprepared, hprepared.output⟩, hw⟩
  · rintro s w ⟨⟨hs, hempty⟩, rfl⟩
    exact served_pollSockets hs hempty
  · exact fun p ps s w h => turn_processReEvents h
  · exact fun s w h => ⟨h.shape, h.done⟩
  · exact fun s w h => hend s w h.2 _ ⟨h.1, rfl⟩
  · exact fun s w h => hend s w h _ trivial
  · exact ⟨hs, rfl⟩

end MainLoop

/-- Between two polls the dispatcher gives every socket with a turn exactly one, in the
order of its list, and reads from nobody else.  Only a message of the listener that ends the
loop leaves the rest without theirs. -/
theorem serves_all (descriptor fuel cycles : Nat) :
    Safe (observer recordRound) anyReply Serves
      ⟨started descriptor, {}, mainLoop unixSocket fuel cycles⟩ :=
  Sat.safe (serves_mainLoop (shape_started descriptor))

end Mydisp

end SocketDispatcher
