import SocketDispatcher.Mylsnr.Shape

/-!
# Rules for the listener's functions

One specification for each function of the listener, for surroundings that are only
known to be quiet at the calls that do not matter.

Main results:

- Theorem {lit}`sat_sendToDispatchers`: the loop that sends a client.
- Theorem {lit}`sat_processClientConnection` and theorem
  {lit}`sat_processDispatcherConnection`: what becomes of an accepted descriptor.
- Theorem {lit}`sat_processSocket`: the three things an entry of the output list can
  mean.
- Theorems {lit}`sat_mainLoop` and {lit}`sat_main`: the invariant rules of the main
  loop and of the program.
- Theorem {lit}`forall_calm` and its like: which calls a class consists of.
-/

namespace SocketDispatcher

open Interaction

namespace Mylsnr

section Specs

variable {W A : Type} {K : Kernel W Call Reply A}
variable {H : Memory → W → Call → Reply → Prop} {G : Memory → W → Call → Prop}
variable {tcp unix : Int} {s : Memory} {w : W}

/-! ## Dispatcher processes -/

/-- The parent goes on after {lit}`fork`; the child is replaced by another program. -/
theorem sat_create_dispatcher {Q : Memory → W → Int → Prop}
    (hfork : Sat K H G (Program.ask .fork) (fun s w r =>
      (r.ret < 0 → Q s w (-1)) ∧ (0 < r.ret → Q s w 0) ∧
      (r.ret = 0 → Sat K H G (Program.ask .execl)
        (fun s w _ => ∀ w₁, K.Acts w w₁ → G s w₁ .crash) s w)) s w) :
    Sat K H G create_dispatcher Q s w := by
  rw [create_dispatcher, sat_bind]
  apply hfork.mono
  rintro s w r ⟨hneg, hpos, hzero⟩
  rw [sat_ite]
  split
  next hlt => exact hneg hlt
  next hlt =>
    rw [sat_ite]
    split
    next heq =>
      rw [sat_bind]
      exact (hzero heq).mono fun s w _ hcrash => sat_crash hcrash
    next hne => exact hpos (by omega)

/-- A dispatcher is started when {lit}`waitpid` reports a child. -/
theorem sat_restartDispatcher {Q : Memory → W → Unit → Prop}
    (hwait : Sat K H G (Program.ask .waitpid) (fun s w pid =>
      (pid.ret ≤ 0 → Q s w ()) ∧
      (0 < pid.ret → Sat K H G create_dispatcher (fun s w _ => Q s w ()) s w)) s w) :
    Sat K H G restartDispatcher Q s w := by
  rw [restartDispatcher, sat_bind, wait_disp_child, sat_bind]
  apply hwait.mono
  rintro s w pid ⟨hnone, hsome⟩
  rw [sat_ite]
  split
  next herr =>
    rw [sat_pure, sat_when, if_neg (by decide)]
    exact hnone (by omega)
  next herr =>
    rw [sat_ite]
    split
    next hpos =>
      rw [sat_pure, sat_when, if_pos (by simpa using hpos), sat_bind]
      exact hsome hpos
    next hpos =>
      rw [sat_pure, sat_when, if_neg (by decide)]
      exact hnone (by omega)

/-- The calls that start and reap dispatchers. -/
def Forking : Call → Prop
  | .fork | .execl | .waitpid | .crash => True
  | _ => False

theorem forall_forking {Q : Call → Prop} (hfork : Q .fork) (hexecl : Q .execl)
    (hwaitpid : Q .waitpid) (hcrash : Q .crash) : ∀ c, Forking c → Q c := by
  intro c
  fun_cases Forking c <;> simp [*]

theorem within_create_dispatcher {I : Memory → Prop} : Within I Forking create_dispatcher := by
  refine within_bind (within_ask trivial) fun r => within_ite (within_pure _) ?_
  refine within_ite (within_bind (within_ask trivial) fun _ => ?_) (within_pure _)
  exact within_crash trivial

theorem within_wait_disp_child {I : Memory → Prop} : Within I Forking wait_disp_child :=
  within_bind (within_ask trivial) fun _ =>
    within_ite (within_pure _) (within_ite (within_pure _) (within_pure _))

theorem within_restartDispatcher {I : Memory → Prop} :
    Within I Forking restartDispatcher :=
  within_bind within_wait_disp_child fun _ =>
    within_when (within_bind within_create_dispatcher fun _ => within_pure _)

/-! ## Clients -/

/-- Sending a client touches nothing but the control buffer.  If that is to be allocated and
cannot be, nothing is sent. -/
theorem sat_sendSocket_alloc {sender toSend : Ptr} {dispatcher client : Socket} (J J' : W → Prop)
    (hsender : s.heap sender = some dispatcher) (htoSend : s.heap toSend = some client)
    (hd : 0 ≤ client.descriptor)
    (hnote : Sat K H G (note (.sendSocket sender toSend)) (fun _ w _ => J w) s w)
    (hmalloc : s.sendCmptr = none → ∀ w, J w → Sat K H G (Program.ask .malloc)
      (fun _ w r => (r.data = none → J' w) ∧ (r.data ≠ none → J w)) s w)
    (hsend : ∀ content w, J w → Sat K H G
      (Program.ask (.sendmsg dispatcher.descriptor [0, 0] (some client.descriptor)))
      (fun _ w _ => J' w) { s with sendCmptr := content } w) :
    Sat K H G (sendSocket sender toSend)
      (fun s' w _ => (∃ content, s' = { s with sendCmptr := content }) ∧ J' w) s w := by
  rw [sendSocket, sat_bind, sat_deref_of_some hsender, sat_bind, sat_deref_of_some htoSend,
    sat_bind]
  apply sat_note_mono hnote
  intro w hJ
  have hsent : ∀ m w, (∃ content, m = { s with sendCmptr := content }) → J w →
      Sat K H G (do
        modify fun m : Memory => { m with sendCmptr := some client.descriptor }
        let r ← Program.ask
          (.sendmsg dispatcher.descriptor [0, 0] (some client.descriptor))
        pure (r.ret == 2))
        (fun s' w _ => (∃ content, s' = { s with sendCmptr := content }) ∧ J' w) m w := by
    rintro _ w ⟨content, rfl⟩ hJ
    rw [sat_bind, sat_modify, sat_bind]
    apply (hsend (some client.descriptor) w hJ).ask_mono
    intro w _ hJ'
    exact ⟨⟨_, rfl⟩, hJ'⟩
  rw [sat_ite, if_neg (by omega), sat_bind, allocSendControl, sat_bind, sat_get]
  split
  next content hcontent =>
    rw [sat_pure, sat_ite, if_pos rfl]
    exact hsent s w ⟨s.sendCmptr, rfl⟩ hJ
  next hnone =>
    rw [sat_bind]
    apply (hmalloc hnone w hJ).ask_mono
    rintro w r ⟨hfailed, hallocated⟩
    split
    next hdata =>
      rw [sat_pure, sat_ite, if_neg (by decide)]
      exact ⟨⟨s.sendCmptr, rfl⟩, hfailed hdata⟩
    next content hdata =>
      rw [sat_bind, sat_modify, sat_pure, sat_ite, if_pos rfl]
      exact hsent _ w ⟨some content, rfl⟩ (hallocated (by simp [hdata]))

/-- The same where it does not matter whether the buffer could be allocated. -/
theorem sat_sendSocket {sender toSend : Ptr} {dispatcher client : Socket} (J J' : W → Prop)
    (hsender : s.heap sender = some dispatcher) (htoSend : s.heap toSend = some client)
    (hd : 0 ≤ client.descriptor)
    (hnote : Sat K H G (note (.sendSocket sender toSend)) (fun _ w _ => J w) s w)
    (hmalloc : ∀ w, J w → Sat K H G (Program.ask .malloc) (fun _ w _ => J w) s w)
    (hsend : ∀ content w, J w → Sat K H G
      (Program.ask (.sendmsg dispatcher.descriptor [0, 0] (some client.descriptor)))
      (fun _ w _ => J' w) { s with sendCmptr := content } w)
    (hfail : ∀ w, J w → J' w) :
    Sat K H G (sendSocket sender toSend)
      (fun s' w _ => (∃ content, s' = { s with sendCmptr := content }) ∧ J' w) s w := by
  apply sat_sendSocket_alloc J J' hsender htoSend hd hnote _ hsend
  intro _ w hJ
  exact (hmalloc w hJ).mono fun _ w _ hJ => ⟨fun _ => hfail w hJ, fun _ => hJ⟩

/-- The loop that sends a client to the listed dispatchers.  The invariant may speak
about the entries still to come. -/
theorem sat_sendToDispatchers {c : Ptr} (Inv : List Ptr → W → Prop)
    (hlive : ∀ p ∈ s.socketsList.sockets, s.heap p ≠ none)
    (hskip : ∀ p ps w socket, s.heap p = some socket → socket.isDispatcher = false →
      Inv (p :: ps) w → Inv ps w)
    (hsend : ∀ p ps content w socket, p ∈ s.socketsList.sockets →
      s.heap p = some socket → socket.isDispatcher = true → Inv (p :: ps) w →
      Sat K H G (sendSocket p c)
        (fun s' w _ => (∃ content, s' = { s with sendCmptr := content }) ∧ Inv ps w)
        { s with sendCmptr := content } w)
    (hinit : Inv s.socketsList.sockets w) :
    Sat K H G (Program.forEach s.socketsList.sockets (sendToDispatcher c))
      (fun s' w _ => (∃ content, s' = { s with sendCmptr := content }) ∧ Inv [] w) s w := by
  apply (sat_forEach (fun ps s' w => (∃ content, s' = { s with sendCmptr := content }) ∧
    (∀ p ∈ ps, p ∈ s.socketsList.sockets) ∧ Inv ps w) _ _
    ⟨⟨s.sendCmptr, rfl⟩, fun _ hp => hp, hinit⟩).mono
  · rintro s' w _ ⟨hcontent, -, hinv⟩
    exact ⟨hcontent, hinv⟩
  · rintro p ps _ w ⟨⟨content, rfl⟩, hlisted, hinv⟩
    have hp := hlisted p (List.mem_cons_self ..)
    have htail : ∀ q ∈ ps, q ∈ s.socketsList.sockets :=
      fun q hq => hlisted q (List.mem_cons_of_mem p hq)
    rw [sendToDispatcher, sat_bind]
    apply sat_deref
    · exact fun hnone => absurd hnone (hlive p hp)
    · intro socket hsocket
      rw [sat_when]
      split
      next hdispatcher =>
        rw [sat_bind]
        apply (hsend p ps content w socket hp hsocket hdispatcher hinv).mono
        rintro s' w _ ⟨hcontent, hinv⟩
        exact ⟨hcontent, htail, hinv⟩
      next hdispatcher =>
        exact ⟨⟨content, rfl⟩, htail, hskip p ps w socket hsocket (by simpa using hdispatcher) hinv⟩

/-- The calls that send a client. -/
def Sending : Call → Prop
  | .malloc | .sendmsg .. | .crash | .note (.sendSocket ..) => True
  | _ => False

theorem forall_sending {Q : Call → Prop} (hmalloc : Q .malloc)
    (hsendmsg : ∀ fd bytes control, Q (.sendmsg fd bytes control)) (hcrash : Q .crash)
    (hnote : ∀ p q, Q (.note (.sendSocket p q))) : ∀ c, Sending c → Q c := by
  intro c
  fun_cases Sending c <;> simp [*]

/-- Sending a client touches nothing but the control buffer, whatever it is sent to. -/
theorem within_sendToDispatcher {I : Memory → Prop}
    (hcontent : ∀ s content, I s → I { s with sendCmptr := content }) (c p : Ptr) :
    Within I Sending (sendToDispatcher c p) := by
  have halloc : Within I Sending allocSendControl := by
    refine within_get_bind fun s hs => ?_
    cases s.sendCmptr with
    | some _ => exact within_pure _
    | none =>
        refine within_bind (within_ask trivial) fun r => ?_
        cases r.data with
        | none => exact within_pure _
        | some content =>
            exact within_bind (within_modify fun s hs => hcontent s _ hs) fun _ => within_pure _
  refine within_deref_bind trivial fun _ _ _ _ => within_when ?_
  refine within_bind ?_ fun _ => within_pure _
  refine within_deref_bind trivial fun _ sender _ _ => ?_
  refine within_deref_bind trivial fun _ toSend _ _ => ?_
  refine within_bind (within_note trivial) fun _ => within_ite ?_ ?_
  · exact within_bind (within_ask trivial) fun _ => within_pure _
  · refine within_bind halloc fun _ => within_ite ?_ (within_pure _)
    refine within_bind (within_modify fun s hs => hcontent s _ hs) fun _ => ?_
    exact within_bind (within_ask trivial) fun _ => within_pure _

theorem within_sendToDispatchers (client : Memory) (c : Ptr) (ps : List Ptr) :
    Within (fun s' => ∃ content, s' = { client with sendCmptr := content }) Sending
      (Program.forEach ps (sendToDispatcher c)) := by
  apply within_forEach
  apply within_sendToDispatcher
  rintro _ content ⟨_, rfl⟩
  exact ⟨content, rfl⟩

/-- An accepted client is sent to the dispatchers and then closed, unless its
handshake fails. -/
theorem sat_processClientConnection {Q : Memory → W → Bool → Prop} (hs : Shape tcp unix s)
    (haccept : Sat K H G (Program.ask (.accept tcp)) (fun _ w newfd =>
      (newfd.ret < 0 → Q s w false) ∧
      ∀ hd : 0 ≤ newfd.ret,
        Sat K H G (Program.ask (.sslAccept newfd.ret)) (fun _ w r =>
          (r.ret ≤ 0 → Q s w false) ∧
          (0 < r.ret → Sat K H G
            (Program.forEach s.socketsList.sockets (sendToDispatcher s.next))
            (fun s' w _ => ∃ content,
              s' = { s.alloc (connection newfd.ret hd .SSL) with sendCmptr := content } ∧
              Sat K H G (Program.ask (.close newfd.ret))
                (fun _ w _ => Q (attend s content) w true) (attend s content) w)
            (s.alloc (connection newfd.ret hd .SSL)) w)) s w) s w) :
    Sat K H G (processClientConnection tcpListenerSocket) Q s w := by
  rcases hs.tcp with ⟨socket, hsocket, hid⟩
  have hcls : socket.cls = .tcpSslListenerSocket := congrArg (·.1) hid
  have hdescriptor : socket.descriptor = tcp := congrArg (·.2.2.1) hid
  rw [processClientConnection, sat_bind, acceptConnection, sat_bind,
    sat_deref_of_some hsocket, hcls, hdescriptor]
  dsimp only
  rw [acceptSslConnection, sat_bind]
  apply haccept.ask_mono
  rintro w newfd ⟨hneg, hnonneg⟩
  rw [sat_ite]
  split
  next hlt =>
    rw [sat_pure, sat_ite, if_pos rfl]
    exact hneg hlt
  next hlt =>
    have hd : 0 ≤ newfd.ret := by omega
    rw [sat_bind]
    apply (hnonneg hd).ask_mono
    rintro w r ⟨hfailed, hdone⟩
    rw [sat_ite]
    split
    next hle =>
      rw [sat_pure, sat_ite, if_pos rfl]
      exact hfailed hle
    next hle =>
      rw [acceptedSocket, dif_neg hlt, sat_makeShared, sat_ite, if_neg hs.next_ne_nullptr,
        sat_bind, sat_get, sat_bind]
      apply (hdone (by omega)).mono
      rintro _ w _ ⟨content, rfl, hclose⟩
      rw [sat_bind]
      have hobject : ({ s.alloc (connection newfd.ret hd .SSL) with
          sendCmptr := content } : Memory).heap s.next = some (connection newfd.ret hd .SSL) := by
        simp
      apply sat_release_last hobject (hs.not_referenced (Nat.le_refl _))
      · intro hprotected
        contradiction
      · intro _
        rw [hs.erase_alloc]
        exact hclose

/-! ## Connections of dispatchers -/

/-- The calls that greet a dispatcher. -/
def Greeting : Call → Prop
  | .write .. | .getpid | .crash | .note (.putSocket ..) => True
  | _ => False

theorem forall_greeting {Q : Call → Prop} (hwrite : ∀ fd bytes, Q (.write fd bytes))
    (hgetpid : Q .getpid) (hcrash : Q .crash)
    (hnote : ∀ p d stored, Q (.note (.putSocket p d stored))) : ∀ c, Greeting c → Q c := by
  intro c
  fun_cases Greeting c <;> simp [*]

section Config

-- only its length is compared, and that must not be computed
attribute [local irreducible] configText

theorem within_sendConfig {I : Memory → Prop} (descriptor : Int) :
    Within I Greeting (sendConfig descriptor) := by
  refine within_bind (within_ask trivial) fun label => within_ite (within_pure _) ?_
  refine within_bind (within_ask trivial) fun pid => within_get_bind fun m _ => ?_
  refine within_ite ?_ (within_crash trivial)
  exact within_bind (within_ask trivial) fun text => within_pure _

/-- The configuration follows its label, unless it is too long for the buffer. -/
theorem sat_sendConfig_fits {d : Int} {Q : Memory → W → Bool → Prop}
    (hlabel : Sat K H G (Program.ask (.write d configLabel)) (fun _ w label =>
      (label.ret < 0 → Q s w false) ∧
      (0 ≤ label.ret → Sat K H G (Program.ask .getpid) (fun _ w pid =>
        (4096 ≤ (configText pid.ret s.appCfg).length → ∀ w₁, K.Acts w w₁ → G s w₁ .crash) ∧
        ((configText pid.ret s.appCfg).length < 4096 →
          Sat K H G (Program.ask (.write d (configText pid.ret s.appCfg)))
            (fun _ w text => Q s w (!decide (text.ret < 0))) s w)) s w)) s w) :
    Sat K H G (sendConfig d) Q s w := by
  rw [sendConfig, sat_bind]
  apply hlabel.ask_mono
  rintro w label ⟨hneg, hnonneg⟩
  rw [sat_ite]
  split
  next hlt => exact hneg hlt
  next hlt =>
    rw [sat_bind]
    apply (hnonneg (by omega)).ask_mono
    rintro w pid ⟨hcrash, htext⟩
    rw [sat_bind, sat_get, sat_ite]
    split
    next hfits =>
      rw [sat_bind]
      exact (htext hfits).ask_mono fun w text hQ => hQ
    next hlong => exact sat_crash (hcrash (Nat.not_lt.mp hlong))

/-- The same where a crash is harmless. -/
theorem sat_sendConfig {d : Int} {Q : Memory → W → Bool → Prop}
    (hlabel : Sat K H G (Program.ask (.write d configLabel)) (fun _ w label =>
      (label.ret < 0 → Q s w false) ∧
      (0 ≤ label.ret → Sat K H G (Program.ask .getpid) (fun _ w pid =>
        (∀ w₁, K.Acts w w₁ → G s w₁ .crash) ∧
        Sat K H G (Program.ask (.write d (configText pid.ret s.appCfg)))
          (fun _ w text => Q s w (!decide (text.ret < 0))) s w) s w)) s w) :
    Sat K H G (sendConfig d) Q s w := by
  apply sat_sendConfig_fits
  apply hlabel.ask_mono
  rintro w label ⟨hneg, hnonneg⟩
  refine ⟨hneg, fun hlabel => ?_⟩
  apply (hnonneg hlabel).ask_mono
  rintro w pid ⟨hcrash, htext⟩
  exact ⟨fun _ => hcrash, fun _ => htext⟩

end Config

/-- An accepted dispatcher joins the list, or it is closed if the list is full.
{lit}`Accepted` holds until the list has been tried, {lit}`Joined` until the configuration
is sent, and {lit}`Greeted` afterwards. -/
theorem sat_greetDispatcher {Q : Memory → W → Bool → Prop}
    (hs : Shape tcp unix s) (Accepted Joined Greeted : Memory → W → Prop)
    (hnote : ∀ d hd w, Accepted (connect s d hd) w →
      Sat K H G (note (.putSocket s.next d (s.socketsList.putSocket s.next).2))
        (fun _ w _ => Joined (connect s d hd) w) (connect s d hd) w)
    (hconfig : ∀ d hd w, Joined (connect s d hd) w → Sat K H G (sendConfig d)
      (fun s' w _ => s' = connect s d hd ∧ Greeted (connect s d hd) w) (connect s d hd) w)
    (haccept : Sat K H G (Program.ask (.accept unix)) (fun _ w newfd =>
      (newfd.ret < 0 → Q s w false) ∧
      ∀ hd : 0 ≤ newfd.ret, Accepted (connect s newfd.ret hd) w) s w)
    (hjoined : ∀ d hd w sent, s.socketsList.sockets.length < MAX_SOCKETS →
      Greeted (connect s d hd) w → Q (connect s d hd) w sent)
    (hrefused : ∀ d hd w sent, s.socketsList.sockets.length = MAX_SOCKETS →
      Greeted (connect s d hd) w →
      Sat K H G (Program.ask (.close d)) (fun _ w _ => Q (attend s s.sendCmptr) w sent)
        (attend s s.sendCmptr) w) :
    Sat K H G (processDispatcherConnection unixListenerSocket) Q s w := by
  rcases hs.unix with ⟨socket, hsocket, hid⟩
  have hcls : socket.cls = .unixListenerSocket := congrArg (·.1) hid
  have hdescriptor : socket.descriptor = unix := congrArg (·.2.2.1) hid
  rw [processDispatcherConnection, sat_bind, acceptConnection, sat_bind,
    sat_deref_of_some hsocket, hcls, hdescriptor]
  dsimp only
  rw [acceptPlainConnection, sat_bind]
  apply haccept.ask_mono
  rintro w newfd ⟨hneg, hnonneg⟩
  by_cases hlt : newfd.ret < 0
  · rw [acceptedSocket, dif_pos hlt, sat_pure, sat_ite, if_pos rfl]
    exact hneg hlt
  · have hd : 0 ≤ newfd.ret := by omega
    rw [acceptedSocket, dif_neg hlt, sat_makeShared, sat_ite, if_neg hs.next_ne_nullptr,
      sat_bind, putSocket, sat_bind, sat_get, sat_bind, sat_set, sat_bind]
    -- the list after the attempt, and the object, whether or not it was stored
    have hobject : (connect s newfd.ret hd).heap s.next =
        some (connection newfd.ret hd .UNIX) := by
      simp [connect]
    have hdescriptor : (connect s newfd.ret hd).descriptorOf s.next = newfd.ret := by
      rw [Memory.descriptorOf, hobject]
      rfl
    change Sat K H G (note (.putSocket s.next ((connect s newfd.ret hd).descriptorOf s.next) _))
      _ (connect s newfd.ret hd) w
    rw [hdescriptor]
    have hnoted := hnote _ hd w (hnonneg hd)
    cases hput : (s.socketsList.putSocket s.next).2 with
    | true =>
        have hlength := (SocketsList.putSocket_eq_true_iff _ _).mp hput
        rw [hs.maxSize] at hlength
        apply sat_note_mono hnoted
        intro w hinv
        rw [sat_pure, sat_bind, sat_deref_of_some hobject, sat_bind]
        apply (hconfig _ hd w hinv).mono
        rintro _ w sent ⟨rfl, hinv⟩
        rw [sat_bind]
        have hlisted : (connect s newfd.ret hd).Referenced s.next :=
          Or.inl (SocketsList.mem_putSocket_self hput)
        exact sat_release_referenced hlisted (hjoined _ hd w sent hlength hinv)
    | false =>
        have hlength : s.socketsList.sockets.length = MAX_SOCKETS := by
          have hbounded := s.socketsList.bounded
          have hnot : ¬s.socketsList.sockets.length < s.socketsList.maxSize := by
            rw [← SocketsList.putSocket_eq_true_iff _ s.next, hput]
            decide
          rw [hs.maxSize] at hbounded hnot
          omega
        have hmemory := hs.connect_of_full hd hlength
        apply sat_note_mono hnoted
        intro w hinv
        rw [sat_pure, sat_bind, sat_deref_of_some hobject, sat_bind]
        apply (hconfig _ hd w hinv).mono
        rintro _ w sent ⟨rfl, hinv⟩
        rw [sat_bind]
        have hclose := hrefused _ hd w sent hlength hinv
        rw [hmemory] at hobject ⊢
        have hgone : ¬(s.alloc (connection newfd.ret hd .UNIX)).Referenced s.next :=
          hs.not_referenced (Nat.le_refl _)
        apply sat_release_last hobject hgone
        · intro hprotected
          contradiction
        · intro _
          rw [← hs.erase_alloc (connection newfd.ret hd .UNIX) s.sendCmptr] at hclose
          exact hclose

/-- The same where sending the configuration keeps the invariant. -/
theorem sat_acceptDispatcher {Q : Memory → W → Bool → Prop}
    (hs : Shape tcp unix s) (Inv : Memory → W → Prop)
    (hnote : ∀ d hd descriptor stored w, Inv (connect s d hd) w →
      Sat K H G (note (.putSocket s.next descriptor stored))
        (fun _ w _ => Inv (connect s d hd) w) (connect s d hd) w)
    (hconfig : ∀ d hd w, Inv (connect s d hd) w →
      Sat K H G (sendConfig d) (fun s' w _ => s' = connect s d hd ∧ Inv (connect s d hd) w)
        (connect s d hd) w)
    (haccept : Sat K H G (Program.ask (.accept unix)) (fun _ w newfd =>
      (newfd.ret < 0 → Q s w false) ∧
      ∀ hd : 0 ≤ newfd.ret, Inv (connect s newfd.ret hd) w) s w)
    (hjoined : ∀ d hd w sent, s.socketsList.sockets.length < MAX_SOCKETS →
      Inv (connect s d hd) w → Q (connect s d hd) w sent)
    (hrefused : ∀ d hd w sent, s.socketsList.sockets.length = MAX_SOCKETS →
      Inv (connect s d hd) w →
      Sat K H G (Program.ask (.close d)) (fun _ w _ => Q (attend s s.sendCmptr) w sent)
        (attend s s.sendCmptr) w) :
    Sat K H G (processDispatcherConnection unixListenerSocket) Q s w :=
  sat_greetDispatcher hs Inv Inv Inv (fun d hd => hnote d hd d _) hconfig haccept hjoined hrefused

/-- The same where greeting a dispatcher is quiet. -/
theorem sat_processDispatcherConnection {Q : Memory → W → Bool → Prop}
    (hs : Shape tcp unix s) (Inv : Memory → W → Prop)
    (hquiet : ∀ s, Quiet K H G (· = s) Greeting (Inv s))
    (haccept : Sat K H G (Program.ask (.accept unix)) (fun _ w newfd =>
      (newfd.ret < 0 → Q s w false) ∧
      ∀ hd : 0 ≤ newfd.ret, Inv (connect s newfd.ret hd) w) s w)
    (hjoined : ∀ d hd w sent, s.socketsList.sockets.length < MAX_SOCKETS →
      Inv (connect s d hd) w → Q (connect s d hd) w sent)
    (hrefused : ∀ d hd w sent, s.socketsList.sockets.length = MAX_SOCKETS →
      Inv (connect s d hd) w →
      Sat K H G (Program.ask (.close d)) (fun _ w _ => Q (attend s s.sendCmptr) w sent)
        (attend s s.sendCmptr) w) :
    Sat K H G (processDispatcherConnection unixListenerSocket) Q s w := by
  apply sat_acceptDispatcher hs Inv _ _ haccept hjoined hrefused
  · intro d hd descriptor stored w hinv
    exact sat_note_quiet (hquiet _) (by trivial) rfl hinv fun _ hinv => hinv
  · intro d hd w hinv
    exact (within_sendConfig d).sat (hquiet _) rfl hinv

/-- The calls that a connection can lead to. -/
def Connecting : Call → Prop
  | .accept _ | .sslAccept _ | .close _ | .malloc | .sendmsg .. | .write .. | .getpid
  | .crash | .note (.sendSocket ..) | .note (.putSocket ..) => True
  | _ => False

theorem connecting_of_sending : ∀ c, Sending c → Connecting c := by
  apply forall_sending <;> intros <;> trivial

theorem connecting_of_greeting : ∀ c, Greeting c → Connecting c := by
  apply forall_greeting <;> intros <;> trivial

section Quiet

variable {P : Call → Prop} {J : W → Prop} (hs : Shape tcp unix s)
  (hquiet : Quiet K H G (fun _ => True) P J) (hP : ∀ c, Connecting c → P c) (hJ : J w)
include hs hquiet hP hJ

/-- Where such calls are quiet, a client is gone again in the end. -/
theorem sat_processClientConnection_quiet :
    Sat K H G (processClientConnection tcpListenerSocket) (fun s' w' _ =>
      (s' = s ∨ ∃ content, s' = attend s content) ∧ J w') s w := by
  have hask : ∀ {c}, P c → ∀ {m v} {Q : Memory → W → Reply → Prop}, J v →
      (∀ r v, J v → Q m v r) → Sat K H G (Program.ask c) Q m v :=
    fun hc _ _ _ hv hQ => sat_ask_quiet hquiet hc trivial hv hQ
  apply sat_processClientConnection hs
  refine hask (hP _ (by trivial)) hJ fun newfd w hJ => ?_
  refine ⟨fun _ => ⟨Or.inl rfl, hJ⟩, fun hd => ?_⟩
  refine hask (hP _ (by trivial)) hJ fun r w hJ => ?_
  refine ⟨fun _ => ⟨Or.inl rfl, hJ⟩, fun _ => ?_⟩
  let client := s.alloc (connection newfd.ret hd .SSL)
  have hsend := within_sendToDispatchers client s.next s.socketsList.sockets
  have hsending : Quiet K H G (fun s' => ∃ content, s' = { client with sendCmptr := content })
      Sending J :=
    hquiet.mono (fun _ _ => trivial) fun c hc => hP c (connecting_of_sending c hc)
  apply (hsend.sat hsending ⟨client.sendCmptr, rfl⟩ hJ).mono
  rintro s' w _ ⟨⟨content, rfl⟩, hJ⟩
  refine ⟨content, rfl, ?_⟩
  exact hask (hP _ (by trivial)) hJ fun _ _ hJ => ⟨Or.inr ⟨content, rfl⟩, hJ⟩

/-- Where such calls are quiet, a dispatcher joins the list or is gone again. -/
theorem sat_processDispatcherConnection_quiet :
    Sat K H G (processDispatcherConnection unixListenerSocket) (fun s' w' _ =>
      (s' = s ∨ (∃ content, s' = attend s content) ∨ ∃ d hd, s' = connect s d hd) ∧ J w')
      s w := by
  apply sat_processDispatcherConnection hs fun _ w => J w
  · intro m
    exact hquiet.mono (fun _ _ => trivial) fun c hc => hP c (connecting_of_greeting c hc)
  · exact sat_ask_quiet hquiet (hP _ (by trivial)) trivial hJ fun _ _ hJ =>
      ⟨fun _ => ⟨Or.inl rfl, hJ⟩, fun _ => hJ⟩
  · exact fun d hd _ _ _ hJ => ⟨Or.inr (Or.inr ⟨d, hd, rfl⟩), hJ⟩
  · exact fun d hd _ _ _ hJ => sat_ask_quiet hquiet (hP _ (by trivial)) trivial hJ
      fun _ _ hJ => ⟨Or.inr (Or.inl ⟨_, rfl⟩), hJ⟩

end Quiet

/-! ## Entries of the output list -/

/-- An entry of the output list is removed, or it is a listening socket, or it is left
alone. -/
theorem sat_processSocket {p : Ptr} {Q : Memory → W → Unit → Prop} (hs : Shape tcp unix s)
    (hlive : s.heap p ≠ none)
    (hdropped : ∀ socket, s.heap p = some socket → socket.isDropped = true →
      Sat K H G (delSocket p) (fun s w _ => Q s w ()) s w)
    (hclient : p = tcpListenerSocket →
      Sat K H G (processClientConnection tcpListenerSocket) (fun s w _ => Q s w ()) s w)
    (hdispatcher : p = unixListenerSocket →
      Sat K H G (processDispatcherConnection unixListenerSocket) (fun s w _ => Q s w ()) s w)
    (hother : Q s w ()) : Sat K H G (processSocket p) Q s w := by
  rw [processSocket, sat_bind]
  apply sat_deref
  · exact fun hnone => absurd hnone hlive
  · intro socket hsocket
    rw [sat_ite]
    split
    next hdrop =>
      rw [sat_bind]
      exact hdropped socket hsocket hdrop
    next =>
      rw [sat_ite]
      split
      next htcp =>
        have hp : p = tcpListenerSocket := by
          by_contra hne
          by_cases hp' : p = unixListenerSocket
          · subst hp'
            have htype : socket.socketType = .UNIX :=
              congrArg (·.2.2.2.1) (hs.unix_identity hsocket)
            rw [htype] at htcp
            exact absurd htcp.1 (by decide)
          · have hlisten : socket.listenSocket = false :=
              congrArg (·.2.2.2.2) (hs.dispatcher p socket hne hp' hsocket)
            rw [hlisten] at htcp
            exact absurd htcp.2 (by decide)
        rw [sat_bind, hp]
        exact hclient hp
      next =>
        rw [sat_ite]
        split
        next hunix =>
          have hp : p = unixListenerSocket := by
            by_contra hne
            by_cases hp' : p = tcpListenerSocket
            · subst hp'
              have htype : socket.socketType = .TCP :=
                congrArg (·.2.2.2.1) (hs.tcp_identity hsocket)
              rw [htype] at hunix
              exact absurd hunix.1 (by decide)
            · have hlisten : socket.listenSocket = false :=
                congrArg (·.2.2.2.2) (hs.dispatcher p socket hp' hne hsocket)
              rw [hlisten] at hunix
              exact absurd hunix.2 (by decide)
          rw [sat_bind, hp]
          exact hdispatcher hp
        next => exact hother

/-! ## The main loop -/

/-- The part of an iteration before the poll. -/
def prepare : Proc Unit := do
  note .loopHead
  clearOutput
  let m ← get
  Program.forEach m.socketsList.sockets pollForRead

/-- Asking live sockets for read events changes nothing else. -/
theorem sat_pollForReads {ps : List Ptr} (hlive : ∀ p ∈ ps, s.heap p ≠ none) :
    Sat K H G (Program.forEach ps pollForRead) (fun s' w' _ => s.Asks s' ∧ w' = w) s w := by
  apply (sat_forEach (fun ps s' w' => (∀ p ∈ ps, s.heap p ≠ none) ∧ s.Asks s' ∧ w' = w) _ ps
    ⟨hlive, Memory.Asks.refl s, rfl⟩).mono
  · exact fun s' w' _ h => h.2
  · rintro p ps s' _ ⟨hlive, hasks, rfl⟩
    have hp : s'.heap p ≠ none := fun hnone =>
      hlive p (List.mem_cons_self ..) ((hasks.similar.heap_eq_none_iff p).mp hnone)
    rw [pollForRead, sat_bind]
    apply sat_deref
    · exact fun hnone => absurd hnone hp
    · intro socket _
      exact ⟨fun q hq => hlive q (List.mem_cons_of_mem p hq),
        hasks.trans (s'.asks_modifySocket p POLLIN), rfl⟩

/-- Where closing is quiet, so is the part of an iteration before the poll. -/
theorem sat_prepare_quiet {P : Call → Prop} {J : W → Prop} (hs : Shape tcp unix s)
    (hquiet : Quiet K H G (fun _ => True) P J) (hhead : P (.note .loopHead))
    (hclose : ∀ d, P (.close d)) (hJ : J w) :
    Sat K H G prepare (fun s' w' _ => Prepared s s' ∧ J w') s w := by
  rw [prepare, sat_bind]
  refine sat_note_quiet hquiet hhead trivial hJ fun w hJ => ?_
  rw [sat_bind]
  refine (sat_clearOutput_quiet hquiet hclose hJ).mono ?_
  rintro s₂ w _ ⟨hpruned, hJ⟩
  rw [sat_bind, sat_get]
  have hs₂ := hs.clearOutput.pruned hpruned
  apply (sat_pollForReads fun p hp => hs₂.live p (Or.inl hp)).mono
  rintro s' _ _ ⟨hreads, rfl⟩
  exact ⟨⟨s, s₂, Memory.Asks.refl s, hpruned, hreads⟩, hJ⟩

/-- The loop that asks the listed dispatchers to exit.  The invariant may speak about the
entries still to come. -/
theorem sat_sayGoodbye (Inv : List Ptr → W → Prop) (hs : Shape tcp unix s)
    (hskip : ∀ p ps w socket, s.heap p = some socket → socket.isDispatcher = false →
      Inv (p :: ps) w → Inv ps w)
    (hwrite : ∀ p ps w socket, p ∈ s.socketsList.sockets → s.heap p = some socket →
      socket.isDispatcher = true → Inv (p :: ps) w →
      Sat K H G (Program.ask (.write socket.descriptor exitMessage)) (fun _ w _ => Inv ps w) s w)
    (hinit : Inv s.socketsList.sockets w) :
    Sat K H G sayGoodbyeToAllDispatchers (fun s' w' _ => s' = s ∧ Inv [] w') s w := by
  rw [sayGoodbyeToAllDispatchers, sat_bind, sat_get]
  apply (sat_forEach (fun ps s' w' =>
    (∀ p ∈ ps, p ∈ s.socketsList.sockets) ∧ s' = s ∧ Inv ps w') _
    s.socketsList.sockets ⟨fun p hp => hp, rfl, hinit⟩).mono
  · exact fun s' w' _ h => h.2
  · rintro p ps s' w' ⟨hlisted, hs', hinv⟩
    subst hs'
    have hp := hlisted p (List.mem_cons_self ..)
    have htail : ∀ q ∈ ps, q ∈ s'.socketsList.sockets :=
      fun q hq => hlisted q (List.mem_cons_of_mem p hq)
    rw [sayGoodbye, sat_bind]
    apply sat_deref
    · exact fun hnone => absurd hnone (hs.live p (Or.inl hp))
    · intro socket hsocket
      rw [sat_when]
      split
      next hyes =>
        rw [sat_bind]
        exact (hwrite p ps w' socket hp hsocket hyes hinv).ask_mono
          fun w _ hinv => ⟨htail, rfl, hinv⟩
      next hno => exact ⟨htail, rfl, hskip p ps w' socket hsocket (by simpa using hno) hinv⟩

/-- Where writing is quiet, so is saying goodbye. -/
theorem sat_sayGoodbye_quiet {P : Call → Prop} {J : W → Prop} (hs : Shape tcp unix s)
    (hquiet : Quiet K H G (· = s) P J) (hwrite : ∀ d bytes, P (.write d bytes)) (hJ : J w) :
    Sat K H G sayGoodbyeToAllDispatchers (fun s' w' _ => s' = s ∧ J w') s w :=
  sat_sayGoodbye (fun _ w => J w) hs (fun _ _ _ _ _ _ hJ => hJ)
    (fun _ _ _ _ _ _ _ hJ => sat_ask_quiet hquiet (hwrite _ _) rfl hJ fun _ _ hJ => hJ) hJ

/-- Invariant rule of the main loop.  {lit}`Head` holds at the loop condition,
{lit}`Body` once it has been passed, {lit}`Ready` before the poll, {lit}`Todo` while the
given entries of the output list are still to be handled, {lit}`Late` after a timeout,
{lit}`Failed` after an error and {lit}`Tail` otherwise at the end of the body.  {lit}`Left`
holds when the loop has been left. -/
theorem sat_mainLoop_left {iterations : Nat}
    (Head Body Ready Late Failed Tail Left : Memory → W → Prop)
    (Todo : List Ptr → Memory → W → Prop)
    (hrequested : ∀ s w, Head s w → Sat K H G (Program.ask .exitRequested)
      (fun s w r => if r.ret ≠ 0 then Left s w else Body s w) s w)
    (hprepare : ∀ s w, Body s w → Sat K H G prepare (fun s w _ => Ready s w) s w)
    (hpoll : ∀ s w, Ready s w → Sat K H G pollSockets (fun s w errorType =>
      match errorType with
      | .NONE => Todo s.outputSocketsList.sockets s w
      | .TIMEOUT => Late s w
      | .INTERRUPTED => Tail s w
      | .ERROR => Failed s w) s w)
    (hprocess : ∀ p ps s w, Todo (p :: ps) s w →
      Sat K H G (processSocket p) (fun s w _ => Todo ps s w) s w)
    (hdone : ∀ s w, Todo [] s w → Tail s w)
    (htimeout : ∀ s w, Late s w →
      Sat K H G restartDispatcher (fun s w _ => Tail s w) s w)
    (htail : ∀ s w, Tail s w →
      Sat K H G (note .loopEnd) (fun s w _ => Head s w) s w)
    (hfailed : ∀ s w, Failed s w →
      Sat K H G (note .loopEnd) (fun s w _ => Left s w) s w)
    (hinit : Head s w) :
    Sat K H G (mainLoop iterations) (fun s w _ => Left s w) s w := by
  apply sat_repeatUntil Head Left _ iterations hinit
  intro s w hhead
  have hend : ∀ s w, Tail s w →
      Sat K H G (do note .loopEnd; pure false)
        (fun s w stop => if stop = true then Left s w else Head s w) s w := by
    intro s w h
    rw [sat_bind]
    exact (htail s w h).mono fun s w _ h => by simpa using h
  have hrest : ∀ s w, Ready s w → Sat K H G
      (do
        let errorType ← pollSockets
        let stop ← handlePoll errorType
        note .loopEnd
        pure stop)
      (fun s w stop => if stop = true then Left s w else Head s w) s w := by
    intro s w hready
    refine (hpoll s w hready).seq ?_
    intro s w errorType h
    rw [sat_bind]
    cases errorType with
    | NONE =>
        rw [handlePoll, sat_bind, processSockets, sat_bind, sat_get]
        apply (sat_forEach Todo hprocess _ h).mono
        exact fun s w _ h => hend s w (hdone s w h)
    | TIMEOUT =>
        rw [handlePoll, sat_bind]
        exact (htimeout s w h).mono fun s w _ h => hend s w h
    | INTERRUPTED => exact hend s w h
    | ERROR =>
        rw [handlePoll, sat_pure, sat_bind]
        exact (hfailed s w h).mono fun s w _ h => by simpa using h
  rw [testAndIterate, sat_bind]
  refine (hrequested s w hhead).mono ?_
  intro s w requested hhead
  rw [sat_ite]
  split
  next hreq => simpa [hreq] using hhead
  next hreq =>
    rw [if_neg hreq] at hhead
    have hcycle := (hprepare s w hhead).mono fun s w _ h => hrest s w h
    simpa only [prepare, iteration, sat_bind] using hcycle

/-- The same where the loop is left as it is entered. -/
theorem sat_mainLoop {iterations : Nat} (Head Ready Late Tail : Memory → W → Prop)
    (Todo : List Ptr → Memory → W → Prop)
    (hrequested : ∀ s w, Head s w →
      Sat K H G (Program.ask .exitRequested) (fun s w _ => Head s w) s w)
    (hprepare : ∀ s w, Head s w → Sat K H G prepare (fun s w _ => Ready s w) s w)
    (hpoll : ∀ s w, Ready s w → Sat K H G pollSockets (fun s w errorType =>
      match errorType with
      | .NONE => Todo s.outputSocketsList.sockets s w
      | .TIMEOUT => Late s w
      | _ => Tail s w) s w)
    (hprocess : ∀ p ps s w, Todo (p :: ps) s w →
      Sat K H G (processSocket p) (fun s w _ => Todo ps s w) s w)
    (hdone : ∀ s w, Todo [] s w → Tail s w)
    (htimeout : ∀ s w, Late s w →
      Sat K H G restartDispatcher (fun s w _ => Tail s w) s w)
    (htail : ∀ s w, Tail s w →
      Sat K H G (note .loopEnd) (fun s w _ => Head s w) s w)
    (hinit : Head s w) :
    Sat K H G (mainLoop iterations) (fun s w _ => Head s w) s w := by
  apply sat_mainLoop_left Head Head Ready Late Tail Tail Head Todo _ hprepare _ hprocess hdone
    htimeout htail htail hinit
  · intro s w hhead
    exact (hrequested s w hhead).mono fun s w r h => by simpa using h
  · intro s w hready
    refine (hpoll s w hready).mono fun s w errorType h => ?_
    cases errorType <;> exact h

/-- Invariant rule of the program: it starts a dispatcher, lists its listening sockets,
runs the main loop, says goodbye and waits.  {lit}`Left` holds when the loop has been
left. -/
theorem sat_main_left {iterations tcp unix : Nat} {appCfg : ApplicationConfig}
    (Head Left Over : Memory → W → Prop)
    (hstart : Sat K H G create_dispatcher (fun s w _ =>
      s = started tcp unix appCfg ∧
      Sat K H G (note (.putSocket tcpListenerSocket tcp true)) (fun _ w _ =>
        Sat K H G (note (.putSocket unixListenerSocket unix true)) (fun s w _ => Head s w)
          (listening tcp unix appCfg) w)
        { started tcp unix appCfg with
          socketsList := ⟨[tcpListenerSocket], MAX_SOCKETS, by decide⟩ } w)
      (started tcp unix appCfg) w)
    (hloop : ∀ s w, Head s w →
      Sat K H G (mainLoop iterations) (fun s w _ => Left s w) s w)
    (hbye : ∀ s w, Left s w →
      Sat K H G sayGoodbyeToAllDispatchers (fun s w _ => Over s w) s w)
    (hwait : ∀ s w, Over s w →
      Sat K H G (Program.ask .waitpid) (fun _ _ _ => True) s w) :
    Sat K H G (main iterations) (fun _ _ _ => True) (started tcp unix appCfg) w := by
  rw [main, sat_bind]
  apply hstart.mono
  rintro _ w _ ⟨rfl, hput⟩
  rw [sat_bind, putSocket, sat_bind, sat_get, sat_bind, sat_set, sat_bind]
  apply sat_note_mono hput
  intro w hput
  rw [sat_pure, sat_bind, putSocket, sat_bind, sat_get, sat_bind, sat_set, sat_bind]
  apply sat_note_mono hput
  intro w hhead
  rw [sat_pure]
  refine (hloop _ w hhead).seq fun s w _ hhead => ?_
  refine (hbye s w hhead).seq fun s w _ hover => ?_
  rw [sat_bind, wait_disp_child, sat_bind]
  apply (hwait s w hover).mono
  intro s w pid _
  rw [sat_ite]
  split
  · trivial
  · rw [sat_ite]
    split <;> trivial

/-- The same where the loop is left as it is entered. -/
theorem sat_main {iterations tcp unix : Nat} {appCfg : ApplicationConfig}
    (Head Over : Memory → W → Prop)
    (hstart : Sat K H G create_dispatcher (fun s w _ =>
      s = started tcp unix appCfg ∧
      Sat K H G (note (.putSocket tcpListenerSocket tcp true)) (fun _ w _ =>
        Sat K H G (note (.putSocket unixListenerSocket unix true)) (fun s w _ => Head s w)
          (listening tcp unix appCfg) w)
        { started tcp unix appCfg with
          socketsList := ⟨[tcpListenerSocket], MAX_SOCKETS, by decide⟩ } w)
      (started tcp unix appCfg) w)
    (hloop : ∀ s w, Head s w →
      Sat K H G (mainLoop iterations) (fun s w _ => Head s w) s w)
    (hbye : ∀ s w, Head s w →
      Sat K H G sayGoodbyeToAllDispatchers (fun s w _ => Over s w) s w)
    (hwait : ∀ s w, Over s w →
      Sat K H G (Program.ask .waitpid) (fun _ _ _ => True) s w) :
    Sat K H G (main iterations) (fun _ _ _ => True) (started tcp unix appCfg) w :=
  sat_main_left Head Head Over hstart hloop hbye hwait

/-- The calls of the main loop that every invariant of the memory and the processes
has to put up with. -/
def Plain : Call → Prop
  | .poll .. | .write .. | .exitRequested | .note .loopEnd => True
  | _ => False

theorem forall_plain {Q : Call → Prop} (hpoll : ∀ pollInfo timeout, Q (.poll pollInfo timeout))
    (hwrite : ∀ fd bytes, Q (.write fd bytes)) (hexit : Q .exitRequested)
    (hend : Q (.note .loopEnd)) : ∀ c, Plain c → Q c := by
  intro c
  fun_cases Plain c <;> simp [*]

/-- The calls that matter to no invariant of the memory and the processes. -/
def Calm : Call → Prop
  | .poll .. | .write .. | .exitRequested | .crash | .note .loopEnd => True
  | _ => False

theorem calm_of_plain : ∀ c, Plain c → Calm c := by
  apply forall_plain <;> intros <;> trivial

theorem forall_calm {Q : Call → Prop} (hpoll : ∀ pollInfo timeout, Q (.poll pollInfo timeout))
    (hwrite : ∀ fd bytes, Q (.write fd bytes)) (hexit : Q .exitRequested) (hcrash : Q .crash)
    (hend : Q (.note .loopEnd)) : ∀ c, Calm c → Q c := by
  intro c
  fun_cases Calm c <;> simp [*]

/-- Invariant rule of the main loop for one invariant that every operation keeps. -/
theorem sat_mainLoop_plain {iterations : Nat} {tcp unix : Int}
    (Inv : Memory → W → Prop) (hshape : ∀ s w, Inv s w → Shape tcp unix s)
    (hquiet : ∀ s, Quiet K H G s.Similar Plain (Inv s))
    (hsimilar : ∀ s s' w, s.Similar s' → Inv s w → Inv s' w)
    (hpolled : ∀ s w revents, s.outputSocketsList.sockets = [] → Inv s w →
      Inv (s.polled revents) w)
    (hprepare : ∀ s w, Inv s w → Sat K H G prepare
      (fun s w _ => Inv s w ∧ s.outputSocketsList.sockets = []) s w)
    (hdelSocket : ∀ p s w, Inv s w → Sat K H G (delSocket p)
      (fun s' w _ => Inv s' w ∧ s'.outputSocketsList = s.outputSocketsList) s w)
    (hclient : ∀ s w, Inv s w → Sat K H G (processClientConnection tcpListenerSocket)
      (fun s' w _ => Inv s' w ∧ s'.outputSocketsList = s.outputSocketsList) s w)
    (hdispatcher : ∀ s w, Inv s w → Sat K H G (processDispatcherConnection unixListenerSocket)
      (fun s' w _ => Inv s' w ∧ s'.outputSocketsList = s.outputSocketsList) s w)
    (hrestart : ∀ s w, Inv s w → Sat K H G restartDispatcher (fun s w _ => Inv s w) s w)
    (hinit : Inv s w) : Sat K H G (mainLoop iterations) (fun s w _ => Inv s w) s w := by
  apply sat_mainLoop Inv (fun s w => Inv s w ∧ s.outputSocketsList.sockets = []) Inv Inv
    (fun ps s w => Inv s w ∧ ∀ p ∈ ps, p ∈ s.outputSocketsList.sockets)
  · exact fun s w hinv => sat_ask_quiet (hquiet s) (by trivial) (Memory.Similar.refl s) hinv
      fun _ _ hinv => hinv
  · exact hprepare
  · rintro s w ⟨hinv, hempty⟩
    have hlength := (hshape s w hinv).not_too_many
    apply (sat_pollSockets_quiet (hquiet s) (fun h => absurd h hlength) (fun _ _ => trivial)
      hinv).mono
    rintro s' w errorType ⟨hinv, hmemory⟩
    cases errorType with
    | NONE =>
        obtain ⟨revents, rfl⟩ := hmemory
        exact ⟨hpolled s w revents hempty hinv, fun _ hp => hp⟩
    | _ =>
        obtain rfl : s' = s.reset := hmemory
        exact hsimilar s s.reset w s.similar_reset hinv
  · rintro p ps s w ⟨hinv, hcollected⟩
    have hp := hcollected p (List.mem_cons_self ..)
    have htail : ∀ q ∈ ps, q ∈ s.outputSocketsList.sockets :=
      fun q hq => hcollected q (List.mem_cons_of_mem p hq)
    have hrest : ∀ s' w', Inv s' w' ∧ s'.outputSocketsList = s.outputSocketsList →
        Inv s' w' ∧ ∀ q ∈ ps, q ∈ s'.outputSocketsList.sockets :=
      fun s' w' h => ⟨h.1, h.2 ▸ htail⟩
    have hs := hshape s w hinv
    apply sat_processSocket hs (hs.live p (Or.inr (Or.inl hp)))
    · exact fun _ _ _ => (hdelSocket p s w hinv).mono fun s' w' _ => hrest s' w'
    · exact fun _ => (hclient s w hinv).mono fun s' w' _ => hrest s' w'
    · exact fun _ => (hdispatcher s w hinv).mono fun s' w' _ => hrest s' w'
    · exact ⟨hinv, htail⟩
  · exact fun s w h => h.1
  · exact hrestart
  · exact fun s w hinv => sat_note_quiet (hquiet s) (by trivial) (Memory.Similar.refl s) hinv
      fun _ hinv => hinv
  · exact hinit

/-- Invariant rule of the program for one invariant that every operation of the main
loop keeps. -/
theorem sat_main_plain {iterations tcp unix : Nat} {appCfg : ApplicationConfig}
    (Inv : Memory → W → Prop) (hshape : ∀ s w, Inv s w → Shape tcp unix s)
    (hquiet : ∀ s, Quiet K H G s.Similar Plain (Inv s))
    (hsimilar : ∀ s s' w, s.Similar s' → Inv s w → Inv s' w)
    (hpolled : ∀ s w revents, s.outputSocketsList.sockets = [] → Inv s w →
      Inv (s.polled revents) w)
    (hstart : Sat K H G create_dispatcher (fun s w _ =>
      s = started tcp unix appCfg ∧
      Sat K H G (note (.putSocket tcpListenerSocket tcp true)) (fun _ w _ =>
        Sat K H G (note (.putSocket unixListenerSocket unix true)) (fun s w _ => Inv s w)
          (listening tcp unix appCfg) w)
        { started tcp unix appCfg with
          socketsList := ⟨[tcpListenerSocket], MAX_SOCKETS, by decide⟩ } w)
      (started tcp unix appCfg) w)
    (hprepare : ∀ s w, Inv s w → Sat K H G prepare
      (fun s w _ => Inv s w ∧ s.outputSocketsList.sockets = []) s w)
    (hdelSocket : ∀ p s w, Inv s w → Sat K H G (delSocket p)
      (fun s' w _ => Inv s' w ∧ s'.outputSocketsList = s.outputSocketsList) s w)
    (hclient : ∀ s w, Inv s w → Sat K H G (processClientConnection tcpListenerSocket)
      (fun s' w _ => Inv s' w ∧ s'.outputSocketsList = s.outputSocketsList) s w)
    (hdispatcher : ∀ s w, Inv s w → Sat K H G (processDispatcherConnection unixListenerSocket)
      (fun s' w _ => Inv s' w ∧ s'.outputSocketsList = s.outputSocketsList) s w)
    (hrestart : ∀ s w, Inv s w → Sat K H G restartDispatcher (fun s w _ => Inv s w) s w)
    (hwait : ∀ s w, Inv s w → Sat K H G (Program.ask .waitpid) (fun _ _ _ => True) s w) :
    Sat K H G (main iterations) (fun _ _ _ => True) (started tcp unix appCfg) w := by
  apply sat_main Inv Inv hstart
  · intro s w hinv
    exact sat_mainLoop_plain Inv hshape hquiet hsimilar hpolled hprepare hdelSocket hclient
      hdispatcher hrestart hinv
  · intro s w hinv
    have hwriting : Quiet K H G (· = s) Plain (Inv s) :=
      (hquiet s).mono (fun _ hs => hs ▸ Memory.Similar.refl s) fun _ hc => hc
    apply (sat_sayGoodbye_quiet (hshape s w hinv) hwriting (fun _ _ => trivial) hinv).mono
    rintro _ w _ ⟨rfl, hinv⟩
    exact hinv
  · exact hwait

/-- The same for surroundings in which crashes do not matter. -/
theorem sat_main_invariant {iterations tcp unix : Nat} {appCfg : ApplicationConfig}
    (Inv : Memory → W → Prop) (hshape : ∀ s w, Inv s w → Shape tcp unix s)
    (hquiet : ∀ s, Quiet K H G s.Similar Calm (Inv s))
    (hsimilar : ∀ s s' w, s.Similar s' → Inv s w → Inv s' w)
    (hpolled : ∀ s w revents, s.outputSocketsList.sockets = [] → Inv s w →
      Inv (s.polled revents) w)
    (hstart : Sat K H G create_dispatcher (fun s w _ =>
      s = started tcp unix appCfg ∧
      Sat K H G (note (.putSocket tcpListenerSocket tcp true)) (fun _ w _ =>
        Sat K H G (note (.putSocket unixListenerSocket unix true)) (fun s w _ => Inv s w)
          (listening tcp unix appCfg) w)
        { started tcp unix appCfg with
          socketsList := ⟨[tcpListenerSocket], MAX_SOCKETS, by decide⟩ } w)
      (started tcp unix appCfg) w)
    (hprepare : ∀ s w, Inv s w → Sat K H G prepare
      (fun s w _ => Inv s w ∧ s.outputSocketsList.sockets = []) s w)
    (hdelSocket : ∀ p s w, Inv s w → Sat K H G (delSocket p)
      (fun s' w _ => Inv s' w ∧ s'.outputSocketsList = s.outputSocketsList) s w)
    (hclient : ∀ s w, Inv s w → Sat K H G (processClientConnection tcpListenerSocket)
      (fun s' w _ => Inv s' w ∧ s'.outputSocketsList = s.outputSocketsList) s w)
    (hdispatcher : ∀ s w, Inv s w → Sat K H G (processDispatcherConnection unixListenerSocket)
      (fun s' w _ => Inv s' w ∧ s'.outputSocketsList = s.outputSocketsList) s w)
    (hrestart : ∀ s w, Inv s w → Sat K H G restartDispatcher (fun s w _ => Inv s w) s w)
    (hwait : ∀ s w, Inv s w → Sat K H G (Program.ask .waitpid) (fun _ _ _ => True) s w) :
    Sat K H G (main iterations) (fun _ _ _ => True) (started tcp unix appCfg) w := by
  apply sat_main_plain Inv hshape _ hsimilar hpolled hstart hprepare hdelSocket hclient hdispatcher
    hrestart hwait
  intro s
  exact (hquiet s).mono (fun _ hI => hI) calm_of_plain

end Specs

end Mylsnr

end SocketDispatcher
