import SocketDispatcher.Library.Simulation
import SocketDispatcher.Mydisp.Ownership
import SocketDispatcher.UnixSocketFactory

/-!
# The dispatcher from its start to its end

{lit}`main` of {lit}`mydisp.cpp`: the test of the argument count, the connection to the
listener, the main loop, and the destructors of what {lit}`main` has built.

Main results:

- Definition {lit}`main`.
- Theorem {lit}`sat_main`: the rule that its properties rest on.
- Theorem {lit}`balanced`: every descriptor that the dispatcher obtains has been closed
  when {lit}`main` returns zero, each of them once, and no object is left; it returns one
  exactly if its listener cannot be reached.

Current gaps:

- The signal handlers and the exceptions of the standard library are left out.
-/

namespace SocketDispatcher

open Interaction

namespace Mydisp

/-! ## The program -/

/-- The variables of {lit}`main` go out of scope, and the factory that holds the same
pointer. -/
def dropLocals : Proc Unit := do
  let m ← get
  set { m with locals := [] }
  Program.forEach m.locals release

/-- The end of {lit}`main`: {lit}`reSocketsList`, {lit}`socketsList` and
{lit}`unixSocket` are destroyed in this order. -/
def leaveScope : Proc Unit := do
  clearOutput
  clearSockets
  dropLocals

/-- {lit}`main` once the connection exists. -/
def serve (unixSocket : Ptr) (fuel cycles : Nat) : Proc Int := do
  modify fun m => { m with locals := m.locals ++ [unixSocket] }
  let _ ← putSocket unixSocket
  mainLoop unixSocket fuel cycles
  leaveScope
  pure 0

/-- {lit}`main(argc, argv)`.  The result is the exit status. -/
def main (argv : List (List Byte)) (fuel cycles : Nat) : Program Memory UnixCall Reply Int :=
  match argv with
  | [_, path] => do
      let unixSocket ← UnixSocketFactory.createSocket path
      if unixSocket = nullptr then
        pure 1
      else
        (serve unixSocket fuel cycles).embed .system
  | _ => pure 0

/-- The memory that {lit}`main` begins with. -/
def booted : Memory where
  heap _ := none
  next := 1
  socketsList := SocketsList.empty MAX_SOCKETS
  outputSocketsList := SocketsList.empty MAX_SOCKETS
  locals := []

/-! ## The rule -/

/-- The memory once the connection is listed. -/
theorem started_eq {sfd : Int} {descriptor : Nat} (hsfd : sfd = descriptor)
    (hnonneg : 0 ≤ sfd) :
    started descriptor =
      { booted.alloc (UnixSocketFactory.unixSocket sfd hnonneg) with
        locals := [unixSocket]
        socketsList := (booted.socketsList.putSocket unixSocket).1 } := by
  subst hsfd
  ext1
  case heap =>
    funext p
    by_cases hp : p = unixSocket
    · subst hp
      rfl
    · have hne : p ≠ booted.next := hp
      simp [started, hp, hne]
      rfl
  all_goals rfl

section Rule

variable {W A : Type} {K : Kernel W Call Reply A}
variable {H : Memory → W → Call → Reply → Prop} {G : Memory → W → Call → Prop}
variable {w : W} {fuel cycles : Nat}

/-- The main loop begins with the listed connection, and the destructors follow it. -/
theorem sat_serve {Q : Memory → W → Int → Prop} {sfd : Int} (hnonneg : 0 ≤ sfd)
    (Left : Memory → W → Prop)
    (hloop : ∀ descriptor : Nat, sfd = descriptor → ∀ s, s = started descriptor →
      Sat K H G (note (.putSocket unixSocket (s.descriptorOf unixSocket) true)) (fun s w _ =>
        Sat K H G (mainLoop unixSocket fuel cycles) (fun s w _ => Left s w) s w) s w)
    (hleave : ∀ s w, Left s w → Sat K H G leaveScope (fun s w _ => Q s w 0) s w) :
    Sat K H G (serve unixSocket fuel cycles) Q
      (booted.alloc (UnixSocketFactory.unixSocket sfd hnonneg)) w := by
  obtain ⟨descriptor, hsfd⟩ := Int.eq_ofNat_of_zero_le hnonneg
  rw [serve, sat_bind, sat_modify, sat_bind, putSocket, sat_bind, sat_get, sat_bind, sat_set,
    sat_bind]
  have hstarted := hloop descriptor hsfd _ (started_eq hsfd hnonneg).symm
  apply hstarted.mono
  intro s w _ h
  rw [sat_pure, sat_bind]
  apply h.mono
  intro s w _ hleft
  rw [sat_bind]
  exact hleave s w hleft

/-- The exit status is zero for a wrong argument count, one without a connection, and
otherwise what the rest of {lit}`main` returns. -/
theorem sat_main {K : Kernel W UnixCall Reply A} {H : Memory → W → UnixCall → Reply → Prop}
    {G : Memory → W → UnixCall → Prop} {argv : List (List Byte)} {Q : Memory → W → Int → Prop}
    (hargc : argv.length ≠ 2 → Q booted w 0)
    (hcreate : argv.length = 2 → ∀ path,
      Sat K H G (UnixSocketFactory.createSocket path) (fun s w p =>
        if p = nullptr then Q s w 1
        else Sat K H G ((serve p fuel cycles).embed .system) Q s w) booted w) :
    Sat K H G (main argv fuel cycles) Q booted w := by
  unfold main
  split
  next path =>
    rw [sat_bind]
    apply (hcreate rfl path).mono
    intro s w p h
    rw [sat_ite]
    split
    next hnull =>
      rw [if_pos hnull] at h
      exact h
    next hnull =>
      rw [if_neg hnull] at h
      exact h
  next hother =>
    apply hargc
    rintro hlength
    obtain ⟨name, path, rfl⟩ := List.length_eq_two.mp hlength
    exact hother name path rfl

end Rule

/-! ## Descriptors at the end -/

/-- The descriptors that the process has obtained and not closed, beside the files of
{lit}`Ownership`. -/
structure Holdings where
  files : Files
  obtained : List Int := []
  /-- A {lit}`connect` has succeeded. -/
  connected : Bool := false

/-- What a call of the main loop does to the obtained descriptors. -/
def Holdings.track (w : Holdings) : Call → Reply → List Int
  | .recvmsg .., r => r.data.toList ++ w.obtained
  | .close d, _ => w.obtained.filter (· ≠ d)
  | _, _ => w.obtained

/-- Surroundings that number a new descriptor differently from every open one. -/
def holdings : Kernel Holdings UnixCall Reply Empty where
  reply w c r :=
    match c with
    | .system c => (files.reply w.files c r).map fun f =>
        { w with files := f, obtained := w.track c r }
    | .socket =>
        if r.ret < 0 then some w
        else if r.ret ∈ w.files.opened then none
        else
          some { w with
            files := { w.files with opened := r.ret :: w.files.opened }
            obtained := r.ret :: w.obtained }
    | .connect .. => some { w with connected := decide (0 ≤ r.ret) }
    | _ => some w
  act _ a := nomatch a

/-- Every close is of a descriptor that is open, and that no list holds. -/
def ClosesOnce (m : Memory) (w : Holdings) : UnixCall → Prop
  | .system c => KeepsOwnership m w.files c
  | _ => True

/-- What a connected process has obtained is open, and it is the connection or was
received. -/
structure Holdings.Known (sfd : Int) (w : Holdings) : Prop where
  connected : w.connected = true
  obtained : ∀ d ∈ w.obtained, d ∈ w.files.opened ∧ (d ∈ w.files.received ∨ d = sfd)

/-- Only a message brings descriptors, and a close takes one away. -/
theorem Holdings.Known.reply {sfd : Int} {w w' : Holdings} {c : Call} {r : Reply}
    (hknown : w.Known sfd) (h : (holdings.restrict UnixCall.system).reply w c r = some w') :
    w'.Known sfd := by
  obtain ⟨f, hf, rfl⟩ := Option.map_eq_some_iff.mp h
  refine ⟨hknown.connected, fun d hd => ?_⟩
  cases c with
  | recvmsg fd buffer size =>
      change d ∈ r.data.toList ++ w.obtained at hd
      simp only [Mydisp.files] at hf
      cases hdata : r.data with
      | none =>
          simp only [hdata] at hf hd
          split at hf
          next =>
            obtain rfl := Option.some.inj hf
            exact hknown.obtained d (by simpa using hd)
          next => contradiction
      | some x =>
          simp only [hdata] at hf hd
          split at hf
          next =>
            obtain rfl := Option.some.inj hf
            rcases List.mem_cons.mp (by simpa using hd) with rfl | hd
            · exact ⟨List.mem_cons_self, Or.inl List.mem_cons_self⟩
            · obtain ⟨hopened, hsource⟩ := hknown.obtained d hd
              exact ⟨List.mem_cons_of_mem x hopened, hsource.imp_left (List.mem_cons_of_mem x)⟩
          next => contradiction
  | close x =>
      obtain rfl := Option.some.inj hf
      obtain ⟨hd, hne⟩ := List.mem_filter.mp hd
      obtain ⟨hopened, hsource⟩ := hknown.obtained d hd
      exact ⟨List.mem_filter.mpr ⟨hopened, hne⟩,
        hsource.imp_left fun hmem => List.mem_filter.mpr ⟨hmem, hne⟩⟩
  | _ =>
      obtain rfl := Option.some.inj hf
      exact hknown.obtained d hd

theorem holdings_simulates (sfd : Int) :
    (holdings.restrict UnixCall.system).Simulates files (Holdings.Known sfd) Holdings.files where
  reply w c r w' hknown h := by
    obtain ⟨f, hf, hw'⟩ := Option.map_eq_some_iff.mp h
    refine ⟨?_, hknown.reply h⟩
    rw [← hw']
    exact hf
  act _ a := nomatch a

section Leave

variable {descriptor : Int} {s : Memory} {w : Files}

/-- Dropping all entries of a list, to which other references may exist. -/
theorem owned_releaseAll {ps : List Ptr} (h : Owned descriptor ps s w) :
    Sat files anyReply KeepsOwnership (Program.forEach ps release)
      (fun s' w' _ => Owned descriptor [] s' w' ∧ s.Pruned s') s w := by
  apply sat_forEach fun ps s' w' => Owned descriptor ps s' w' ∧ s.Pruned s'
  · intro p ps s' w' hinv
    apply (owned_release_pruned hinv.1).mono
    intro s'' w'' _ hpost
    exact ⟨hpost.1, hinv.2.trans hpost.2⟩
  · exact ⟨h, Memory.Pruned.refl s⟩

/-- The sockets list is about to drop its references. -/
theorem Owned.clearSockets (h : Owned descriptor [] s w) :
    Owned descriptor s.socketsList.sockets
      { s with socketsList := s.socketsList.clear } w := by
  have hshape : Shape descriptor { s with socketsList := s.socketsList.clear } :=
    { h.shape with
      toTidy := h.shape.toTidy.shrink (List.nil_sublist _) (List.Sublist.refl _) rfl rfl }
  apply h.lists hshape
  intro q hq
  rcases h.held q hq with (href | href | href) | hnone
  · exact Or.inr href
  · exact Or.inl (Or.inr (Or.inl href))
  · exact Or.inl (Or.inr (Or.inr href))
  · cases hnone

/-- The last reference of all is the one to the connection. -/
theorem owned_dropLocals (h : Owned descriptor [] s w) (hlist : s.socketsList.sockets = [])
    (houtput : s.outputSocketsList.sockets = []) :
    Sat files anyReply KeepsOwnership dropLocals (fun s' w' _ =>
      w'.received = [] ∧ descriptor ∉ w'.opened ∧ ∀ p, s'.heap p = none) s w := by
  have honly : ∀ p, s.heap p ≠ none → p = unixSocket := by
    intro p hlive
    have hlocal : p ∈ s.locals := by
      simpa [Memory.Referenced, hlist, houtput] using h.held p hlive
    rw [h.shape.locals] at hlocal
    exact List.mem_singleton.mp hlocal
  have hreceived : w.received = [] := by
    rw [List.eq_nil_iff_forall_not_mem]
    intro d hd
    obtain ⟨p, hp, hlive, -⟩ := h.owner d hd
    exact hp (honly p hlive)
  obtain ⟨socket, hsocket, hid⟩ := h.shape.unix
  have hdescriptor : socket.descriptor = descriptor := congrArg (·.2.2.1) hid
  have hlast : ({ s with locals := [] } : Memory).heap unixSocket = some socket := hsocket
  rw [dropLocals, sat_bind, sat_get, sat_bind, sat_set, h.shape.locals, Program.forEach, sat_bind]
  apply sat_release_last hlast
  · simp [Memory.Referenced, hlist, houtput]
  · intro hprotected
    rw [h.shape.unprotected hsocket] at hprotected
    contradiction
  · intro _
    have hlive : s.heap unixSocket ≠ none := by simp [hsocket]
    have hopened := h.opened unixSocket hlive
    rw [h.shape.descriptorOf_unix] at hopened
    rw [hdescriptor, sat_ask_closed]
    refine ⟨⟨hopened, ?_⟩, ?_⟩
    · intro p hp
      change p ∈ s.socketsList.sockets at hp
      rw [hlist] at hp
      cases hp
    · intro r w' hreply _
      obtain rfl : w.close descriptor = w' := Option.some.inj hreply
      refine ⟨by simp [Files.close, hreceived], by simp [Files.close], fun p => ?_⟩
      by_cases hp : p = unixSocket
      · simp [hp]
      · by_contra hlive
        exact hp (honly p (by simpa [hp] using hlive))

/-- When the lists are gone, so is every received descriptor; the connection goes last. -/
theorem owned_leaveScope (h : Owned descriptor [] s w) :
    Sat files anyReply KeepsOwnership leaveScope (fun s' w' _ =>
      w'.received = [] ∧ descriptor ∉ w'.opened ∧ ∀ p, s'.heap p = none) s w := by
  rw [leaveScope, sat_bind, clearOutput, sat_bind, sat_get, sat_bind, sat_set]
  apply (owned_releaseAll h.clear).mono
  rintro s₁ w _ ⟨h, hpruned⟩
  have houtput : s₁.outputSocketsList.sockets = [] := by
    rw [hpruned.outputSocketsList]
    rfl
  rw [sat_bind, clearSockets, sat_bind, sat_get, sat_bind, sat_set]
  apply (owned_releaseAll h.clearSockets).mono
  rintro s₂ w _ ⟨h, hpruned⟩
  apply owned_dropLocals h
  · rw [hpruned.socketsList]
    rfl
  · rw [hpruned.outputSocketsList]
    exact houtput

end Leave

section Main

variable {descriptor : Int} (fuel cycles : Nat) {s : Memory} {w : Files}

/-- The accounts hold when the loop has been left. -/
theorem owned_mainLoop (h : Owned descriptor [] s w) :
    Sat files anyReply KeepsOwnership (mainLoop unixSocket fuel cycles)
      (fun s w _ => Owned descriptor [] s w) s w := by
  have hend : ∀ s w, Owned descriptor [] s w →
      Sat files anyReply KeepsOwnership (note .loopEnd)
        (fun s w _ => Owned descriptor [] s w) s w := by
    intro s w h
    refine sat_note_quiet (neutral_quiet (fun _ => True) w) (by trivial) trivial rfl ?_
    rintro _ rfl
    exact h
  apply sat_mainLoop_left (Owned descriptor [])
    (fun s w => Owned descriptor [] s w ∧ s.outputSocketsList.sockets = [])
    (Owned descriptor []) (Owned descriptor []) (Owned descriptor []) (OwnedTodo descriptor)
  · exact fun s w h => owned_prepare h
  · intro s w h
    apply (owned_pollSockets h.1 h.2).mono
    intro s w errorType h
    cases errorType <;> exact h
  · intro p ps s w h
    have hlive : s.heap p ≠ none :=
      h.owned.shape.live p (Or.inr (Or.inl (h.collected p (List.mem_cons_self ..))))
    apply sat_processReEvents h.owned.shape hlive
    · intro _
      have htail : OwnedTodo descriptor ps s w :=
        ⟨h.owned, fun q hq => h.collected q (List.mem_cons_of_mem p hq)⟩
      apply (owned_dispatcherProcess htail).mono
      intro s w ok h
      refine sat_note_quiet (neutral_quiet (fun _ => True) w) (by trivial) trivial rfl ?_
      rintro _ rfl
      cases ok with
      | true => exact h
      | false => exact h.owned
    · exact fun hp => owned_processClient h hp
  · exact fun s w h => h.owned
  · exact hend
  · exact hend
  · exact h

/-- The rest of {lit}`main` once the connection exists. -/
theorem owned_serve {sfd : Int} (hnonneg : 0 ≤ sfd)
    (hzero : 0 ∈ w.opened) (hopened : sfd ∈ w.opened) (hreceived : w.received = []) :
    Sat files anyReply KeepsOwnership (serve unixSocket fuel cycles)
      (fun s' w' status => status = 0 ∧ w'.received = [] ∧ sfd ∉ w'.opened ∧
        ∀ p, s'.heap p = none)
      (booted.alloc (UnixSocketFactory.unixSocket sfd hnonneg)) w := by
  apply sat_serve hnonneg (Owned sfd [])
  · rintro descriptor rfl _ rfl
    refine sat_note_quiet (neutral_quiet (fun _ => True) w) (by trivial) trivial rfl ?_
    rintro _ rfl
    exact owned_mainLoop fuel cycles (owned_of_started hzero hopened hreceived)
  · intro s w h
    exact (owned_leaveScope h).mono fun _ _ _ hpost => ⟨rfl, hpost⟩

/-- A connected descriptor, before anything else has been obtained. -/
structure Holdings.Connected (sfd : Int) (w : Holdings) : Prop where
  zero : 0 ∈ w.files.opened
  opened : sfd ∈ w.files.opened
  received : w.files.received = []
  obtained : w.obtained = [sfd]
  connected : w.connected = true

/-- What is left when {lit}`main` returns: no object, and no open descriptor unless the
listener was named and could not be reached. -/
def Balanced (argv : List (List Byte)) (m : Memory) (w : Holdings) (status : Int) : Prop :=
  (∀ p, m.heap p = none) ∧
    ((status = 0 ∧ (argv.length = 2 → w.connected = true) ∧ w.obtained = []) ∨
      (status = 1 ∧ argv.length = 2 ∧ w.connected = false ∧ w.obtained.length ≤ 1))

theorem balanced_serve (argv : List (List Byte)) {sfd : Int} (hnonneg : 0 ≤ sfd)
    {w : Holdings} (h : w.Connected sfd) :
    Sat holdings anyReply ClosesOnce ((serve unixSocket fuel cycles).embed .system)
      (Balanced argv)
      (booted.alloc (UnixSocketFactory.unixSocket sfd hnonneg)) w := by
  have hknown : w.Known sfd := by
    refine ⟨h.connected, fun d hd => ?_⟩
    rw [h.obtained, List.mem_singleton] at hd
    subst hd
    exact ⟨h.opened, Or.inr rfl⟩
  have hserve := owned_serve fuel cycles hnonneg h.zero h.opened h.received
  rw [sat_embed_iff]
  apply (hserve.simulate (holdings_simulates sfd) hknown).mono
  rintro m w status ⟨⟨rfl, hreceived, hclosed, hgone⟩, hknown⟩
  refine ⟨hgone, Or.inl ⟨rfl, fun _ => hknown.connected, ?_⟩⟩
  rw [List.eq_nil_iff_forall_not_mem]
  intro d hd
  obtain ⟨hopened, hsource | rfl⟩ := hknown.obtained d hd
  · rw [hreceived] at hsource
    cases hsource
  · exact hclosed hopened

theorem sat_balanced (argv : List (List Byte)) (others : List Int) :
    Sat holdings anyReply ClosesOnce (main argv fuel cycles) (Balanced argv)
      booted { files := ⟨0 :: others, []⟩ } := by
  apply sat_main
  · exact fun hargc => ⟨fun _ => rfl, Or.inl ⟨rfl, fun h => absurd h hargc, rfl⟩⟩
  · intro hargc path
    have hidle : ∀ (c : UnixCall) (s : Memory) (w : Holdings) sfd, ClosesOnce s w c →
        (∀ r, holdings.reply w c r = some w) → w.Connected sfd →
        Sat holdings anyReply ClosesOnce (Program.ask c) (fun _ w _ => w.Connected sfd) s w := by
      intro c s w sfd hcloses hreply h
      rw [sat_ask_closed]
      refine ⟨hcloses, fun r w' hw' _ => ?_⟩
      obtain rfl := Option.some.inj ((hreply r).symm.trans hw')
      exact h
    apply UnixSocketFactory.sat_createSocket fun sfd w => w.Connected sfd
    · rw [sat_ask_closed]
      refine ⟨trivial, fun sfd w hw _ => ?_⟩
      simp only [holdings] at hw
      split at hw
      next hlt =>
        obtain rfl := Option.some.inj hw
        refine ⟨fun _ => ?_, fun hnonneg => absurd hlt (Int.not_lt.mpr hnonneg)⟩
        rw [if_pos rfl]
        exact ⟨fun _ => rfl, Or.inr ⟨rfl, hargc, rfl, Nat.zero_le _⟩⟩
      next =>
        split at hw
        next => contradiction
        next =>
          obtain rfl := Option.some.inj hw
          refine ⟨fun hlt => by contradiction, fun hnonneg => ?_⟩
          rw [sat_ask_closed]
          refine ⟨trivial, fun r w hw _ => ?_⟩
          obtain rfl := Option.some.inj hw
          refine ⟨fun hlt => ?_, fun hconnected => ⟨by simp, by simp, rfl, rfl, ?_⟩⟩
          · rw [if_pos rfl]
            exact ⟨fun _ => rfl,
              Or.inr ⟨rfl, hargc, decide_eq_false (Int.not_le.mpr hlt), le_refl 1⟩⟩
          · exact decide_eq_true hconnected
    · exact fun sfd w h => hidle _ _ w sfd trivial (fun _ => rfl) h
    · exact fun sfd opts w h => hidle _ _ w sfd trivial (fun _ => rfl) h
    · intro sfd hnonneg w h
      have hnext : booted.next ≠ nullptr := by decide
      rw [if_neg hnext]
      exact balanced_serve fuel cycles argv hnonneg h

end Main

end Mydisp

end SocketDispatcher
