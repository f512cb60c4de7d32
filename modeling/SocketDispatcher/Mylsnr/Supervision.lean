import SocketDispatcher.Mylsnr.Children

/-!
# Supervision

Whether the listener replaces a dispatcher that has ended.  It asks {lit}`waitpid` once
in every iteration whose poll has timed out, and starts a dispatcher when that reports a
child.

Main results:

- Theorem {lit}`watched_restartDispatcher`: if the most recent {lit}`fork` succeeded, a
  dispatcher is started whenever none runs.
- Theorem {lit}`restarts_of_forked`: the same for whole runs.
- Theorem {lit}`never_restarted`: after a failed {lit}`fork` there is nothing to report.
-/

namespace SocketDispatcher

open Interaction

namespace Mylsnr

/-! ## Surroundings -/

/-- The children, and what has been done about them. -/
structure Watch where
  unreaped : List Child
  /-- The most recent {lit}`fork` succeeded. -/
  forked : Bool
  /-- No child was running at the most recent {lit}`waitpid`, and
  {lit}`create_dispatcher` has not been called since. -/
  due : Bool

/-- Some child runs. -/
def Watch.running (w : Watch) : Bool :=
  w.unreaped.any Child.running

/-- The surroundings with the documented {lit}`waitpid`: it reports a child that has
ended, or zero if there are only running ones, or an error if there are none. -/
def nursery : Kernel Watch Call Reply Int where
  reply w c r :=
    match c with
    | .fork =>
        if r.ret < 0 then some { w with forked := false, due := false }
        else if r.ret = 0 then some { w with due := false }
        else if r.ret ∈ w.unreaped.map Child.pid then none
        else some ⟨w.unreaped ++ [⟨0, r.ret, true⟩], true, false⟩
    | .waitpid =>
        if 0 < r.ret then
          if ∃ child ∈ w.unreaped, child.pid = r.ret ∧ child.running = false then
            some { w with unreaped := w.unreaped.filter (·.pid ≠ r.ret), due := !w.running }
          else none
        else if r.ret = 0 then
          if w.unreaped ≠ [] ∧ ∀ child ∈ w.unreaped, child.running = true then
            some { w with due := !w.running }
          else none
        else if w.unreaped = [] then some { w with due := !w.running }
        else none
    | _ => some w
  -- the child with this pid ends
  act w pid := some { w with unreaped := w.unreaped.map fun child =>
    if child.pid = pid then { child with running := false } else child }

/-- At the end of an iteration no dispatcher is due. -/
def Restarts (_ : Memory) (w : Watch) : Call → Prop
  | .note .loopEnd => w.due = false
  | _ => True

/-- The most recent {lit}`fork` before a {lit}`waitpid` succeeded. -/
def Forked (_ : Memory) (w : Watch) : Call → Reply → Prop
  | .waitpid, _ => w.forked = true
  | _, _ => True

/-! ## The invariant -/

/-- No dispatcher is due, and if the most recent {lit}`fork` succeeded, its child is the
only one. -/
structure Watched (w : Watch) : Prop where
  due : w.due = false
  child : w.forked = true → ∃ child, w.unreaped = [child]

/-- The calls that have nothing to do with children. -/
def Childless : Call → Prop
  | .fork | .waitpid => False
  | _ => True

theorem Watched.act {w w' : Watch} {pid : Int} (h : Watched w)
    (ha : nursery.act w pid = some w') : Watched w' := by
  obtain rfl := Option.some.inj ha
  refine ⟨h.due, fun hforked => ?_⟩
  obtain ⟨child, hchild⟩ := h.child hforked
  exact ⟨_, by rw [hchild, List.map_singleton]⟩

theorem childless_quiet (I : Memory → Prop) :
    Quiet nursery Forked Restarts I Childless Watched where
  guarantee s w c _ _ h := by
    fun_cases Restarts s w c with
    | case1 => exact h.due
    | case2 => trivial
  reply _ w c r w' _ hc hreply _ h := by
    have hw' : w = w' := by
      cases c with
      | fork => exact hc.elim
      | waitpid => exact hc.elim
      | _ => exact Option.some.inj hreply
    exact hw' ▸ h
  act _ _ _ ha h := h.act ha

theorem childless_of_calm : ∀ c, Calm c → Childless c := by
  apply forall_calm <;> intros <;> trivial

theorem childless_of_connecting : ∀ c, Connecting c → Childless c := by
  intro c
  fun_cases Connecting c <;> intro hc <;> trivial

section Steps

variable {s : Memory} {w : Watch}

/-- A dispatcher that is started while there is none is the only one. -/
theorem watched_create_dispatcher (hnone : w.unreaped = []) :
    Sat nursery Forked Restarts create_dispatcher (fun s' w' _ => s' = s ∧ Watched w') s w := by
  have hact : ∀ v pid v', nursery.act v pid = some v' → v.unreaped = [] →
      v'.unreaped = [] := by
    intro v pid v' ha hv
    obtain rfl := Option.some.inj ha
    rw [hv, List.map_nil]
  apply sat_create_dispatcher
  apply sat_ask_keeps hact hnone fun _ _ => trivial
  intro w₁ r w₂ hnone₁ hreply _
  rcases Int.lt_trichotomy r.ret 0 with hneg | hzero | hpos
  · simp only [nursery, if_pos hneg, Option.some.injEq] at hreply
    obtain rfl := hreply
    exact ⟨fun _ => ⟨rfl, rfl, fun hforked => Bool.noConfusion hforked⟩,
      fun hpos => absurd hpos (by omega), fun hzero => absurd hzero (by omega)⟩
  · refine ⟨fun hneg => absurd hneg (by omega), fun hpos => absurd hpos (by omega), fun _ => ?_⟩
    -- the child asks nobody to be restarted
    intro w₃ _
    exact ⟨trivial, fun _ _ _ _ _ _ => trivial⟩
  · simp only [nursery, if_neg (show ¬r.ret < 0 by omega),
      if_neg (show r.ret ≠ 0 by omega)] at hreply
    split at hreply
    next => contradiction
    next =>
      obtain rfl := Option.some.inj hreply
      exact ⟨fun hneg => absurd hneg (by omega),
        fun _ => ⟨rfl, rfl, fun _ => ⟨_, by rw [hnone₁]; rfl⟩⟩,
        fun hzero => absurd hzero (by omega)⟩

/-- If the most recent {lit}`fork` succeeded, a dispatcher is started when none runs. -/
theorem watched_restartDispatcher (h : Watched w) :
    Sat nursery Forked Restarts restartDispatcher (fun s' w' _ => s' = s ∧ Watched w') s w := by
  apply sat_restartDispatcher
  apply sat_ask_keeps (fun _ _ _ ha h => h.act ha) h fun _ _ => trivial
  intro w₁ pid w₂ h₁ hreply hforked
  obtain ⟨child, hchild⟩ := h₁.child hforked
  simp only [nursery, Watch.running, hchild] at hreply
  by_cases hpos : 0 < pid.ret
  · -- the only child has been reported, so none is left
    refine ⟨fun hle => absurd hpos (by omega), fun _ => ?_⟩
    rw [if_pos hpos] at hreply
    split at hreply
    next hended =>
      have hpid : child.pid = pid.ret := by
        rcases hended with ⟨child', hmem, hpid, _⟩
        exact List.mem_singleton.mp hmem ▸ hpid
      obtain rfl := Option.some.inj hreply
      exact (watched_create_dispatcher (by simp [hpid])).mono fun _ _ _ hpost => hpost
    next => contradiction
  · -- the only child runs, so nothing is due
    refine ⟨fun _ => ⟨rfl, ?_⟩, fun h => absurd h hpos⟩
    rw [if_neg hpos] at hreply
    split at hreply
    next hzero =>
      split at hreply
      next hrunning =>
        obtain rfl := Option.some.inj hreply
        exact ⟨by simp [hrunning.2 child (List.mem_singleton_self _)],
          fun _ => ⟨child, rfl⟩⟩
      next => contradiction
    next =>
      split at hreply
      next hnone => contradiction
      next => contradiction

end Steps

/-! ## Whole runs -/

/-- In every run in which the most recent {lit}`fork` before each {lit}`waitpid`
succeeded, a dispatcher is started in every iteration whose poll has timed out and in
which no child is running when {lit}`waitpid` is called. -/
theorem restarts_of_forked (tcp unix iterations : Nat) (appCfg : ApplicationConfig) :
    Safe nursery Forked Restarts
      ⟨started tcp unix appCfg, ⟨[], false, false⟩, main iterations⟩ := by
  apply Sat.safe
  have hquiet := childless_quiet
  apply sat_main_invariant fun s w => Shape tcp unix s ∧ Watched w
  · exact fun s w h => h.1
  · intro s
    exact
      { guarantee := fun s' w c hsim hc h =>
          (hquiet _).guarantee s' w c hsim (childless_of_calm c hc) h.2
        reply := fun s' w c r w' hsim hc hreply hassume h =>
          ⟨h.1, (hquiet _).reply s' w c r w' hsim (childless_of_calm c hc) hreply hassume h.2⟩
        act := fun _ _ _ ha h => ⟨h.1, h.2.act ha⟩ }
  · exact fun s s' w hsim h => ⟨h.1.similar hsim, h.2⟩
  · exact fun s w revents hempty h => ⟨h.1.polled hempty revents, h.2⟩
  · apply (watched_create_dispatcher rfl).mono
    rintro _ w _ ⟨rfl, h⟩
    refine ⟨rfl, ?_⟩
    refine sat_note_quiet (hquiet fun _ => True) (by trivial) trivial h fun w h => ?_
    refine sat_note_quiet (hquiet fun _ => True) (by trivial) trivial h fun w h => ?_
    exact ⟨shape_listening tcp unix appCfg, h⟩
  · rintro s w ⟨hs, h⟩
    apply (sat_prepare_quiet hs (hquiet fun _ => True) trivial (fun _ => trivial) h).mono
    rintro s' w _ ⟨hprepared, h⟩
    exact ⟨⟨hs.prepared hprepared, h⟩, hprepared.output⟩
  · rintro p s w ⟨hs, h⟩
    apply (sat_delSocket_quiet (hquiet fun _ => True) (fun _ => trivial) rfl rfl _).mono
    · rintro s' w _ ⟨hpruned, h⟩
      exact ⟨⟨(hs.delSocket _).pruned hpruned, h⟩, hpruned.outputSocketsList⟩
    · exact sat_note_quiet (hquiet fun _ => True) (by trivial) trivial h fun _ h => ⟨rfl, h⟩
  · rintro s w ⟨hs, h⟩
    apply (sat_processClientConnection_quiet hs (hquiet fun _ => True)
      childless_of_connecting h).mono
    rintro s' w _ ⟨rfl | ⟨content, rfl⟩, h⟩
    · exact ⟨⟨hs, h⟩, rfl⟩
    · exact ⟨⟨hs.attend content, h⟩, rfl⟩
  · rintro s w ⟨hs, h⟩
    apply (sat_processDispatcherConnection_quiet hs (hquiet fun _ => True)
      childless_of_connecting h).mono
    rintro s' w _ ⟨rfl | ⟨content, rfl⟩ | ⟨d, hd, rfl⟩, h⟩
    · exact ⟨⟨hs, h⟩, rfl⟩
    · exact ⟨⟨hs.attend content, h⟩, rfl⟩
    · exact ⟨⟨hs.connect hd, h⟩, rfl⟩
  · rintro s w ⟨hs, h⟩
    apply (watched_restartDispatcher h).mono
    rintro _ w _ ⟨rfl, h⟩
    exact ⟨hs, h⟩
  · exact fun s w _ _ _ => ⟨trivial, fun _ _ _ _ => trivial⟩

/-- The first {lit}`fork` fails.  The poll times out, {lit}`waitpid` reports an error,
and no dispatcher is started. -/
theorem never_restarted :
    ¬Safe nursery anyReply Restarts ⟨started 3 4 {}, ⟨[], false, false⟩, main 1⟩ :=
  not_safe_of_exec
    (fun _ w c =>
      match c with
      | .note .loopEnd => w.due == false
      | _ => true)
    (by
      intro m w c hG
      split
      next => exact beq_iff_eq.mpr hG
      next => rfl)
    [.inr { ret := -1 }, .inr {}, .inr {}, .inr {}, .inr {}, .inr { ret := 0 },
      .inr { ret := -1 }]
    (by decide)

end Mylsnr

end SocketDispatcher
