import SocketDispatcher.Library.Program

/-!
# Evaluation against determined surroundings

Surroundings that determine the reply to every call leave a program one run.  This
file computes that run and shows that the small-step semantics has no other.

Main results:

- Theorem {lit}`reaches_scripted_iff`: a program returns in scripted surroundings
  exactly what its evaluation gives.
- Theorem {lit}`eval_bind`: evaluation is compositional.
-/

namespace Interaction

variable {S W C R α β : Type}

/-- Surroundings that have one reply, or none, to each call. -/
def scripted [DecidableEq R] (answer : W → C → Option (R × W)) : Kernel W C R Empty where
  reply w c r :=
    match answer w c with
    | some (r', w') => if r' = r then some w' else none
    | none => none
  act _ a := nomatch a

namespace Program

/-- The run of a program in scripted surroundings: what it returns, its memory and
the surroundings afterwards.  There is no result when a reply is missing or the run is
cut. -/
def eval (answer : W → C → Option (R × W)) : Program S C R α → S → W → Option (α × S × W)
  | ret a, s, w => some (a, s, w)
  | cut, _, _ => none
  | get k, s, w => (k s).eval answer s w
  | set s k, _, w => k.eval answer s w
  | call c k, s, w =>
      match answer w c with
      | some (r, w') => (k r).eval answer s w'
      | none => none

end Program

section Evaluation

variable {answer : W → C → Option (R × W)} {s : S} {w : W}

@[simp]
theorem eval_pure (a : α) : (pure a : Program S C R α).eval answer s w = some (a, s, w) :=
  rfl

@[simp]
theorem eval_cut : (.cut : Program S C R α).eval answer s w = none :=
  rfl

@[simp]
theorem eval_get : (get : Program S C R S).eval answer s w = some (s, s, w) :=
  rfl

@[simp]
theorem eval_set (s' : S) :
    (set s' : Program S C R PUnit).eval answer s w = some (⟨⟩, s', w) :=
  rfl

@[simp]
theorem eval_modify (f : S → S) :
    (modify f : Program S C R PUnit).eval answer s w = some (⟨⟩, f s, w) :=
  rfl

theorem eval_ask (c : C) :
    (Program.ask c : Program S C R R).eval answer s w =
      (answer w c).map fun reply => (reply.1, s, reply.2) := by
  rw [Program.ask, Program.eval]
  cases answer w c <;> rfl

@[simp]
theorem eval_bind (p : Program S C R α) (f : α → Program S C R β) :
    (p >>= f).eval answer s w =
      (p.eval answer s w).bind fun result => (f result.1).eval answer result.2.1 result.2.2 := by
  change (p.bind f).eval answer s w = _
  induction p generalizing s w with
  | ret a => rfl
  | cut => rfl
  | get k ih => exact ih s
  | set s' k ih => exact ih
  | call c k ih =>
      simp only [Program.bind, Program.eval]
      cases answer w c with
      | none => rfl
      | some reply => exact ih reply.1

@[simp]
theorem eval_map (f : α → β) (p : Program S C R α) :
    (f <$> p).eval answer s w =
      (p.eval answer s w).map fun result => (f result.1, result.2) := by
  rw [← bind_pure_comp, eval_bind]
  cases p.eval answer s w <;> rfl

/-- A call that is answered. -/
theorem eval_ask_bind {c : C} {r : R} {w' : W} (hanswer : answer w c = some (r, w'))
    (f : R → Program S C R α) :
    (Program.ask c >>= f).eval answer s w = (f r).eval answer s w' := by
  rw [eval_bind, eval_ask, hanswer]
  rfl

end Evaluation

/-! ## The small-step semantics -/

section Scripted

variable [DecidableEq R] {answer : W → C → Option (R × W)}

theorem scripted_reply_iff {w w' : W} {c : C} {r : R} :
    (scripted answer).reply w c r = some w' ↔ answer w c = some (r, w') := by
  cases hanswer : answer w c with
  | none => simp [scripted, hanswer]
  | some reply =>
      rcases reply with ⟨r', w''⟩
      by_cases hr : r' = r <;> simp [scripted, hanswer, hr]

/-- What a run has still to return does not change from step to step. -/
theorem Step.eval_eq {cfg cfg' : Config S W C R α} (h : Step (scripted answer) anyReply cfg cfg') :
    cfg.prog.eval answer cfg.memory cfg.world = cfg'.prog.eval answer cfg'.memory cfg'.world := by
  cases h with
  | get s w k => rfl
  | set s s' w k => rfl
  | call s k hreply hassume => simp only [Program.eval, scripted_reply_iff.mp hreply]
  | act s p hact => exact isEmptyElim (α := Empty) ‹_›

theorem Reaches.eval_eq {cfg cfg' : Config S W C R α}
    (h : Reaches (scripted answer) anyReply cfg cfg') :
    cfg.prog.eval answer cfg.memory cfg.world = cfg'.prog.eval answer cfg'.memory cfg'.world := by
  induction h with
  | refl => rfl
  | tail _ hstep ih => exact ih.trans hstep.eval_eq

/-- Evaluation describes a run. -/
theorem reaches_of_eval {p : Program S C R α} {s s' : S} {w w' : W} {a : α}
    (h : p.eval answer s w = some (a, s', w')) :
    Reaches (scripted answer) anyReply ⟨s, w, p⟩ ⟨s', w', .ret a⟩ := by
  induction p generalizing s w with
  | ret a' =>
      simp only [Program.eval, Option.some.injEq, Prod.mk.injEq] at h
      obtain ⟨rfl, rfl, rfl⟩ := h
      exact Relation.ReflTransGen.refl
  | cut => simp [Program.eval] at h
  | get k ih => exact Relation.ReflTransGen.head (.get s w k) (ih s h)
  | set s₁ k ih => exact Relation.ReflTransGen.head (.set s s₁ w k) (ih h)
  | call c k ih =>
      rw [Program.eval] at h
      split at h
      next r w₁ hanswer =>
        exact Relation.ReflTransGen.head
          (.call s k (scripted_reply_iff.mpr hanswer) trivial) (ih r h)
      next => contradiction

/-- A program returns in scripted surroundings exactly what its evaluation gives. -/
theorem reaches_scripted_iff {p : Program S C R α} {s s' : S} {w w' : W} {a : α} :
    Reaches (scripted answer) anyReply ⟨s, w, p⟩ ⟨s', w', .ret a⟩ ↔
      p.eval answer s w = some (a, s', w') := by
  constructor
  · intro h
    exact h.eval_eq
  · exact reaches_of_eval

end Scripted

end Interaction
