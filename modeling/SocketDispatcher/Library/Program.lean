import Mathlib.Logic.IsEmpty.Basic
import Mathlib.Logic.Relation

/-!
# Interactive programs and their weakest preconditions

A sequential program that owns a memory and talks to its surroundings through
calls.  The surroundings are a kernel: it answers a call, and it may also move
on its own between two steps of the program.  This file fixes the syntax, the
small-step semantics against a kernel, and a weakest-precondition calculus for
safety properties of the form "whenever this call is made, ...".

A loop is unrolled a given number of times and then {lit}`cut`: nothing is said
about a run after a cut, so a statement for every number of unrollings is a
statement about every finite part of every run.

Main results:

- Theorems {lit}`sat_bind` and {lit}`Sat.mono`: the calculus is compositional.
- Theorem {lit}`sat_forEach` and theorem {lit}`sat_forUntil`: invariant rules
  for loops over a list.
- Theorem {lit}`Within.sat`: a program that only makes harmless calls and only
  writes harmless memories keeps an invariant, whatever it computes.
- Theorem {lit}`Sat.safe`: a program that satisfies the calculus keeps its
  guarantee in every reachable configuration.
- Theorem {lit}`Can.reaches`: a second calculus, for what some run may do.
- Theorem {lit}`Sat.returns`: a run that returns meets every postcondition that the
  surroundings keep.
- Theorem {lit}`not_safe_of_exec`: one scripted run refutes a guarantee.
- Theorem {lit}`hide_bind`: hiding calls is compositional.

Current gaps:

- Progress is not treated: a kernel may refuse every answer, and the calculus is
  then vacuous for the rest of the run.
-/

namespace Interaction

/-! ## Syntax -/

/-- A program over memory {lit}`S` that makes calls {lit}`C`, receives replies
{lit}`R` and returns a value of type {lit}`α`. -/
inductive Program (S C R α : Type) : Type where
  /-- The program has returned. -/
  | ret (a : α)
  /-- The run is not followed any further. -/
  | cut
  /-- Read the whole memory. -/
  | get (k : S → Program S C R α)
  /-- Write the whole memory. -/
  | set (s : S) (k : Program S C R α)
  /-- Make a call and continue with the reply. -/
  | call (c : C) (k : R → Program S C R α)

namespace Program

variable {S C R α β : Type}

/-- Sequencing. -/
protected def bind : Program S C R α → (α → Program S C R β) → Program S C R β
  | ret a, f => f a
  | cut, _ => cut
  | get k, f => get fun s => (k s).bind f
  | set s k, f => set s (k.bind f)
  | call c k, f => call c fun r => (k r).bind f

instance : Monad (Program S C R) where
  pure := ret
  bind := Program.bind

protected theorem bind_ret (p : Program S C R α) : p.bind ret = p := by
  induction p with
  | ret a => rfl
  | cut => rfl
  | get k ih => exact congrArg get (funext ih)
  | set s k ih => exact congrArg (set s) ih
  | call c k ih => exact congrArg (call c) (funext ih)

protected theorem bind_bind {γ : Type} (p : Program S C R α) (f : α → Program S C R β)
    (g : β → Program S C R γ) : (p.bind f).bind g = p.bind fun a => (f a).bind g := by
  induction p with
  | ret a => rfl
  | cut => rfl
  | get k ih => exact congrArg get (funext ih)
  | set s k ih => exact congrArg (set s) ih
  | call c k ih => exact congrArg (call c) (funext ih)

instance : LawfulMonad (Program S C R) :=
  LawfulMonad.mk' _ Program.bind_ret (fun _ _ => rfl) Program.bind_bind

instance : MonadStateOf S (Program S C R) where
  get := get ret
  set s := set s (ret ⟨⟩)
  modifyGet f := get fun s => set (f s).2 (ret (f s).1)

/-- Make one call and return its reply. -/
def ask (c : C) : Program S C R R :=
  call c ret

/-- Run a body if a condition holds. -/
def when (c : Bool) (p : Program S C R Unit) : Program S C R Unit :=
  if c then p else pure ()

/-- Run a body for every element of a list, in order. -/
def forEach : List β → (β → Program S C R Unit) → Program S C R Unit
  | [], _ => pure ()
  | x :: xs, f => do
      f x
      forEach xs f

/-- Run a body for every element of a list, in order, until one of them asks to
leave the loop.  The result tells whether the loop was left early. -/
def forUntil : List β → (β → Program S C R Bool) → Program S C R Bool
  | [], _ => pure false
  | x :: xs, f => do
      let stop ← f x
      if stop then pure true else forUntil xs f

/-- Run a body until it asks to leave the loop, at most the given number of
times. -/
def repeatUntil (f : Program S C R Bool) : Nat → Program S C R Unit
  | 0 => cut
  | n + 1 => do
      let stop ← f
      if stop then pure () else repeatUntil f n

end Program

/-! ## Kernels and runs -/

/-- The surroundings of a program.  Both maps are partial: {lean}`none` marks a
reply that cannot be given, or a move that cannot be made, in that world. -/
structure Kernel (W C R A : Type) where
  /-- The world after a call has been answered by a reply. -/
  reply : W → C → R → Option W
  /-- The world after the surroundings have moved on their own. -/
  act : W → A → Option W

variable {S W C R A α β : Type}

/-- The surroundings make any number of moves. -/
def Kernel.Acts (K : Kernel W C R A) : W → W → Prop :=
  Relation.ReflTransGen fun w w' => ∃ a, K.act w a = some w'

theorem Kernel.acts_refl (K : Kernel W C R A) (w : W) : K.Acts w w :=
  Relation.ReflTransGen.refl

/-- Surroundings without moves of their own leave the world as it is. -/
theorem Kernel.acts_iff_of_isEmpty [IsEmpty A] (K : Kernel W C R A) {w w' : W} :
    K.Acts w w' ↔ w' = w := by
  constructor
  · intro h
    induction h with
    | refl => rfl
    | tail _ hstep _ =>
        rcases hstep with ⟨a, _⟩
        exact isEmptyElim a
  · rintro rfl
    exact K.acts_refl w'

/-- A property kept by every single move is kept by any number of them. -/
theorem Kernel.Acts.keeps {K : Kernel W C R A} {J : W → Prop}
    (hact : ∀ w a w', K.act w a = some w' → J w → J w') {w w' : W}
    (h : K.Acts w w') (hJ : J w) : J w' := by
  induction h with
  | refl => exact hJ
  | tail _ hstep ih =>
      rcases hstep with ⟨a, ha⟩
      exact hact _ a _ ha ih

/-- A running program together with its memory and its surroundings. -/
structure Config (S W C R α : Type) where
  memory : S
  world : W
  prog : Program S C R α

/-- One step of a run in which every answered call meets the assumption
{lit}`H`. -/
inductive Step (K : Kernel W C R A) (H : S → W → C → R → Prop) :
    Config S W C R α → Config S W C R α → Prop where
  | get (s : S) (w : W) (k : S → Program S C R α) :
      Step K H ⟨s, w, .get k⟩ ⟨s, w, k s⟩
  | set (s s' : S) (w : W) (k : Program S C R α) :
      Step K H ⟨s, w, .set s' k⟩ ⟨s', w, k⟩
  | call {w w' : W} (s : S) {c : C} {r : R} (k : R → Program S C R α)
      (hreply : K.reply w c r = some w') (hassume : H s w c r) :
      Step K H ⟨s, w, .call c k⟩ ⟨s, w', k r⟩
  | act {w w' : W} {a : A} (s : S) (p : Program S C R α)
      (hact : K.act w a = some w') :
      Step K H ⟨s, w, p⟩ ⟨s, w', p⟩

/-- Configurations that a run can reach. -/
def Reaches (K : Kernel W C R A) (H : S → W → C → R → Prop) :
    Config S W C R α → Config S W C R α → Prop :=
  Relation.ReflTransGen (Step K H)

/-- A step of a program is a step of every program that begins with it. -/
theorem Step.bind {K : Kernel W C R A} {H : S → W → C → R → Prop} {cfg cfg' : Config S W C R α}
    (h : Step K H cfg cfg') (f : α → Program S C R β) :
    Step K H ⟨cfg.memory, cfg.world, cfg.prog >>= f⟩
      ⟨cfg'.memory, cfg'.world, cfg'.prog >>= f⟩ := by
  cases h with
  | get s w k => exact .get s w fun s => k s >>= f
  | set s s' w k => exact .set s s' w (k >>= f)
  | call s k hreply hassume => exact .call s (fun r => k r >>= f) hreply hassume
  | act s p hact => exact .act s (p >>= f) hact

/-- So is a run. -/
theorem Reaches.bind {K : Kernel W C R A} {H : S → W → C → R → Prop}
    {cfg cfg' : Config S W C R α} (h : Reaches K H cfg cfg') (f : α → Program S C R β) :
    Reaches K H ⟨cfg.memory, cfg.world, cfg.prog >>= f⟩
      ⟨cfg'.memory, cfg'.world, cfg'.prog >>= f⟩ := by
  induction h with
  | refl => exact Relation.ReflTransGen.refl
  | tail _ hstep ih => exact ih.tail (hstep.bind f)

/-- Every run whose answered calls all meet {lit}`H` meets the guarantee
{lit}`G` at every call it makes. -/
def Safe (K : Kernel W C R A) (H : S → W → C → R → Prop) (G : S → W → C → Prop)
    (cfg : Config S W C R α) : Prop :=
  ∀ cfg', Reaches K H cfg cfg' → ∀ c k, cfg'.prog = .call c k →
    G cfg'.memory cfg'.world c

/-- No assumption on the answered calls. -/
def anyReply : S → W → C → R → Prop :=
  fun _ _ _ _ => True

/-! ## The weakest precondition of a guarantee -/

/-- From memory {lit}`s` and world {lit}`w`, every call of the program meets
{lit}`G`, and the postcondition {lit}`Q` holds if the program returns; only
runs whose answered calls meet {lit}`H` count. -/
def Sat (K : Kernel W C R A) (H : S → W → C → R → Prop) (G : S → W → C → Prop) :
    Program S C R α → (S → W → α → Prop) → S → W → Prop
  | .ret a, Q, s, w => Q s w a
  | .cut, _, _, _ => True
  | .get k, Q, s, w => Sat K H G (k s) Q s w
  | .set s' k, Q, _, w => Sat K H G k Q s' w
  | .call c k, Q, s, w => ∀ w₁, K.Acts w w₁ →
      G s w₁ c ∧ ∀ r w₂, K.reply w₁ c r = some w₂ → H s w₁ c r →
        Sat K H G (k r) Q s w₂

section Rules

variable {K : Kernel W C R A} {H : S → W → C → R → Prop} {G : S → W → C → Prop}
variable {Q Q' : S → W → α → Prop} {s : S} {w : W}

@[simp]
theorem sat_pure (a : α) : Sat K H G (pure a) Q s w ↔ Q s w a :=
  Iff.rfl

@[simp]
theorem sat_cut : Sat K H G (.cut : Program S C R α) Q s w :=
  trivial

@[simp]
theorem sat_bind (p : Program S C R α) (f : α → Program S C R β)
    (Q : S → W → β → Prop) :
    Sat K H G (p >>= f) Q s w ↔
      Sat K H G p (fun s w a => Sat K H G (f a) Q s w) s w := by
  change Sat K H G (p.bind f) Q s w ↔ _
  induction p generalizing s w with
  | ret a => rfl
  | cut => rfl
  | get k ih => exact ih s
  | set s' k ih => exact ih
  | call c k ih =>
      constructor <;> intro h w₁ hacts <;> refine ⟨(h w₁ hacts).1, ?_⟩
      · intro r w₂ hreply hassume
        exact (ih r).mp ((h w₁ hacts).2 r w₂ hreply hassume)
      · intro r w₂ hreply hassume
        exact (ih r).mpr ((h w₁ hacts).2 r w₂ hreply hassume)

@[simp]
theorem sat_get (Q : S → W → S → Prop) :
    Sat K H G (get : Program S C R S) Q s w ↔ Q s w s :=
  Iff.rfl

@[simp]
theorem sat_set (s' : S) (Q : S → W → PUnit → Prop) :
    Sat K H G (set s' : Program S C R PUnit) Q s w ↔ Q s' w ⟨⟩ :=
  Iff.rfl

@[simp]
theorem sat_modify (f : S → S) (Q : S → W → PUnit → Prop) :
    Sat K H G (modify f : Program S C R PUnit) Q s w ↔ Q (f s) w ⟨⟩ :=
  Iff.rfl

theorem sat_ask (c : C) (Q : S → W → R → Prop) :
    Sat K H G (Program.ask c) Q s w ↔
      ∀ w₁, K.Acts w w₁ → G s w₁ c ∧
        ∀ r w₂, K.reply w₁ c r = some w₂ → H s w₁ c r → Q s w₂ r :=
  Iff.rfl

/-- A call in surroundings that do not move on their own. -/
theorem sat_ask_closed [IsEmpty A] (c : C) (Q : S → W → R → Prop) :
    Sat K H G (Program.ask c) Q s w ↔
      G s w c ∧ ∀ r w₂, K.reply w c r = some w₂ → H s w c r → Q s w₂ r := by
  rw [sat_ask]
  constructor
  · intro h
    exact h w (K.acts_refl w)
  · intro h w₁ hacts
    rw [K.acts_iff_of_isEmpty.mp hacts]
    exact h

@[simp]
theorem sat_ite (c : Prop) [Decidable c] (p q : Program S C R α) :
    Sat K H G (if c then p else q) Q s w ↔
      if c then Sat K H G p Q s w else Sat K H G q Q s w := by
  split <;> rfl

@[simp]
theorem sat_when (c : Bool) (p : Program S C R Unit) (Q : S → W → Unit → Prop) :
    Sat K H G (Program.when c p) Q s w ↔
      if c then Sat K H G p Q s w else Q s w () := by
  cases c <;> rfl

@[simp]
theorem sat_dite (c : Prop) [Decidable c] (p : c → Program S C R α)
    (q : ¬c → Program S C R α) :
    Sat K H G (if h : c then p h else q h) Q s w ↔
      if h : c then Sat K H G (p h) Q s w else Sat K H G (q h) Q s w := by
  split <;> rfl

/-- The calculus is monotone in the postcondition. -/
theorem Sat.mono {p : Program S C R α} (h : Sat K H G p Q s w)
    (himp : ∀ s w a, Q s w a → Q' s w a) : Sat K H G p Q' s w := by
  induction p generalizing s w with
  | ret a => exact himp s w a h
  | cut => trivial
  | get k ih => exact ih s h
  | set s' k ih => exact ih h
  | call c k ih =>
      intro w₁ hacts
      refine ⟨(h w₁ hacts).1, ?_⟩
      intro r w₂ hreply hassume
      exact ih r ((h w₁ hacts).2 r w₂ hreply hassume)

/-- A call does not change the memory. -/
theorem Sat.ask_mono {c : C} {Q Q' : S → W → R → Prop}
    (h : Sat K H G (Program.ask c) Q s w) (himp : ∀ w r, Q s w r → Q' s w r) :
    Sat K H G (Program.ask c) Q' s w := by
  intro w₁ hacts
  refine ⟨(h w₁ hacts).1, ?_⟩
  intro r w₂ hreply hassume
  exact himp w₂ r ((h w₁ hacts).2 r w₂ hreply hassume)

/-- Two postconditions established by one program hold together. -/
theorem Sat.and {p : Program S C R α} (h : Sat K H G p Q s w)
    (h' : Sat K H G p Q' s w) :
    Sat K H G p (fun s w a => Q s w a ∧ Q' s w a) s w := by
  induction p generalizing s w with
  | ret a => exact ⟨h, h'⟩
  | cut => trivial
  | get k ih => exact ih s h h'
  | set s' k ih => exact ih h h'
  | call c k ih =>
      intro w₁ hacts
      refine ⟨(h w₁ hacts).1, ?_⟩
      intro r w₂ hreply hassume
      exact ih r ((h w₁ hacts).2 r w₂ hreply hassume)
        ((h' w₁ hacts).2 r w₂ hreply hassume)

/-- Run a specified program first, then the rest from its postcondition. -/
theorem Sat.seq {p : Program S C R α} {f : α → Program S C R β}
    {Q' : S → W → β → Prop} (h : Sat K H G p Q s w)
    (hrest : ∀ s w a, Q s w a → Sat K H G (f a) Q' s w) :
    Sat K H G (p >>= f) Q' s w :=
  (sat_bind p f Q').mpr (h.mono hrest)

/-! ## Invariant rules for loops -/

/-- Invariant rule for a loop over a list.  The invariant may speak about the
elements still to come. -/
theorem sat_forEach {f : β → Program S C R Unit} (Inv : List β → S → W → Prop)
    (hbody : ∀ x xs s w, Inv (x :: xs) s w →
      Sat K H G (f x) (fun s w _ => Inv xs s w) s w)
    (xs : List β) (hinit : Inv xs s w) :
    Sat K H G (Program.forEach xs f) (fun s w _ => Inv [] s w) s w := by
  induction xs generalizing s w with
  | nil => exact hinit
  | cons x xs ih =>
      rw [Program.forEach]
      exact (hbody x xs s w hinit).seq fun _ _ _ h => ih h

/-- Invariant rule for a loop over a list that may be left early. -/
theorem sat_forUntil {f : β → Program S C R Bool} (Inv : List β → S → W → Prop)
    (Stopped : S → W → Prop)
    (hbody : ∀ x xs s w, Inv (x :: xs) s w →
      Sat K H G (f x) (fun s w stop => if stop then Stopped s w else Inv xs s w) s w)
    (xs : List β) (hinit : Inv xs s w) :
    Sat K H G (Program.forUntil xs f)
      (fun s w stop => if stop then Stopped s w else Inv [] s w) s w := by
  induction xs generalizing s w with
  | nil => simpa [Program.forUntil] using hinit
  | cons x xs ih =>
      rw [Program.forUntil]
      refine (hbody x xs s w hinit).seq ?_
      intro s w stop h
      cases stop with
      | true => simpa using h
      | false => simpa using ih (by simpa using h)

/-- Invariant rule for an unbounded loop. -/
theorem sat_repeatUntil {f : Program S C R Bool} (Inv : S → W → Prop)
    (Stopped : S → W → Prop)
    (hbody : ∀ s w, Inv s w →
      Sat K H G f (fun s w stop => if stop then Stopped s w else Inv s w) s w)
    (n : Nat) (hinit : Inv s w) :
    Sat K H G (Program.repeatUntil f n) (fun s w _ => Stopped s w) s w := by
  induction n generalizing s w with
  | zero => trivial
  | succ n ih =>
      rw [Program.repeatUntil]
      refine (hbody s w hinit).seq ?_
      intro s w stop h
      cases stop with
      | true => simpa using h
      | false => simpa using ih (by simpa using h)

end Rules

/-! ## Possible runs -/

/-- From memory {lit}`s` and world {lit}`w`, some run of the program returns with the
postcondition {lit}`Q`, its answered calls all meeting {lit}`H`. -/
def Can (K : Kernel W C R A) (H : S → W → C → R → Prop) :
    Program S C R α → (S → W → α → Prop) → S → W → Prop
  | .ret a, Q, s, w => Q s w a
  | .cut, _, _, _ => False
  | .get k, Q, s, w => Can K H (k s) Q s w
  | .set s' k, Q, _, w => Can K H k Q s' w
  | .call c k, Q, s, w => ∃ r w', K.reply w c r = some w' ∧ H s w c r ∧ Can K H (k r) Q s w'

section Possible

variable {K : Kernel W C R A} {H : S → W → C → R → Prop}
variable {Q : S → W → α → Prop} {s : S} {w : W}

@[simp]
theorem can_pure (a : α) : Can K H (pure a) Q s w ↔ Q s w a :=
  Iff.rfl

@[simp]
theorem can_bind (p : Program S C R α) (f : α → Program S C R β) (Q : S → W → β → Prop) :
    Can K H (p >>= f) Q s w ↔ Can K H p (fun s w a => Can K H (f a) Q s w) s w := by
  change Can K H (p.bind f) Q s w ↔ _
  induction p generalizing s w with
  | ret a => rfl
  | cut => rfl
  | get k ih => exact ih s
  | set s' k ih => exact ih
  | call c k ih =>
      constructor
      · rintro ⟨r, w', hreply, hassume, h⟩
        exact ⟨r, w', hreply, hassume, (ih r).mp h⟩
      · rintro ⟨r, w', hreply, hassume, h⟩
        exact ⟨r, w', hreply, hassume, (ih r).mpr h⟩

@[simp]
theorem can_get (Q : S → W → S → Prop) :
    Can K H (get : Program S C R S) Q s w ↔ Q s w s :=
  Iff.rfl

@[simp]
theorem can_set (s' : S) (Q : S → W → PUnit → Prop) :
    Can K H (set s' : Program S C R PUnit) Q s w ↔ Q s' w ⟨⟩ :=
  Iff.rfl

@[simp]
theorem can_modify (f : S → S) (Q : S → W → PUnit → Prop) :
    Can K H (modify f : Program S C R PUnit) Q s w ↔ Q (f s) w ⟨⟩ :=
  Iff.rfl

/-- A call may be answered by any reply that the kernel gives. -/
theorem can_ask {c : C} {Q : S → W → R → Prop} (r : R) {w' : W} (hreply : K.reply w c r = some w')
    (hassume : H s w c r) (hQ : Q s w' r) : Can K H (Program.ask c) Q s w :=
  ⟨r, w', hreply, hassume, hQ⟩

@[simp]
theorem can_ite (c : Prop) [Decidable c] (p q : Program S C R α) :
    Can K H (if c then p else q) Q s w ↔ if c then Can K H p Q s w else Can K H q Q s w := by
  split <;> rfl

@[simp]
theorem can_dite (c : Prop) [Decidable c] (p : c → Program S C R α)
    (q : ¬c → Program S C R α) :
    Can K H (if h : c then p h else q h) Q s w ↔
      if h : c then Can K H (p h) Q s w else Can K H (q h) Q s w := by
  split <;> rfl

/-- This calculus is monotone in the postcondition as well. -/
theorem Can.mono {Q' : S → W → α → Prop} {p : Program S C R α} (h : Can K H p Q s w)
    (himp : ∀ s w a, Q s w a → Q' s w a) : Can K H p Q' s w := by
  induction p generalizing s w with
  | ret a => exact himp s w a h
  | cut => exact h
  | get k ih => exact ih s h
  | set s' k ih => exact ih h
  | call c k ih =>
      obtain ⟨r, w', hreply, hassume, h⟩ := h
      exact ⟨r, w', hreply, hassume, ih r h⟩

/-- What may happen describes a run. -/
theorem Can.reaches {p : Program S C R α} (h : Can K H p Q s w) :
    ∃ s' w' a, Reaches K H ⟨s, w, p⟩ ⟨s', w', .ret a⟩ ∧ Q s' w' a := by
  induction p generalizing s w with
  | ret a => exact ⟨s, w, a, Relation.ReflTransGen.refl, h⟩
  | cut => exact h.elim
  | get k ih =>
      obtain ⟨s', w', a, hreaches, hQ⟩ := ih s h
      exact ⟨s', w', a, hreaches.head (.get s w k), hQ⟩
  | set s₁ k ih =>
      obtain ⟨s', w', a, hreaches, hQ⟩ := ih h
      exact ⟨s', w', a, hreaches.head (.set s s₁ w k), hQ⟩
  | call c k ih =>
      obtain ⟨r, w₁, hreply, hassume, h⟩ := h
      obtain ⟨s', w', a, hreaches, hQ⟩ := ih r h
      exact ⟨s', w', a, hreaches.head (.call s k hreply hassume), hQ⟩

end Possible

/-! ## Harmless programs -/

/-- Whatever it is told, the program only makes calls in {lit}`P` and only
writes memories in {lit}`I` when it reads memories in {lit}`I`. -/
def Within (I : S → Prop) (P : C → Prop) : Program S C R α → Prop
  | .ret _ => True
  | .cut => True
  | .get k => ∀ s, I s → Within I P (k s)
  | .set s k => I s ∧ Within I P k
  | .call c k => P c ∧ ∀ r, Within I P (k r)

section Harmless

variable {I : S → Prop} {P : C → Prop}

theorem within_pure (a : α) : Within I P (pure a : Program S C R α) :=
  trivial

theorem within_bind {p : Program S C R α} {f : α → Program S C R β}
    (hp : Within I P p) (hf : ∀ a, Within I P (f a)) : Within I P (p >>= f) := by
  change Within I P (p.bind f)
  induction p with
  | ret a => exact hf a
  | cut => trivial
  | get k ih => exact fun s hs => ih s (hp s hs)
  | set s' k ih => exact ⟨hp.1, ih hp.2⟩
  | call c k ih => exact ⟨hp.1, fun r => ih r (hp.2 r)⟩

/-- A memory that has been read is known to be in {lit}`I`. -/
theorem within_get_bind {f : S → Program S C R α}
    (hf : ∀ s, I s → Within I P (f s)) : Within I P (get >>= f) :=
  fun s hs => hf s hs

theorem within_set {s : S} (hs : I s) :
    Within I P (set s : Program S C R PUnit) :=
  ⟨hs, trivial⟩

theorem within_modify {f : S → S} (hf : ∀ s, I s → I (f s)) :
    Within I P (modify f : Program S C R PUnit) :=
  fun s hs => ⟨hf s hs, trivial⟩

theorem within_ask {c : C} (hc : P c) :
    Within I P (Program.ask c : Program S C R R) :=
  ⟨hc, fun _ => trivial⟩

theorem within_ite {c : Prop} [Decidable c] {p q : Program S C R α}
    (hp : Within I P p) (hq : Within I P q) : Within I P (if c then p else q) := by
  split
  · exact hp
  · exact hq

theorem within_when {c : Bool} {p : Program S C R Unit} (hp : Within I P p) :
    Within I P (Program.when c p) :=
  within_ite hp trivial

theorem within_forEach {f : β → Program S C R Unit} {xs : List β}
    (hf : ∀ x, Within I P (f x)) : Within I P (Program.forEach xs f) := by
  induction xs with
  | nil => trivial
  | cons x xs ih =>
      rw [Program.forEach]
      exact within_bind (hf x) fun _ => ih

/-- Every program stays within everything. -/
theorem within_true (p : Program S C R α) : Within (fun _ => True) (fun _ => True) p := by
  induction p with
  | ret a => trivial
  | cut => trivial
  | get k ih => exact fun s _ => ih s
  | set s k ih => exact ⟨trivial, ih⟩
  | call c k ih => exact ⟨trivial, ih⟩

end Harmless

/-! ## Quiet calls -/

/-- Calls in {lit}`P` never break the guarantee and keep the world invariant
{lit}`J`, as long as the memory is in {lit}`I`.  So do the moves of the
surroundings. -/
structure Quiet (K : Kernel W C R A) (H : S → W → C → R → Prop)
    (G : S → W → C → Prop) (I : S → Prop) (P : C → Prop) (J : W → Prop) : Prop where
  guarantee : ∀ s w c, I s → P c → J w → G s w c
  reply : ∀ s w c r w', I s → P c → K.reply w c r = some w' → H s w c r → J w → J w'
  act : ∀ w a w', K.act w a = some w' → J w → J w'

section Quiet

variable {K : Kernel W C R A} {H : S → W → C → R → Prop} {G : S → W → C → Prop}
variable {I : S → Prop} {P : C → Prop} {J : W → Prop}

/-- Fewer memories and fewer calls are as quiet. -/
theorem Quiet.mono {I' : S → Prop} {P' : C → Prop} (hquiet : Quiet K H G I P J)
    (hI : ∀ s, I' s → I s) (hP : ∀ c, P' c → P c) : Quiet K H G I' P' J where
  guarantee s w c hs hc := hquiet.guarantee s w c (hI s hs) (hP c hc)
  reply s w c r w' hs hc := hquiet.reply s w c r w' (hI s hs) (hP c hc)
  act := hquiet.act

/-- The surroundings keep a property of the world until the call is answered. -/
theorem sat_ask_keeps (hact : ∀ w a w', K.act w a = some w' → J w → J w') {c : C}
    {Q : S → W → R → Prop} {s : S} {w : W} (hJ : J w) (hG : ∀ w, J w → G s w c)
    (hQ : ∀ w r w', J w → K.reply w c r = some w' → H s w c r → Q s w' r) :
    Sat K H G (Program.ask c) Q s w := by
  rw [sat_ask]
  intro w₁ hacts
  have hJ₁ : J w₁ := hacts.keeps hact hJ
  refine ⟨hG w₁ hJ₁, ?_⟩
  intro r w₂ hreply hassume
  exact hQ w₁ r w₂ hJ₁ hreply hassume

/-- A quiet call keeps the memory and the world invariant. -/
theorem sat_ask_quiet (hquiet : Quiet K H G I P J) {c : C} (hc : P c)
    {Q : S → W → R → Prop} {s : S} {w : W} (hI : I s) (hJ : J w)
    (hQ : ∀ r w', J w' → Q s w' r) : Sat K H G (Program.ask c) Q s w := by
  apply sat_ask_keeps hquiet.act hJ
  · intro w₁ hJ₁
    exact hquiet.guarantee s w₁ c hI hc hJ₁
  · intro w₁ r w₂ hJ₁ hreply hassume
    exact hQ r w₂ (hquiet.reply s w₁ c r w₂ hI hc hreply hassume hJ₁)

/-- A harmless program keeps every invariant of its quiet calls. -/
theorem Within.sat (hquiet : Quiet K H G I P J) {p : Program S C R α}
    (hp : Within I P p) {s : S} {w : W} (hI : I s) (hJ : J w) :
    Sat K H G p (fun s w _ => I s ∧ J w) s w := by
  induction p generalizing s w with
  | ret a => exact ⟨hI, hJ⟩
  | cut => trivial
  | get k ih => exact ih s (hp s hI) hI hJ
  | set s' k ih => exact ih hp.2 hp.1 hJ
  | call c k ih =>
      have hask := sat_ask_quiet (Q := fun s w r => Sat K H G (k r) (fun s w _ => I s ∧ J w) s w)
        hquiet hp.1 hI hJ fun r w' hJ' => ih r (hp.2 r) hI hJ'
      exact hask

end Quiet

/-! ## Observers -/

/-- Surroundings that give every reply and only keep a record of the calls. -/
def observer (record : W → C → R → W) : Kernel W C R Empty where
  reply w c r := some (record w c r)
  act _ a := nomatch a

/-- Surroundings that give every reply and keep no record. -/
def oblivious : Kernel Unit C R Empty :=
  observer fun w _ _ => w

/-- A call to an observer is recorded with every reply. -/
theorem sat_ask_observer {record : W → C → R → W} {G : S → W → C → Prop} {c : C}
    {Q : S → W → R → Prop} {s : S} {w : W} :
    Sat (observer record) anyReply G (Program.ask c) Q s w ↔
      G s w c ∧ ∀ r, Q s (record w c r) r := by
  rw [sat_ask_closed]
  constructor
  · exact fun h => ⟨h.1, fun r => h.2 r _ rfl trivial⟩
  · rintro ⟨hG, hQ⟩
    refine ⟨hG, fun r w' hreply _ => ?_⟩
    obtain rfl := Option.some.inj hreply
    exact hQ r

/-- Calls that leave no trace in the record are quiet for an observer. -/
theorem observer_quiet {record : W → C → R → W} {H : S → W → C → R → Prop}
    {G : S → W → C → Prop} {I : S → Prop} {P : C → Prop} {w : W}
    (hG : ∀ s c, I s → P c → G s w c) (hrecord : ∀ c r, P c → record w c r = w) :
    Quiet (observer record) H G I P (· = w) where
  guarantee s _ c hI hc hJ := hJ ▸ hG s c hI hc
  reply _ w₁ c r w' _ hc hreply _ hJ := by
    have hw' : record w₁ c r = w' := by simpa [observer] using hreply
    rw [← hw', hJ, hrecord c r hc]
  act _ a _ _ _ := nomatch a

/-! ## Hidden calls -/

section Hidden

variable {D : Type} (view : D → Option C) (r₀ : R)

/-- A program with some of its calls renamed and the others hidden: these are answered
by {lit}`r₀` on the spot. -/
def Program.hide : Program S D R α → Program S C R α
  | .ret a => .ret a
  | .cut => .cut
  | .get k => .get fun s => (k s).hide
  | .set s k => .set s k.hide
  | .call d k =>
      match view d with
      | some c => .call c fun r => (k r).hide
      | none => (k r₀).hide

theorem hide_ask_of_some {d : D} {c : C} (hview : view d = some c) :
    (Program.ask d : Program S D R R).hide view r₀ = Program.ask c := by
  simp only [Program.ask, Program.hide, hview]

theorem hide_ask_of_none {d : D} (hview : view d = none) :
    (Program.ask d : Program S D R R).hide view r₀ = pure r₀ := by
  simp only [Program.ask, Program.hide, hview]
  rfl

@[simp]
theorem hide_bind (p : Program S D R α) (f : α → Program S D R β) :
    (p >>= f).hide view r₀ = p.hide view r₀ >>= fun a => (f a).hide view r₀ := by
  change (p.bind f).hide view r₀ = (p.hide view r₀).bind fun a => (f a).hide view r₀
  induction p with
  | ret a => rfl
  | cut => rfl
  | get k ih => exact congrArg Program.get (funext ih)
  | set s k ih => exact congrArg (Program.set s) ih
  | call d k ih =>
      simp only [Program.bind, Program.hide]
      cases view d with
      | some c => exact congrArg (Program.call c) (funext ih)
      | none => exact ih r₀

end Hidden

/-! ## Soundness -/

section Soundness

variable {K : Kernel W C R A} {H : S → W → C → R → Prop} {G : S → W → C → Prop}

/-- Moves of the surroundings keep a postcondition. -/
def Stable (K : Kernel W C R A) (Q : S → W → α → Prop) : Prop :=
  ∀ s w x w' a, K.act w x = some w' → Q s w a → Q s w' a

theorem stable_true : Stable K fun (_ : S) (_ : W) (_ : α) => True :=
  fun _ _ _ _ _ _ _ => trivial

/-- Surroundings without moves keep everything. -/
theorem stable_of_isEmpty [IsEmpty A] (Q : S → W → α → Prop) : Stable K Q :=
  fun _ _ x _ _ _ _ => isEmptyElim x

/-- A move of the surroundings keeps a stable postcondition in reach. -/
theorem Sat.act {p : Program S C R α} {Q : S → W → α → Prop} (hQ : Stable K Q)
    {s : S} {w w' : W} {x : A} (h : Sat K H G p Q s w) (hx : K.act w x = some w') :
    Sat K H G p Q s w' := by
  induction p generalizing s with
  | ret a => exact hQ s w x w' a hx h
  | cut => trivial
  | get k ih => exact ih s h
  | set s' k ih => exact ih h
  | call c k _ =>
      intro w₁ hacts
      exact h w₁ (Relation.ReflTransGen.head ⟨x, hx⟩ hacts)

theorem Sat.step {Q : S → W → α → Prop} (hQ : Stable K Q) {cfg cfg' : Config S W C R α}
    (h : Sat K H G cfg.prog Q cfg.memory cfg.world) (hstep : Step K H cfg cfg') :
    Sat K H G cfg'.prog Q cfg'.memory cfg'.world := by
  cases hstep with
  | get s w k => exact h
  | set s s' w k => exact h
  | call s k hreply hassume => exact (h _ (K.acts_refl _)).2 _ _ hreply hassume
  | act s p hact => exact h.act hQ hact

theorem Sat.reaches {Q : S → W → α → Prop} (hQ : Stable K Q) {cfg cfg' : Config S W C R α}
    (hreaches : Reaches K H cfg cfg') (h : Sat K H G cfg.prog Q cfg.memory cfg.world) :
    Sat K H G cfg'.prog Q cfg'.memory cfg'.world := by
  induction hreaches with
  | refl => exact h
  | tail _ hstep ih => exact ih.step hQ hstep

/-- The calculus is sound: a program that satisfies it keeps its guarantee in
every configuration that a run reaches. -/
theorem Sat.safe {p : Program S C R α} {s : S} {w : W}
    (h : Sat K H G p (fun _ _ _ => True) s w) : Safe K H G ⟨s, w, p⟩ := by
  intro cfg' hreaches c k hcall
  have hcfg := Sat.reaches stable_true hreaches h
  rw [hcall] at hcfg
  exact (hcfg _ (K.acts_refl _)).1

/-- A run that returns meets a stable postcondition. -/
theorem Sat.returns {p : Program S C R α} {Q : S → W → α → Prop} (hQ : Stable K Q)
    {s s' : S} {w w' : W} {a : α} (h : Sat K H G p Q s w)
    (hreaches : Reaches K H ⟨s, w, p⟩ ⟨s', w', .ret a⟩) : Q s' w' a :=
  Sat.reaches hQ hreaches h

/-! ## Scripted runs -/

/-- Run the local steps of a program up to its next call, return or cut. -/
def Program.settle : S → Program S C R α → S × Program S C R α
  | s, .get k => settle s (k s)
  | _, .set s' k => settle s' k
  | s, p => (s, p)

/-- Run a script: each entry is a move of the surroundings or the reply to the
pending call.  The result is {lean}`none` when an entry does not fit. -/
def exec (K : Kernel W C R A) :
    Config S W C R α → List (A ⊕ R) → Option (Config S W C R α)
  | ⟨s, w, p⟩, [] => some ⟨(p.settle s).1, w, (p.settle s).2⟩
  | ⟨s, w, p⟩, .inl a :: ms =>
      match K.act w a with
      | some w' => exec K ⟨s, w', p⟩ ms
      | none => none
  | ⟨s, w, p⟩, .inr r :: ms =>
      match p.settle s with
      | (s', .call c k) =>
          match K.reply w c r with
          | some w' => exec K ⟨s', w', k r⟩ ms
          | none => none
      | _ => none

theorem reaches_settle (p : Program S C R α) (s : S) (w : W) :
    Reaches K H ⟨s, w, p⟩ ⟨(p.settle s).1, w, (p.settle s).2⟩ := by
  induction p generalizing s with
  | ret a => exact Relation.ReflTransGen.refl
  | cut => exact Relation.ReflTransGen.refl
  | get k ih => exact Relation.ReflTransGen.head (Step.get s w k) (ih s s)
  | set s' k ih => exact Relation.ReflTransGen.head (Step.set s s' w k) (ih s')
  | call c k _ => exact Relation.ReflTransGen.refl

/-- A script that fits describes a run. -/
theorem reaches_of_exec {ms : List (A ⊕ R)} {cfg cfg' : Config S W C R α}
    (h : exec K cfg ms = some cfg') : Reaches K anyReply cfg cfg' := by
  induction ms generalizing cfg with
  | nil =>
      rcases cfg with ⟨s, w, p⟩
      simp only [exec, Option.some.injEq] at h
      rw [← h]
      exact reaches_settle p s w
  | cons m ms ih =>
      rcases cfg with ⟨s, w, p⟩
      cases m with
      | inl a =>
          simp only [exec] at h
          split at h
          next w' hact => exact Relation.ReflTransGen.head (Step.act s p hact) (ih h)
          next => contradiction
      | inr r =>
          simp only [exec] at h
          split at h
          next s' c k hsettle =>
            split at h
            next w' hreply =>
              have hlocal : Reaches K anyReply ⟨s, w, p⟩ ⟨s', w, .call c k⟩ := by
                simpa [hsettle] using reaches_settle (K := K) (H := anyReply) p s w
              have hstep : Step K anyReply ⟨s', w, .call c k⟩ ⟨s', w', k r⟩ :=
                Step.call s' k hreply trivial
              exact hlocal.trans (Relation.ReflTransGen.head hstep (ih h))
            next => contradiction
          next => contradiction

/-- The call that a configuration waits on, if any, fails the check. -/
def faulty (check : S → W → C → Bool) : Option (Config S W C R α) → Bool
  | some ⟨s, w, .call c _⟩ => !check s w c
  | _ => false

/-- A script whose last pending call misses the guarantee refutes safety. -/
theorem not_safe_of_exec (check : S → W → C → Bool)
    (hcheck : ∀ s w c, G s w c → check s w c = true)
    {cfg : Config S W C R α} (ms : List (A ⊕ R))
    (hfault : faulty check (exec K cfg ms) = true) : ¬Safe K anyReply G cfg := by
  intro hsafe
  cases hexec : exec K cfg ms with
  | none => simp [hexec, faulty] at hfault
  | some cfg' =>
      rcases cfg' with ⟨s, w, p⟩
      cases p with
      | call c k =>
          have hG := hsafe _ (reaches_of_exec hexec) c k rfl
          simp [hexec, faulty, hcheck s w c hG] at hfault
      | ret a => simp [hexec, faulty] at hfault
      | cut => simp [hexec, faulty] at hfault
      | get k => simp [hexec, faulty] at hfault
      | set s' k => simp [hexec, faulty] at hfault

end Soundness

end Interaction
