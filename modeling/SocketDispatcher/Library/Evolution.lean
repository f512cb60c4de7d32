import SocketDispatcher.Library.Program

/-!
# How a memory evolves along a run

A property of two moments of a run, the earlier and the later one: some relation holds
between the memories at both.  It follows from what every single write of the program
does, whatever the surroundings are and whatever they answer.

Main results:

- Theorem {lit}`evolves_bind` and theorems {lit}`evolves_forEach`,
  {lit}`evolves_forUntil` and {lit}`evolves_repeatUntil`: the property is compositional.
- Theorem {lit}`Evolves.reaches`: any two moments of a run are related.
- Theorem {lit}`EvolvesFrom.sat`: what the relation hands on holds at every call.
- Theorem {lit}`exec_append`: a script in two parts describes two such moments.
-/

namespace Interaction

variable {S W C R A α β : Type}

/-- Whatever it is told, each write of the program, begun in memory {lit}`s`, replaces
the present memory by a related one. -/
def EvolvesFrom (T : S → S → Prop) : Program S C R α → S → Prop
  | .ret _, _ => True
  | .cut, _ => True
  | .get k, s => EvolvesFrom T (k s) s
  | .set s' k, s => T s s' ∧ EvolvesFrom T k s'
  | .call _ k, s => ∀ r, EvolvesFrom T (k r) s

/-- So it does from every memory. -/
def Evolves (T : S → S → Prop) (p : Program S C R α) : Prop :=
  ∀ s, EvolvesFrom T p s

variable {T : S → S → Prop}

/-! ## Rules -/

theorem evolvesFrom_bind {p : Program S C R α} {f : α → Program S C R β} {s : S}
    (hp : EvolvesFrom T p s) (hf : ∀ a, Evolves T (f a)) : EvolvesFrom T (p >>= f) s := by
  change EvolvesFrom T (p.bind f) s
  induction p generalizing s with
  | ret a => exact hf a s
  | cut => trivial
  | get k ih => exact ih s hp
  | set s' k ih => exact ⟨hp.1, ih hp.2⟩
  | call c k ih => exact fun r => ih r (hp r)

theorem evolves_pure (a : α) : Evolves T (pure a : Program S C R α) :=
  fun _ => trivial

theorem evolves_cut : Evolves T (.cut : Program S C R α) :=
  fun _ => trivial

theorem evolves_ask (c : C) : Evolves T (Program.ask c : Program S C R R) :=
  fun _ _ => trivial

theorem evolves_bind {p : Program S C R α} {f : α → Program S C R β}
    (hp : Evolves T p) (hf : ∀ a, Evolves T (f a)) : Evolves T (p >>= f) :=
  fun s => evolvesFrom_bind (hp s) hf

/-- A memory that has just been read is the present one. -/
theorem evolves_get_bind {f : S → Program S C R α} (hf : ∀ s, EvolvesFrom T (f s) s) :
    Evolves T (get >>= f) :=
  hf

theorem evolvesFrom_set_bind {s s' : S} {f : PUnit → Program S C R α} (hs : T s s')
    (hf : Evolves T (f ⟨⟩)) : EvolvesFrom T (set s' >>= f) s :=
  ⟨hs, hf s'⟩

theorem evolves_modify {f : S → S} (hf : ∀ s, T s (f s)) :
    Evolves T (modify f : Program S C R PUnit) :=
  fun s => ⟨hf s, trivial⟩

theorem evolves_ite {c : Prop} [Decidable c] {p q : Program S C R α}
    (hp : Evolves T p) (hq : Evolves T q) : Evolves T (if c then p else q) := by
  split
  · exact hp
  · exact hq

theorem evolves_when {c : Bool} {p : Program S C R Unit} (hp : Evolves T p) :
    Evolves T (Program.when c p) :=
  evolves_ite hp (evolves_pure _)

theorem evolves_forEach {f : β → Program S C R Unit} (hf : ∀ x, Evolves T (f x))
    (xs : List β) : Evolves T (Program.forEach xs f) := by
  induction xs with
  | nil => exact evolves_pure _
  | cons x xs ih =>
      rw [Program.forEach]
      exact evolves_bind (hf x) fun _ => ih

theorem evolves_forUntil {f : β → Program S C R Bool} (hf : ∀ x, Evolves T (f x))
    (xs : List β) : Evolves T (Program.forUntil xs f) := by
  induction xs with
  | nil => exact evolves_pure _
  | cons x xs ih =>
      rw [Program.forUntil]
      exact evolves_bind (hf x) fun _ => evolves_ite (evolves_pure _) ih

theorem evolves_repeatUntil {f : Program S C R Bool} (hf : Evolves T f) (n : Nat) :
    Evolves T (Program.repeatUntil f n) := by
  induction n with
  | zero => exact evolves_cut
  | succ n ih =>
      rw [Program.repeatUntil]
      exact evolves_bind hf fun _ => evolves_ite (evolves_pure _) ih

/-! ## Runs -/

variable {K : Kernel W C R A} {H : S → W → C → R → Prop} {cfg cfg' : Config S W C R α}

theorem EvolvesFrom.step (h : EvolvesFrom T cfg.prog cfg.memory) (hstep : Step K H cfg cfg') :
    Relation.ReflTransGen T cfg.memory cfg'.memory ∧ EvolvesFrom T cfg'.prog cfg'.memory := by
  cases hstep with
  | get s w k => exact ⟨Relation.ReflTransGen.refl, h⟩
  | set s s' w k => exact ⟨Relation.ReflTransGen.single h.1, h.2⟩
  | call s k hreply hassume => exact ⟨Relation.ReflTransGen.refl, h _⟩
  | act s p hact => exact ⟨Relation.ReflTransGen.refl, h⟩

theorem EvolvesFrom.reaches (h : EvolvesFrom T cfg.prog cfg.memory)
    (hreaches : Reaches K H cfg cfg') :
    Relation.ReflTransGen T cfg.memory cfg'.memory ∧ EvolvesFrom T cfg'.prog cfg'.memory := by
  induction hreaches with
  | refl => exact ⟨Relation.ReflTransGen.refl, h⟩
  | tail _ hstep ih =>
      obtain ⟨hrelated, hevolves⟩ := ih
      obtain ⟨hrelated', hevolves'⟩ := hevolves.step hstep
      exact ⟨hrelated.trans hrelated', hevolves'⟩

/-- The memories at two moments of a run are related, the later one to the earlier one. -/
theorem Evolves.reaches {p : Program S C R α} (h : Evolves T p) (hrefl : ∀ s, T s s)
    (htrans : ∀ s s' s'', T s s' → T s' s'' → T s s'') {s : S} {w : W}
    (hearlier : Reaches K H ⟨s, w, p⟩ cfg) (hlater : Reaches K H cfg cfg') :
    T cfg.memory cfg'.memory := by
  have hcfg : EvolvesFrom T cfg.prog cfg.memory := (EvolvesFrom.reaches (h s) hearlier).2
  have hrelated := (hcfg.reaches hlater).1
  generalize cfg'.memory = s' at hrelated
  induction hrelated with
  | refl => exact hrefl _
  | tail _ hstep ih => exact htrans _ _ _ ih hstep

/-- A property of the memory that the relation hands on holds at every call of a run. -/
theorem EvolvesFrom.sat {G : S → W → C → Prop} {I : S → Prop}
    (hT : ∀ s s', T s s' → I s → I s') (hG : ∀ s w c, I s → G s w c) {p : Program S C R α}
    {s : S} {w : W} (h : EvolvesFrom T p s) (hI : I s) :
    Sat K H G p (fun s' _ _ => I s') s w := by
  induction p generalizing s w with
  | ret a => exact hI
  | cut => trivial
  | get k ih => exact ih s h hI
  | set s' k ih => exact ih h.2 (hT s s' h.1 hI)
  | call c k ih => exact fun w₁ _ => ⟨hG s w₁ c hI, fun r w₂ _ _ => ih r (h r) hI⟩

/-! ## Scripts in two parts -/

theorem settle_settle (s : S) (p : Program S C R α) :
    (p.settle s).2.settle (p.settle s).1 = p.settle s := by
  induction p generalizing s with
  | ret a => rfl
  | cut => rfl
  | get k ih => exact ih s s
  | set s' k ih => exact ih s'
  | call c k _ => rfl

theorem exec_settle (K : Kernel W C R A) (s : S) (w : W) (p : Program S C R α)
    (ms : List (A ⊕ R)) :
    exec K ⟨(p.settle s).1, w, (p.settle s).2⟩ ms = exec K ⟨s, w, p⟩ ms := by
  induction ms generalizing w with
  | nil => simp only [exec, settle_settle]
  | cons m ms ih =>
      cases m with
      | inl a =>
          simp only [exec]
          cases K.act w a with
          | none => rfl
          | some w' => exact ih w'
      | inr r => simp only [exec, settle_settle]

/-- The second part of a script goes on where the first one has ended. -/
theorem exec_append (K : Kernel W C R A) (cfg : Config S W C R α) (ms ms' : List (A ⊕ R)) :
    exec K cfg (ms ++ ms') = (exec K cfg ms).bind fun cfg' => exec K cfg' ms' := by
  induction ms generalizing cfg with
  | nil =>
      rcases cfg with ⟨s, w, p⟩
      exact (exec_settle K s w p ms').symm
  | cons m ms ih =>
      rcases cfg with ⟨s, w, p⟩
      cases m with
      | inl a =>
          simp only [List.cons_append, exec]
          cases K.act w a with
          | none => rfl
          | some w' => exact ih _
      | inr r =>
          simp only [List.cons_append, exec]
          split
          next s' c k hsettle =>
            cases K.reply w c r with
            | none => rfl
            | some w' => exact ih _
          next => rfl

end Interaction
