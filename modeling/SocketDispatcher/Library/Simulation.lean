import SocketDispatcher.Library.Program

/-!
# Surroundings that simulate each other

Surroundings may be described in more than one way: with further records, or by the
other program that they consist of.  A description that allows less simulates one that
allows more, and what has been proved in the larger one holds in the smaller one.

Main results:

- Theorem {lit}`Sat.simulate`: what holds in surroundings holds in surroundings that
  simulate them.
- Theorem {lit}`Safe.simulate`: so does safety.
- Theorem {lit}`beside_simulates`: a second program that only makes moves of the
  surroundings may take their place.
- Theorem {lit}`among_simulates`: so may a family of programs.
-/

namespace Interaction

variable {S W V C D R R' A B α β : Type}

/-! ## Simulations -/

/-- Every answer and every move of the smaller surroundings is, seen through {lit}`π`, one
of the larger, as long as the invariant {lit}`J` holds; and they keep the invariant. -/
structure Kernel.Simulates (K : Kernel V C R B) (L : Kernel W C R A) (J : V → Prop)
    (π : V → W) : Prop where
  reply : ∀ v c r v', J v → K.reply v c r = some v' →
    L.reply (π v) c r = some (π v') ∧ J v'
  act : ∀ v b v', J v → K.act v b = some v' → L.Acts (π v) (π v') ∧ J v'

section Simulates

variable {K : Kernel V C R B} {L : Kernel W C R A} {J : V → Prop} {π : V → W}

theorem Kernel.Simulates.acts (h : K.Simulates L J π) {v v' : V} (hacts : K.Acts v v')
    (hJ : J v) : L.Acts (π v) (π v') ∧ J v' := by
  induction hacts with
  | refl => exact ⟨L.acts_refl _, hJ⟩
  | tail _ hstep ih =>
      obtain ⟨b, hb⟩ := hstep
      obtain ⟨hacts, hJ⟩ := ih
      obtain ⟨hnext, hJ⟩ := h.act _ b _ hJ hb
      exact ⟨hacts.trans hnext, hJ⟩

/-- What holds in surroundings holds in those that simulate them, and so does the
invariant. -/
theorem Sat.simulate (hsimulates : K.Simulates L J π) {H : S → W → C → R → Prop}
    {G : S → W → C → Prop} {p : Program S C R α} {Q : S → W → α → Prop} {s : S} {v : V}
    (h : Sat L H G p Q s (π v)) (hJ : J v) :
    Sat K (fun s v => H s (π v)) (fun s v => G s (π v)) p (fun s v a => Q s (π v) a ∧ J v)
      s v := by
  induction p generalizing s v with
  | ret a => exact ⟨h, hJ⟩
  | cut => trivial
  | get k ih => exact ih s h hJ
  | set s' k ih => exact ih h hJ
  | call c k ih =>
      intro v₁ hacts
      obtain ⟨hacts, hJ₁⟩ := hsimulates.acts hacts hJ
      obtain ⟨hG, hnext⟩ := h (π v₁) hacts
      refine ⟨hG, fun r v₂ hv₂ hassume => ?_⟩
      obtain ⟨hreply, hJ₂⟩ := hsimulates.reply _ _ _ _ hJ₁ hv₂
      exact ih r (hnext r (π v₂) hreply hassume) hJ₂

/-- Moves of the surroundings are steps of a run. -/
theorem reaches_of_acts {H : S → W → C → R → Prop} (s : S) (p : Program S C R α) {w w' : W}
    (h : L.Acts w w') : Reaches L H ⟨s, w, p⟩ ⟨s, w', p⟩ := by
  induction h with
  | refl => exact Relation.ReflTransGen.refl
  | tail _ hstep ih =>
      obtain ⟨a, ha⟩ := hstep
      exact ih.tail (.act s p ha)

/-- A run in the smaller surroundings is one in the larger. -/
theorem Reaches.simulate (hsimulates : K.Simulates L J π) {H : S → W → C → R → Prop}
    {cfg cfg' : Config S V C R α}
    (h : Reaches K (fun s v => H s (π v)) cfg cfg') (hJ : J cfg.world) :
    Reaches L H ⟨cfg.memory, π cfg.world, cfg.prog⟩ ⟨cfg'.memory, π cfg'.world, cfg'.prog⟩ ∧
      J cfg'.world := by
  induction h with
  | refl => exact ⟨Relation.ReflTransGen.refl, hJ⟩
  | tail _ hstep ih =>
      obtain ⟨hreaches, hJ⟩ := ih
      cases hstep with
      | get s v k => exact ⟨hreaches.tail (.get s (π v) k), hJ⟩
      | set s s' v k => exact ⟨hreaches.tail (.set s s' (π v) k), hJ⟩
      | call s k hreply hassume =>
          obtain ⟨hreply, hJ⟩ := hsimulates.reply _ _ _ _ hJ hreply
          exact ⟨hreaches.tail (.call s k hreply hassume), hJ⟩
      | act s p hact =>
          obtain ⟨hacts, hJ⟩ := hsimulates.act _ _ _ hJ hact
          exact ⟨hreaches.trans (reaches_of_acts s p hacts), hJ⟩

/-- Safety carries over to the smaller surroundings. -/
theorem Safe.simulate (hsimulates : K.Simulates L J π) {H : S → W → C → R → Prop}
    {G : S → W → C → Prop} {s : S} {v : V} {p : Program S C R α}
    (h : Safe L H G ⟨s, π v, p⟩) (hJ : J v) :
    Safe K (fun s v => H s (π v)) (fun s v => G s (π v)) ⟨s, v, p⟩ := by
  intro cfg' hreaches c k hcall
  exact h _ (Reaches.simulate hsimulates hreaches hJ).1 c k hcall

end Simulates

/-! ## Two programs -/

/-- A single answer lets a program come to its next call, which gets the answer. -/
theorem call_of_exec {K : Kernel V D R' B} {cfg cfg' : Config S V D R' β} {r : R'}
    (h : exec K cfg [.inr r] = some cfg') : ∃ s d k,
      Reaches K anyReply cfg ⟨s, cfg.world, .call d k⟩ ∧
        K.reply cfg.world d r = some cfg'.world := by
  obtain ⟨s, v, p⟩ := cfg
  simp only [exec] at h
  split at h
  next s' d k hsettle =>
    split at h
    next v' hreply =>
      obtain rfl := Option.some.inj h
      have hlocal := reaches_settle (K := K) (H := anyReply) p s v
      rw [hsettle] at hlocal
      exact ⟨s', d, k, hlocal, hreply⟩
    next => contradiction
  next => contradiction

/-- The surroundings of one of two programs: its calls are answered as in {lit}`L`, on the
part {lit}`π` of the world that both share, and the moves are the calls of the other
program, with the replies that {lit}`K` gives to it. -/
def Kernel.beside (K : Kernel V D R' B) (L : Kernel W C R A) (π : V → W) (merge : V → W → V) :
    Kernel (Config S V D R' β) C R R' where
  reply cfg c r :=
    (L.reply (π cfg.world) c r).map fun w => { cfg with world := merge cfg.world w }
  act cfg r := exec K cfg [.inr r]

/-- The calls of the other program are moves of the surroundings {lit}`L`. -/
def Moves (K : Kernel V D R' B) (L : Kernel W C R A) (π : V → W) (_ : S) (v : V) (d : D) : Prop :=
  ∀ r v', K.reply v d r = some v' → L.Acts (π v) (π v')

/-- The other program may take the place of surroundings whose moves it makes, as far as
the answers in {lit}`L` are moves that it has to put up with. -/
theorem beside_simulates {K : Kernel V D R' B} {L : Kernel W C R A} {π : V → W}
    {merge : V → W → V} (hmerge : ∀ v w, π (merge v w) = w)
    (hanswer : ∀ v c r w, L.reply (π v) c r = some w → K.Acts v (merge v w)) :
    (K.beside L π merge : Kernel (Config S V D R' β) C R R').Simulates L
      (Safe K anyReply (Moves K L π)) fun cfg => π cfg.world where
  reply cfg c r cfg' hsafe hreply := by
    obtain ⟨w, hw, rfl⟩ := Option.map_eq_some_iff.mp hreply
    refine ⟨by simpa only [hmerge] using hw, fun cfg'' hreaches => ?_⟩
    have hacts := hanswer _ _ _ _ hw
    exact hsafe cfg'' ((reaches_of_acts cfg.memory cfg.prog hacts).trans hreaches)
  act cfg r cfg' hsafe hact := by
    refine ⟨?_, fun cfg'' hreaches => hsafe cfg'' ((reaches_of_exec hact).trans hreaches)⟩
    obtain ⟨s, d, k, hreaches, hreply⟩ := call_of_exec hact
    exact hsafe _ hreaches d k rfl r _ hreply

/-! ## A family of programs -/

section Family

variable {ι : Type} [DecidableEq ι]

/-- The surroundings of a program that talks to a family of programs, each of which sees a
part of the world of its own.  The moves are the calls of any one of them. -/
def Kernel.among (K : Kernel V D R' B) (L : Kernel (ι → V) C R A) :
    Kernel (ι → Config S V D R' β) C R (ι × R') where
  reply cfgs c r :=
    (L.reply (fun i => (cfgs i).world) c r).map fun w i => { cfgs i with world := w i }
  act cfgs a := (exec K (cfgs a.1) [.inr a.2]).map (Function.update cfgs a.1)

/-- The calls of one of the programs are moves of the surroundings {lit}`L`, wherever the
others are. -/
def MovesAt (K : Kernel V D R' B) (L : Kernel (ι → V) C R A) (i : ι) (_ : S) (v : V) (d : D) :
    Prop :=
  ∀ r v', K.reply v d r = some v' → ∀ w : ι → V, w i = v → L.Acts w (Function.update w i v')

/-- A family of programs may take the place of surroundings whose moves they make. -/
theorem among_simulates {K : Kernel V D R' B} {L : Kernel (ι → V) C R A}
    (hanswer : ∀ w c r w', L.reply w c r = some w' → ∀ i, K.Acts (w i) (w' i)) :
    (K.among L : Kernel (ι → Config S V D R' β) C R (ι × R')).Simulates L
      (fun cfgs => ∀ i, Safe K anyReply (MovesAt K L i) (cfgs i))
      fun cfgs i => (cfgs i).world where
  reply cfgs c r cfgs' hsafe hreply := by
    obtain ⟨w, hw, rfl⟩ := Option.map_eq_some_iff.mp hreply
    refine ⟨hw, fun i cfg' hreaches => ?_⟩
    have hacts := hanswer _ _ _ _ hw i
    exact hsafe i cfg' ((reaches_of_acts (cfgs i).memory (cfgs i).prog hacts).trans hreaches)
  act cfgs a cfgs' hsafe hact := by
    obtain ⟨i, r⟩ := a
    obtain ⟨cfg, hexec, rfl⟩ := Option.map_eq_some_iff.mp hact
    obtain ⟨s, d, k, hreaches, hreply⟩ := call_of_exec hexec
    constructor
    · have hworld : (fun j => (Function.update cfgs i cfg j).world) =
          Function.update (fun j => (cfgs j).world) i cfg.world := by
        funext j
        exact Function.apply_update (fun _ => Config.world) cfgs i cfg j
      rw [hworld]
      exact hsafe i _ hreaches d k rfl r _ hreply _ rfl
    · intro j
      by_cases hj : j = i
      · subst hj
        rw [Function.update_self]
        exact fun cfg' hcfg' => hsafe j cfg' ((reaches_of_exec hexec).trans hcfg')
      · rw [Function.update_of_ne hj]
        exact hsafe j

end Family

end Interaction
