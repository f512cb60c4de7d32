import SocketDispatcher.Library.Program

/-!
# Programs inside programs with more calls

A part of a program may know of fewer calls than the whole.  Its calls are renamed into
calls of the whole, and what has been proved about the part in surroundings that see
only its calls holds of it inside the whole.

Main results:

- Theorem {lit}`embed_bind`: renaming is compositional.
- Theorem {lit}`sat_embed_iff`: the part in its own surroundings.
-/

namespace Interaction

variable {S W C D R A α β : Type}

/-! ## Renamed calls -/

/-- The program with its calls renamed. -/
def Program.embed (f : C → D) : Program S C R α → Program S D R α
  | .ret a => .ret a
  | .cut => .cut
  | .get k => .get fun s => (k s).embed f
  | .set s k => .set s (k.embed f)
  | .call c k => .call (f c) fun r => (k r).embed f

/-- Surroundings as far as the renamed calls concern them. -/
def Kernel.restrict (K : Kernel W D R A) (f : C → D) : Kernel W C R A where
  reply w c r := K.reply w (f c) r
  act := K.act

@[simp]
theorem embed_pure (f : C → D) (a : α) : (pure a : Program S C R α).embed f = pure a :=
  rfl

@[simp]
theorem embed_ask (f : C → D) (c : C) :
    (Program.ask c : Program S C R R).embed f = Program.ask (f c) :=
  rfl

@[simp]
theorem embed_bind (f : C → D) (p : Program S C R α) (g : α → Program S C R β) :
    (p >>= g).embed f = p.embed f >>= fun a => (g a).embed f := by
  change (p.bind g).embed f = (p.embed f).bind fun a => (g a).embed f
  induction p with
  | ret a => rfl
  | cut => rfl
  | get k ih => exact congrArg Program.get (funext ih)
  | set s k ih => exact congrArg (Program.set s) ih
  | call c k ih => exact congrArg (Program.call (f c)) (funext ih)

/-- What has been proved about a part holds inside the whole. -/
theorem sat_embed_iff {K : Kernel W D R A} {H : S → W → D → R → Prop} {G : S → W → D → Prop}
    {f : C → D} {p : Program S C R α} {Q : S → W → α → Prop} {s : S} {w : W} :
    Sat K H G (p.embed f) Q s w ↔
      Sat (K.restrict f) (fun s w c => H s w (f c)) (fun s w c => G s w (f c)) p Q s w := by
  induction p generalizing s w with
  | ret a => rfl
  | cut => rfl
  | get k ih => exact ih s
  | set s' k ih => exact ih
  | call c k ih =>
      constructor <;> intro h w₁ hacts <;> refine ⟨(h w₁ hacts).1, ?_⟩
      · exact fun r w₂ hreply hassume => (ih r).mp ((h w₁ hacts).2 r w₂ hreply hassume)
      · exact fun r w₂ hreply hassume => (ih r).mpr ((h w₁ hacts).2 r w₂ hreply hassume)

end Interaction
