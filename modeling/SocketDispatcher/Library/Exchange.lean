import Mathlib.Data.List.Forall2
import SocketDispatcher.Library.Program

/-!
# Two programs side by side

Two interactive programs whose calls are answered in some order.  The calls of the
first one are on the left, those of the second one on the right.  What an outsider
sees of such an exchange is a partial map of the answered calls.

Main results:

- Theorem {lit}`getLeft_interleave`: the left part of an exchange is a run of the
  first program.
- Theorem {lit}`filterMap_elim_iff`: two exchanges that look alike on the right, and
  show an outsider something at the same moments on the left, look alike exactly if
  their left parts do.
- Theorem {lit}`filterMap_eq_iff`: what an outsider sees can be told by another
  projection of the same events.
-/

namespace Interaction

variable {S T C R α β : Type}

/-- The answered calls of a program that is given these replies. -/
def transcript : S → Program S C R α → List R → List (C × R)
  | _, _, [] => []
  | s, p, r :: rs =>
      match p.settle s with
      | (s', .call c k) => (c, r) :: transcript s' (k r) rs
      | _ => []

section Transcript

@[simp]
theorem transcript_nil (s : S) (p : Program S C R α) : transcript s p [] = [] := by
  rw [transcript]

@[simp]
theorem transcript_pure (s : S) (a : α) (rs : List R) :
    transcript s (pure a : Program S C R α) rs = [] := by
  cases rs <;> rfl

@[simp]
theorem transcript_cut (s : S) (rs : List R) :
    transcript s (.cut : Program S C R α) rs = [] := by
  cases rs <;> rfl

theorem transcript_get (s : S) (k : S → Program S C R α) (rs : List R) :
    transcript s (.get k) rs = transcript s (k s) rs := by
  cases rs with
  | nil => simp
  | cons r rs => simp only [transcript, Program.settle]

theorem transcript_set (s s' : S) (k : Program S C R α) (rs : List R) :
    transcript s (.set s' k) rs = transcript s' k rs := by
  cases rs with
  | nil => simp
  | cons r rs => simp only [transcript, Program.settle]

theorem transcript_get_bind (s : S) (k : S → Program S C R α) (rs : List R) :
    transcript s (get >>= k) rs = transcript s (k s) rs :=
  transcript_get s k rs

theorem transcript_set_bind (s s' : S) (k : PUnit → Program S C R α) (rs : List R) :
    transcript s (set s' >>= k) rs = transcript s' (k ()) rs :=
  transcript_set s s' (k ()) rs

@[simp]
theorem transcript_ask_bind (s : S) (c : C) (k : R → Program S C R α) (r : R) (rs : List R) :
    transcript s (Program.ask c >>= k) (r :: rs) = (c, r) :: transcript s (k r) rs :=
  rfl

end Transcript

/-- The answered calls of two programs, in the order of the replies.  A reply to a
program that has returned is skipped. -/
def interleave : S → Program S C R α → T → Program T C R β → List (R ⊕ R) →
    List ((C × R) ⊕ (C × R))
  | _, _, _, _, [] => []
  | s, p, t, q, .inl r :: rs =>
      match p.settle s with
      | (s', .call c k) => .inl (c, r) :: interleave s' (k r) t q rs
      | _ => interleave s p t q rs
  | s, p, t, q, .inr r :: rs =>
      match q.settle t with
      | (t', .call c k) => .inr (c, r) :: interleave s p t' (k r) rs
      | _ => interleave s p t q rs

/-- The left part of an exchange is a run of the first program. -/
theorem getLeft_interleave (s : S) (p : Program S C R α) (t : T) (q : Program T C R β)
    (rs : List (R ⊕ R)) :
    (interleave s p t q rs).filterMap Sum.getLeft? =
      transcript s p (rs.filterMap Sum.getLeft?) := by
  induction rs generalizing s p t q with
  | nil => rfl
  | cons r rs ih =>
      cases r with
      | inl r =>
          simp only [interleave, List.filterMap_cons, Sum.getLeft?_inl, transcript]
          split
          next s' c k hsettle => simp [ih]
          next hsettle =>
            rw [ih]
            cases rs.filterMap Sum.getLeft? with
            | nil => rfl
            | cons r' rs' =>
                rw [transcript]
                split
                next s' c k hcall => exact absurd hcall (hsettle s' c k)
                next => rfl
      | inr r =>
          simp only [interleave, List.filterMap_cons, Sum.getLeft?_inr]
          split
          next t' c k hsettle =>
            rw [List.filterMap_cons_none (Sum.getLeft?_inr)]
            exact ih s p t' (k r)
          next => exact ih s p t q

section Outsider

variable {A B X Y : Type} {f : A → Option X} {g : B → Option Y} {xs ys : List (A ⊕ B)}

/-- Lists with the same images are related pointwise. -/
theorem map_eq_iff_forall₂ {g : A → X} {xs ys : List A} :
    xs.map g = ys.map g ↔ List.Forall₂ (fun a b => g a = g b) xs ys := by
  rw [← List.forall₂_eq_eq_eq, List.forall₂_map_left_iff, List.forall₂_map_right_iff]

/-- Where {lit}`g` tells apart what {lit}`f` tells apart, two lists show the same
exactly if they have the same images. -/
theorem filterMap_eq_iff {g : A → Y} {xs ys : List A}
    (h : List.Forall₂ (fun a b => (f a).isSome = (f b).isSome ∧ (f a = f b ↔ g a = g b))
      xs ys) :
    xs.filterMap f = ys.filterMap f ↔ xs.map g = ys.map g := by
  induction h with
  | nil => simp
  | @cons a b xs ys hab _ ih =>
      obtain ⟨hsome, hiff⟩ := hab
      cases ha : f a with
      | none =>
          have hb : f b = none := by simpa [ha] using hsome.symm
          have hg : g a = g b := hiff.mp (ha.trans hb.symm)
          simpa [ha, hb, hg] using ih
      | some x =>
          obtain ⟨y, hb⟩ := Option.isSome_iff_exists.mp (by simpa [ha] using hsome.symm)
          rw [ha, hb, Option.some_inj] at hiff
          simp [ha, hb, hiff, ih]

/-- What an outsider sees of both sides. -/
def seen (f : A → Option X) (g : B → Option Y) : A ⊕ B → Option (X ⊕ Y) :=
  Sum.elim (fun a => (f a).map Sum.inl) (fun b => (g b).map Sum.inr)

/-- Where the right sides look alike, only the left sides tell two exchanges apart. -/
theorem filterMap_elim_iff
    (h : List.Forall₂ (Sum.LiftRel (fun a a' => (f a).isSome = (f a').isSome)
      (fun b b' => g b = g b')) xs ys) :
    xs.filterMap (seen f g) = ys.filterMap (seen f g) ↔
      (xs.filterMap Sum.getLeft?).filterMap f = (ys.filterMap Sum.getLeft?).filterMap f := by
  induction h with
  | nil => simp
  | cons hxy _ ih =>
      cases hxy with
      | @inl a a' h =>
          cases ha : f a with
          | none =>
              have ha' : f a' = none := by simpa [ha] using h.symm
              simpa [seen, ha, ha'] using ih
          | some x =>
              obtain ⟨x', ha'⟩ := Option.isSome_iff_exists.mp (by simpa [ha] using h.symm)
              simpa [seen, ha, ha'] using fun _ => ih
      | @inr b b' h =>
          cases hb : g b with
          | none =>
              have hb' : g b' = none := h ▸ hb
              simpa [seen, hb, hb', List.filterMap_cons] using ih
          | some y =>
              have hb' : g b' = some y := h ▸ hb
              simpa [seen, hb, hb', List.filterMap_cons] using ih

end Outsider

end Interaction
