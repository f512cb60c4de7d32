import Mathlib.Data.List.Basic
import Mathlib.Data.List.Perm.Basic

/-!
# Stable reorderings

Elements of a list are told apart by a key.  A stable reordering moves elements past each
other only if their keys differ.

Main results:

- Theorem {lit}`Reordering.perm`: a stable reordering is a permutation.
- Theorem {lit}`reordering_of_partition`: a class of keys can be moved past all others.
- Theorem {lit}`Reordering.lastValue_eq`: the last value of a key does not change.
-/

namespace StableReordering

variable {α κ ν : Type} [DecidableEq κ] {key : α → κ} {xs ys zs : List α}

/-- Both lists hold the same elements of each key in the same order. -/
def Reordering (key : α → κ) (xs ys : List α) : Prop :=
  ∀ k, xs.filter (key · = k) = ys.filter (key · = k)

/-- A stable reordering is a permutation. -/
theorem Reordering.perm (h : Reordering key xs ys) : xs.Perm ys := by
  classical
  rw [List.perm_iff_count]
  intro x
  have hcount : ∀ zs : List α, zs.count x = (zs.filter (key · = key x)).count x := by
    intro zs
    rw [List.count_filter]
    simp
  rw [hcount, h, ← hcount]

/-- Elements whose keys are in a class may be moved past all others: it is enough that both
lists agree on the elements in the class, and on the others. -/
theorem reordering_of_partition {q : κ → Bool}
    (hin : xs.filter (fun x => q (key x)) = ys.filter fun x => q (key x))
    (hout : xs.filter (fun x => !q (key x)) = ys.filter fun x => !q (key x)) :
    Reordering key xs ys := by
  intro k
  have hclass : ∀ (c : κ → Bool) (zs : List α), c k →
      zs.filter (key · = k) = (zs.filter fun x => c (key x)).filter (key · = k) := by
    intro c zs hc
    rw [List.filter_filter]
    congr 1
    funext z
    by_cases hz : key z = k
    · simp [hz, hc]
    · simp [hz]
  cases hq : q k with
  | true => rw [hclass q xs hq, hclass q ys hq, hin]
  | false =>
      rw [hclass (!q ·) xs (by simp [hq]), hclass (!q ·) ys (by simp [hq]), hout]

/-! ## Last values -/

/-- The value of the last element with a key, or a default. -/
def lastValue (key : α → κ) (value : α → ν) (k : κ) (xs : List α) (default : ν) : ν :=
  ((xs.filter (key · = k)).getLast?.map value).getD default

variable {value : α → ν} {k : κ}

@[simp]
theorem lastValue_nil (default : ν) : lastValue key value k [] default = default :=
  rfl

/-- Later elements override the default. -/
theorem lastValue_cons (x : α) (xs : List α) (default : ν) :
    lastValue key value k (x :: xs) default =
      lastValue key value k xs (if key x = k then value x else default) := by
  by_cases hx : key x = k
  · rw [lastValue, lastValue, List.filter_cons_of_pos (by simpa using hx), List.getLast?_cons,
      if_pos hx]
    cases (xs.filter (key · = k)).getLast? <;> rfl
  · rw [lastValue, lastValue, List.filter_cons_of_neg (by simpa using hx), if_neg hx]

theorem lastValue_append_singleton (xs : List α) {x : α} (hx : key x = k) (default : ν) :
    lastValue key value k (xs ++ [x]) default = value x := by
  simp [lastValue, hx]

/-- The last value of a key does not change. -/
theorem Reordering.lastValue_eq (h : Reordering key xs ys) (default : ν) :
    lastValue key value k xs default = lastValue key value k ys default := by
  rw [lastValue, h k, lastValue]

/-- A property of the default and of all values of a key holds of the last one. -/
theorem lastValue_keeps {P : ν → Prop} {default : ν} (hdefault : P default)
    (h : ∀ x ∈ xs, key x = k → P (value x)) : P (lastValue key value k xs default) := by
  induction xs generalizing default with
  | nil => exact hdefault
  | cons x xs ih =>
      rw [lastValue_cons]
      refine ih ?_ fun x hx => h x (List.mem_cons_of_mem _ hx)
      split
      next hx => exact h x List.mem_cons_self hx
      next => exact hdefault

/-- If all values of a key are the default, so is the last one. -/
theorem lastValue_of_forall {default : ν} (h : ∀ x ∈ xs, key x = k → value x = default) :
    lastValue key value k xs default = default :=
  lastValue_keeps (P := (· = default)) rfl h

end StableReordering
