import Mathlib.Data.List.Perm.Basic
import Mathlib.Logic.Function.Basic

/-!
# Ledgers of acquired resources

A ledger counts, for every name, how often each acquisition under that name has been
released.  A name may be given out again once its latest acquisition has been released, so
it has one count for each acquisition, the latest first.  Whoever owns resources is
accounted for if exactly the owned acquisitions are unreleased and every other one has been
released once.

Main results:

- Theorems {lit}`Accounted.acquire` and {lit}`Accounted.release`: the accounts through one
  acquisition and one release.
- Theorem {lit}`Accounted.not_overdrawn`: accounts without a double release.
-/

namespace Accounting

variable {ρ : Type}

/-- The numbers of releases of the acquisitions under each name. -/
def Ledger (ρ : Type) : Type :=
  ρ → List Nat

namespace Ledger

def empty : Ledger ρ :=
  fun _ => []

/-- The latest acquisition under the name has not been released. -/
def InUse (l : Ledger ρ) (r : ρ) : Prop :=
  (l r).head? = some 0

instance (l : Ledger ρ) (r : ρ) : Decidable (l.InUse r) :=
  inferInstanceAs (Decidable (_ = _))

variable [DecidableEq ρ]

def acquire (l : Ledger ρ) (r : ρ) : Ledger ρ :=
  Function.update l r (0 :: l r)

/-- A release counts for the latest acquisition. -/
def release (l : Ledger ρ) (r : ρ) : Ledger ρ :=
  Function.update l r ((l r).modifyHead (· + 1))

/-- Release several names, in order. -/
def releaseAll (l : Ledger ρ) (rs : List ρ) : Ledger ρ :=
  rs.foldl release l

@[simp]
theorem releaseAll_nil (l : Ledger ρ) : l.releaseAll [] = l :=
  rfl

@[simp]
theorem releaseAll_cons (l : Ledger ρ) (r : ρ) (rs : List ρ) :
    l.releaseAll (r :: rs) = (l.release r).releaseAll rs :=
  rfl

@[simp]
theorem acquire_self (l : Ledger ρ) (r : ρ) : l.acquire r r = 0 :: l r :=
  Function.update_self r _ l

@[simp]
theorem acquire_of_ne {r r' : ρ} (h : r' ≠ r) (l : Ledger ρ) : l.acquire r r' = l r' :=
  Function.update_of_ne h _ l

@[simp]
theorem release_self (l : Ledger ρ) (r : ρ) : l.release r r = (l r).modifyHead (· + 1) :=
  Function.update_self r _ l

@[simp]
theorem release_of_ne {r r' : ρ} (h : r' ≠ r) (l : Ledger ρ) : l.release r r' = l r' :=
  Function.update_of_ne h _ l

end Ledger

/-! ## Accounts -/

/-- The owned names stand for unreleased acquisitions; every other acquisition has been
released exactly once. -/
structure Accounted (owned : List ρ) (l : Ledger ρ) : Prop where
  nodup : owned.Nodup
  unreleased : ∀ r ∈ owned, ∃ rest, l r = 0 :: rest ∧ ∀ n ∈ rest, n = 1
  released : ∀ r, r ∉ owned → ∀ n ∈ l r, n = 1

/-- Some acquisition has been released more than once. -/
def Overdrawn (l : Ledger ρ) : Prop :=
  ∃ r, ∃ n ∈ l r, 2 ≤ n

theorem accounted_empty : Accounted [] (Ledger.empty (ρ := ρ)) where
  nodup := List.nodup_nil
  unreleased := by simp
  released := by simp [Ledger.empty]

variable {owned owned' : List ρ} {l : Ledger ρ} {r : ρ}

theorem Accounted.perm (h : Accounted owned l) (hperm : owned.Perm owned') :
    Accounted owned' l where
  nodup := hperm.nodup_iff.mp h.nodup
  unreleased r hr := h.unreleased r (hperm.mem_iff.mpr hr)
  released r hr := h.released r fun hmem => hr (hperm.mem_iff.mp hmem)

theorem Accounted.inUse (h : Accounted owned l) (hr : r ∈ owned) : l.InUse r := by
  obtain ⟨rest, hcounts, _⟩ := h.unreleased r hr
  rw [Ledger.InUse, hcounts]
  rfl

/-- No acquisition is released more than once. -/
theorem Accounted.not_overdrawn (h : Accounted owned l) : ¬Overdrawn l := by
  rintro ⟨r, n, hn, hle⟩
  by_cases hr : r ∈ owned
  · obtain ⟨rest, hcounts, hrest⟩ := h.unreleased r hr
    rw [hcounts, List.mem_cons] at hn
    rcases hn with rfl | hn
    · omega
    · have := hrest n hn
      omega
  · have := h.released r hr n hn
    omega

variable [DecidableEq ρ]

/-- A name that is not in use can be acquired. -/
theorem Accounted.acquire (h : Accounted owned l) (hfree : ¬l.InUse r) :
    Accounted (r :: owned) (l.acquire r) := by
  have hr : r ∉ owned := fun hmem => hfree (h.inUse hmem)
  constructor
  · exact List.nodup_cons.mpr ⟨hr, h.nodup⟩
  · intro r' hr'
    by_cases heq : r' = r
    · subst heq
      exact ⟨l r', Ledger.acquire_self l r', h.released r' hr⟩
    · rw [Ledger.acquire_of_ne heq]
      exact h.unreleased r' ((List.mem_cons.mp hr').resolve_left heq)
  · intro r' hr'
    rw [List.mem_cons, not_or] at hr'
    rw [Ledger.acquire_of_ne hr'.1]
    exact h.released r' hr'.2

/-- An owned name can be released. -/
theorem Accounted.release (h : Accounted (r :: owned) l) : Accounted owned (l.release r) := by
  obtain ⟨hr, hnodup⟩ := List.nodup_cons.mp h.nodup
  constructor
  · exact hnodup
  · intro r' hr'
    have hne : r' ≠ r := ne_of_mem_of_not_mem hr' hr
    rw [Ledger.release_of_ne hne]
    exact h.unreleased r' (List.mem_cons_of_mem _ hr')
  · intro r' hr'
    by_cases heq : r' = r
    · subst heq
      obtain ⟨rest, hcounts, hrest⟩ := h.unreleased r' List.mem_cons_self
      rw [Ledger.release_self, hcounts]
      simpa using hrest
    · rw [Ledger.release_of_ne heq]
      exact h.released r' fun hmem => (List.mem_cons.mp hmem).elim heq hr'

theorem Accounted.releaseAll {rs : List ρ} (h : Accounted (rs ++ owned) l) :
    Accounted owned (l.releaseAll rs) := by
  induction rs generalizing l with
  | nil => exact h
  | cons r rs ih =>
      rw [Ledger.releaseAll_cons]
      exact ih h.release

/-! ## Double releases -/

/-- A double release stays one. -/
theorem Overdrawn.acquire (h : Overdrawn l) (r : ρ) : Overdrawn (l.acquire r) := by
  obtain ⟨r', n, hn, hle⟩ := h
  refine ⟨r', n, ?_, hle⟩
  by_cases heq : r' = r
  · subst heq
    rw [Ledger.acquire_self]
    exact List.mem_cons_of_mem _ hn
  · rwa [Ledger.acquire_of_ne heq]

theorem Overdrawn.release (h : Overdrawn l) (r : ρ) : Overdrawn (l.release r) := by
  obtain ⟨r', n, hn, hle⟩ := h
  by_cases heq : r' = r
  · subst heq
    cases hcounts : l r' with
    | nil => simp [hcounts] at hn
    | cons m rest =>
        rw [hcounts, List.mem_cons] at hn
        rcases hn with rfl | hn
        · refine ⟨r', n + 1, ?_, by omega⟩
          simp [hcounts]
        · refine ⟨r', n, ?_, hle⟩
          simp [hcounts, hn]
  · refine ⟨r', n, ?_, hle⟩
    rwa [Ledger.release_of_ne heq]

theorem Overdrawn.releaseAll (h : Overdrawn l) (rs : List ρ) : Overdrawn (l.releaseAll rs) := by
  induction rs generalizing l with
  | nil => exact h
  | cons r rs ih =>
      rw [Ledger.releaseAll_cons]
      exact ih (h.release r)

end Accounting
