import Mathlib.Data.List.Basic
import Mathlib.Data.List.Nodup

/-!
# Bounded lists of sockets

The class {lit}`SocketsList` of {lit}`SocketsList.h`, over any type of elements
with a descriptor number.  The size bound that the two programs rely on is a
field, so that no operation can leave a longer list behind.

Main results:

- Theorem {lit}`putSocket_sockets`: what a list holds after {lit}`putSocket`.
- Theorem {lit}`delSocket_eq_true_iff`: {lit}`delSocket` removes nothing from a
  full list, and otherwise removes exactly when the descriptor is found.
- Theorem {lit}`delSocket_first`: the element removed is the first one with the
  descriptor.
-/

namespace SocketDispatcher

/-- A list of sockets with a maximum size. -/
structure SocketsList (α : Type) where
  sockets : List α
  maxSize : Nat
  bounded : sockets.length ≤ maxSize

namespace SocketsList

variable {α : Type}

/-- A new list. -/
def empty (maxSize : Nat) : SocketsList α :=
  ⟨[], maxSize, Nat.zero_le _⟩

/-- Append a socket unless the maximum size is reached. -/
def putSocket (list : SocketsList α) (socket : α) : SocketsList α × Bool :=
  if h : list.sockets.length = list.maxSize then
    (list, false)
  else
    (⟨list.sockets ++ [socket], list.maxSize, by
      have := list.bounded
      simp only [List.length_append, List.length_cons, List.length_nil]
      omega⟩, true)

/-- Erase the first socket with the descriptor {lit}`d`.  The first guard is the
one of {lit}`putSocket`. -/
def delSocket (descriptor : α → Int) (list : SocketsList α) (d : Int) :
    SocketsList α × Bool :=
  if list.sockets.length = list.maxSize then
    (list, false)
  else if list.sockets.any (descriptor · == d) then
    (⟨list.sockets.eraseP (descriptor · == d), list.maxSize,
      Nat.le_trans List.length_eraseP_le list.bounded⟩, true)
  else
    (list, false)

def clear (list : SocketsList α) : SocketsList α :=
  ⟨[], list.maxSize, Nat.zero_le _⟩

/-! ## What the operations leave behind -/

@[simp]
theorem empty_sockets (maxSize : Nat) :
    (empty maxSize : SocketsList α).sockets = [] :=
  rfl

@[simp]
theorem clear_sockets (list : SocketsList α) : list.clear.sockets = [] :=
  rfl

@[simp]
theorem clear_maxSize (list : SocketsList α) : list.clear.maxSize = list.maxSize :=
  rfl

@[simp]
theorem putSocket_maxSize (list : SocketsList α) (socket : α) :
    (list.putSocket socket).1.maxSize = list.maxSize := by
  unfold putSocket
  split <;> rfl

@[simp]
theorem delSocket_maxSize (descriptor : α → Int) (list : SocketsList α) (d : Int) :
    (delSocket descriptor list d).1.maxSize = list.maxSize := by
  unfold delSocket
  split
  · rfl
  · split <;> rfl

theorem putSocket_sockets (list : SocketsList α) (socket : α) :
    (list.putSocket socket).1.sockets =
      if list.sockets.length = list.maxSize then list.sockets
      else list.sockets ++ [socket] := by
  unfold putSocket
  split <;> rfl

theorem putSocket_eq_true_iff (list : SocketsList α) (socket : α) :
    (list.putSocket socket).2 = true ↔ list.sockets.length < list.maxSize := by
  have := list.bounded
  unfold putSocket
  split
  · simp
    omega
  · simp
    omega

theorem mem_putSocket {list : SocketsList α} {socket x : α}
    (hx : x ∈ (list.putSocket socket).1.sockets) : x ∈ list.sockets ∨ x = socket := by
  rw [putSocket_sockets] at hx
  split at hx
  · exact Or.inl hx
  · simpa using hx

theorem mem_putSocket_of_mem {list : SocketsList α} {socket x : α}
    (hx : x ∈ list.sockets) : x ∈ (list.putSocket socket).1.sockets := by
  rw [putSocket_sockets]
  split
  · exact hx
  · simp [hx]

theorem mem_putSocket_self {list : SocketsList α} {socket : α}
    (hput : (list.putSocket socket).2 = true) :
    socket ∈ (list.putSocket socket).1.sockets := by
  have hlt := (putSocket_eq_true_iff list socket).mp hput
  rw [putSocket_sockets, if_neg (by omega)]
  simp

theorem nodup_putSocket {list : SocketsList α} {socket : α}
    (hnodup : list.sockets.Nodup) (hnew : socket ∉ list.sockets) :
    (list.putSocket socket).1.sockets.Nodup := by
  rw [putSocket_sockets]
  split
  · exact hnodup
  · simpa using List.Nodup.append hnodup (List.nodup_singleton socket) (by simpa using hnew)

theorem delSocket_eq_true_iff (descriptor : α → Int) (list : SocketsList α) (d : Int) :
    (delSocket descriptor list d).2 = true ↔
      list.sockets.length < list.maxSize ∧ ∃ x ∈ list.sockets, descriptor x = d := by
  have := list.bounded
  unfold delSocket
  split
  · simp
    omega
  · split
    next hfull hany =>
      simp only [List.any_eq_true, beq_iff_eq] at hany
      simp only [true_iff]
      exact ⟨by omega, hany⟩
    next hfull hany =>
      simp only [List.any_eq_true, beq_iff_eq] at hany
      simp [hany]

theorem delSocket_sockets_of_eq_true {descriptor : α → Int} {list : SocketsList α} {d : Int}
    (hdel : (delSocket descriptor list d).2 = true) :
    (delSocket descriptor list d).1.sockets =
      list.sockets.eraseP (descriptor · == d) := by
  unfold delSocket at hdel ⊢
  split at hdel
  · contradiction
  · split at hdel
    next hfull hany => simp [hfull, hany]
    next => contradiction

theorem delSocket_of_eq_false {descriptor : α → Int} {list : SocketsList α} {d : Int}
    (hdel : (delSocket descriptor list d).2 = false) :
    (delSocket descriptor list d).1 = list := by
  unfold delSocket at hdel ⊢
  split at hdel
  next hfull => simp [hfull]
  next hfull =>
    split at hdel
    next => contradiction
    next hany => simp [hfull, hany]

theorem delSocket_sublist (descriptor : α → Int) (list : SocketsList α) (d : Int) :
    (delSocket descriptor list d).1.sockets.Sublist list.sockets := by
  cases hdel : (delSocket descriptor list d).2 with
  | false => rw [delSocket_of_eq_false hdel]
  | true =>
      rw [delSocket_sockets_of_eq_true hdel]
      exact List.eraseP_sublist

/-- Below its maximum size the list loses the first socket with the descriptor
and nothing else. -/
theorem delSocket_first [DecidableEq α] {descriptor : α → Int} {list : SocketsList α}
    {x : α} (hroom : list.sockets.length < list.maxSize)
    (hfirst : list.sockets.find? (descriptor · == descriptor x) = some x) :
    (delSocket descriptor list (descriptor x)).2 = true ∧
      (delSocket descriptor list (descriptor x)).1.sockets = list.sockets.erase x := by
  have hmem : x ∈ list.sockets := List.mem_of_find?_eq_some hfirst
  have hdel : (delSocket descriptor list (descriptor x)).2 = true :=
    (delSocket_eq_true_iff descriptor list _).mpr ⟨hroom, x, hmem, rfl⟩
  refine ⟨hdel, ?_⟩
  rw [delSocket_sockets_of_eq_true hdel]
  generalize list.sockets = sockets at hfirst
  induction sockets with
  | nil => rfl
  | cons y ys ih =>
      by_cases hy : descriptor y = descriptor x
      · have hyx : y = x := by simpa [List.find?_cons, hy] using hfirst
        simp [hyx]
      · have hyx : y ≠ x := fun h => hy (by rw [h])
        have hrest : ys.find? (descriptor · == descriptor x) = some x := by
          simpa [List.find?_cons, hy] using hfirst
        simp [hy, hyx, ih hrest]

end SocketsList

end SocketDispatcher
