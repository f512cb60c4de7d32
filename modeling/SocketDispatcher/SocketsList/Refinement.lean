import SocketDispatcher.SocketsList

/-!
# A bounded ordered list as the specification

What {lit}`SocketsList` is for: an ordered list that never holds more than its
maximum.  The specification knows no guard in front of a deletion, the class has
one: {lit}`delSocket` gives up at once when the list is full.

Main results:

- Theorem {lit}`perform_eq_specification_iff`: one call agrees with the
  specification unless it deletes a held descriptor from a full list.
- Theorem {lit}`refines_iff`: a sequence of calls refines the specification exactly
  when it has no such deletion.
-/

namespace SocketDispatcher

namespace SocketsList

variable {α : Type}

/-- A call of a method. -/
inductive Operation (α : Type) where
  | putSocket (socket : α)
  | delSocket (socket : α)
  | clear

/-- Carry out a call.  The flag of {lit}`clear`, which returns nothing, is
{lean}`none`. -/
def perform (descriptor : α → Int) (list : SocketsList α) :
    Operation α → SocketsList α × Option Bool
  | .putSocket socket => ((list.putSocket socket).1, some (list.putSocket socket).2)
  | .delSocket socket =>
      let deleted := delSocket descriptor list (descriptor socket)
      (deleted.1, some deleted.2)
  | .clear => (list.clear, none)

/-- The list after a sequence of calls. -/
def after (descriptor : α → Int) (list : SocketsList α) (ops : List (Operation α)) :
    SocketsList α :=
  ops.foldl (fun list op => (perform descriptor list op).1) list

/-- The contents and the flag after each call. -/
def trace (descriptor : α → Int) :
    SocketsList α → List (Operation α) → List (List α × Option Bool)
  | _, [] => []
  | list, op :: ops =>
      let performed := perform descriptor list op
      (performed.1.sockets, performed.2) :: trace descriptor performed.1 ops

/-! ## The specification -/

/-- One call on a bounded ordered list. -/
def specification (descriptor : α → Int) (maxSize : Nat) (held : List α) :
    Operation α → List α × Option Bool
  | .putSocket socket =>
      if held.length < maxSize then (held ++ [socket], some true) else (held, some false)
  | .delSocket socket =>
      if held.any (descriptor · == descriptor socket) then
        (held.eraseP (descriptor · == descriptor socket), some true)
      else
        (held, some false)
  | .clear => ([], none)

/-- The contents and the flag that the specification wants after each call. -/
def specificationTrace (descriptor : α → Int) (maxSize : Nat) :
    List α → List (Operation α) → List (List α × Option Bool)
  | _, [] => []
  | held, op :: ops =>
      specification descriptor maxSize held op ::
        specificationTrace descriptor maxSize
          (specification descriptor maxSize held op).1 ops

/-- A call deletes a held descriptor from a full list. -/
def DeletesFromFull (descriptor : α → Int) (maxSize : Nat) (held : List α) :
    Operation α → Prop
  | .delSocket socket =>
      held.length = maxSize ∧ ∃ x ∈ held, descriptor x = descriptor socket
  | _ => False

/-- No call of a sequence, carried out as the specification says, deletes a held
descriptor from a full list. -/
def SparesFull (descriptor : α → Int) (maxSize : Nat) :
    List α → List (Operation α) → Prop
  | _, [] => True
  | held, op :: ops =>
      ¬DeletesFromFull descriptor maxSize held op ∧
        SparesFull descriptor maxSize (specification descriptor maxSize held op).1 ops

/-- A new list behaves as the specification says over a sequence of calls. -/
structure Refines (descriptor : α → Int) (maxSize : Nat) (ops : List (Operation α)) :
    Prop where
  agrees : trace descriptor (empty maxSize) ops =
    specificationTrace descriptor maxSize [] ops
  unchanged : ∀ done op rest, ops = done ++ op :: rest →
    (perform descriptor (after descriptor (empty maxSize) done) op).2 = some false →
      (perform descriptor (after descriptor (empty maxSize) done) op).1.sockets =
        (after descriptor (empty maxSize) done).sockets
  bounded : ∀ done, done <+: ops →
    (after descriptor (empty maxSize) done).sockets.length ≤ maxSize

/-! ## One call -/

section Step

variable (descriptor : α → Int) (list : SocketsList α)

@[simp]
theorem perform_maxSize (op : Operation α) :
    (perform descriptor list op).1.maxSize = list.maxSize := by
  cases op <;> simp [perform]

/-- The guard of {lit}`putSocket` compares for equality, which comes to the same because
no list is longer than its maximum. -/
theorem putSocket_eq_specification (socket : α) :
    ((perform descriptor list (.putSocket socket)).1.sockets,
        (perform descriptor list (.putSocket socket)).2) =
      specification descriptor list.maxSize list.sockets (.putSocket socket) := by
  have hbounded := list.bounded
  simp only [perform, putSocket, specification]
  by_cases hfull : list.sockets.length = list.maxSize
  · simp [hfull]
  · have hroom : list.sockets.length < list.maxSize := by omega
    simp [hfull, hroom]

/-- On a full list {lit}`delSocket` returns false, so it agrees only if the descriptor
is not held. -/
theorem delSocket_eq_specification_iff (socket : α) :
    ((perform descriptor list (.delSocket socket)).1.sockets,
        (perform descriptor list (.delSocket socket)).2) =
      specification descriptor list.maxSize list.sockets (.delSocket socket) ↔
        ¬DeletesFromFull descriptor list.maxSize list.sockets (.delSocket socket) := by
  simp only [perform, delSocket, specification, DeletesFromFull]
  by_cases hheld : list.sockets.any (descriptor · == descriptor socket) = true
  · have hexists : ∃ x ∈ list.sockets, descriptor x = descriptor socket := by
      simpa using hheld
    by_cases hfull : list.sockets.length = list.maxSize
    · simp [hheld, hfull, hexists]
    · simp [hheld, hfull]
  · have hnone : ¬∃ x ∈ list.sockets, descriptor x = descriptor socket := by
      simpa using hheld
    by_cases hfull : list.sockets.length = list.maxSize
    · simp [hheld, hfull, hnone]
    · simp [hheld, hfull]

/-- One call agrees with the specification unless it deletes a held descriptor from a
full list. -/
theorem perform_eq_specification_iff (op : Operation α) :
    ((perform descriptor list op).1.sockets, (perform descriptor list op).2) =
      specification descriptor list.maxSize list.sockets op ↔
        ¬DeletesFromFull descriptor list.maxSize list.sockets op := by
  cases op with
  | putSocket socket =>
      exact iff_of_true (putSocket_eq_specification descriptor list socket) id
  | delSocket socket => exact delSocket_eq_specification_iff descriptor list socket
  | clear => simp [perform, specification, DeletesFromFull]

/-- A call that returns false changes nothing. -/
theorem perform_of_false {op : Operation α}
    (hfalse : (perform descriptor list op).2 = some false) :
    (perform descriptor list op).1.sockets = list.sockets := by
  cases op with
  | putSocket socket =>
      have hput : (list.putSocket socket).2 = false := by simpa [perform] using hfalse
      have hfull : list.sockets.length = list.maxSize := by
        have hnot := mt (putSocket_eq_true_iff list socket).mpr (by simp [hput])
        have hbounded := list.bounded
        omega
      rw [perform, putSocket_sockets, if_pos hfull]
  | delSocket socket =>
      have hdel : (delSocket descriptor list (descriptor socket)).2 = false := by
        simpa [perform] using hfalse
      rw [perform, delSocket_of_eq_false hdel]
  | clear => simp [perform] at hfalse

end Step

/-! ## Sequences of calls -/

@[simp]
theorem after_maxSize (descriptor : α → Int) (list : SocketsList α)
    (ops : List (Operation α)) : (after descriptor list ops).maxSize = list.maxSize := by
  induction ops generalizing list with
  | nil => rfl
  | cons op ops ih =>
      rw [after, List.foldl_cons]
      exact (ih _).trans (perform_maxSize descriptor list op)

/-- The traces part at the first deletion of a held descriptor from a full list. -/
theorem trace_eq_specificationTrace_iff (descriptor : α → Int) (list : SocketsList α)
    (ops : List (Operation α)) :
    trace descriptor list ops =
      specificationTrace descriptor list.maxSize list.sockets ops ↔
        SparesFull descriptor list.maxSize list.sockets ops := by
  induction ops generalizing list with
  | nil => simp [trace, specificationTrace, SparesFull]
  | cons op ops ih =>
      have hstep := perform_eq_specification_iff descriptor list op
      have hrest := ih (perform descriptor list op).1
      rw [perform_maxSize] at hrest
      rw [trace, specificationTrace, SparesFull, List.cons.injEq, hstep]
      apply and_congr_right
      intro hspared
      have hsockets := congrArg Prod.fst (hstep.mpr hspared)
      rw [← hsockets]
      exact hrest

/-- A sequence of calls on a new list behaves as the specification says exactly when it
never deletes a held descriptor from a full list. -/
theorem refines_iff (descriptor : α → Int) (maxSize : Nat) (ops : List (Operation α)) :
    Refines descriptor maxSize ops ↔ SparesFull descriptor maxSize [] ops := by
  have htrace := trace_eq_specificationTrace_iff descriptor (empty maxSize) ops
  constructor
  · intro h
    exact htrace.mp h.agrees
  · intro hspares
    refine ⟨htrace.mpr hspares, ?_, ?_⟩
    · intro done op rest _ hfalse
      exact perform_of_false descriptor _ hfalse
    · intro done _
      have hbounded := (after descriptor (empty maxSize) done).bounded
      rwa [after_maxSize] at hbounded

/-- A full list of one socket refuses to delete it. -/
theorem full_list_refuses :
    ¬Refines (fun descriptor : Int => descriptor) 1 [.putSocket 3, .delSocket 3] := by
  intro h
  have hagrees := h.agrees
  revert hagrees
  decide

end SocketsList

end SocketDispatcher
