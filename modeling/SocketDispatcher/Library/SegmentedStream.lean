import Mathlib.Data.List.Basic

/-!
# Segmented streams

A first-in first-out stream of elements that were written in segments.  A read takes
a prefix of what is queued and may join or split segments, but it does not go past a
segment that is marked as a stop.  Events ride on a segment: some happen when its
first element is read, others when its last one is.

Main results:

- Theorem {lit}`read_induction`: the induction rule for reads.
- Theorem {lit}`read_content`: what is read, followed by what is left, is what was
  queued.
- Theorem {lit}`read_pending`: no event is lost, repeated or overtaken.
-/

namespace SegmentedStream

/-- What one write has queued, or what a read has left of it. -/
structure Segment (β ε : Type) where
  content : List β
  /-- Events that happen when the first element is read. -/
  first : List ε := []
  /-- Events that happen when the last element is read. -/
  last : List ε := []
  /-- A read does not go past this segment. -/
  stop : Bool := false
deriving DecidableEq

/-- What a read returns and leaves behind. -/
structure Reading (β ε : Type) where
  content : List β
  events : List ε
  rest : List (Segment β ε)

variable {β ε : Type}

/-- Read exactly the given number of elements. -/
def read : Nat → List (Segment β ε) → Option (Reading β ε)
  | 0, queue => some ⟨[], [], queue⟩
  | _ + 1, [] => none
  | n + 1, segment :: queue =>
      if n + 1 < segment.content.length then
        some
          { content := segment.content.take (n + 1)
            events := segment.first
            rest := { segment with
              content := segment.content.drop (n + 1), first := [] } :: queue }
      else if n + 1 = segment.content.length then
        some ⟨segment.content, segment.first ++ segment.last, queue⟩
      else if segment.stop then
        none
      else
        (read (n + 1 - segment.content.length) queue).map fun reading =>
          { content := segment.content ++ reading.content
            events := segment.first ++ segment.last ++ reading.events
            rest := reading.rest }

/-- Induction over a successful read: it takes nothing, splits the segment at the
head, takes exactly that segment, or takes it and goes on. -/
theorem read_induction {motive : Nat → List (Segment β ε) → Reading β ε → Prop}
    (nothing : ∀ queue, motive 0 queue ⟨[], [], queue⟩)
    (splits : ∀ n segment queue, n + 1 < segment.content.length →
      motive (n + 1) (segment :: queue)
        { content := segment.content.take (n + 1)
          events := segment.first
          rest := { segment with
            content := segment.content.drop (n + 1), first := [] } :: queue })
    (whole : ∀ n segment queue, n + 1 = segment.content.length →
      motive (n + 1) (segment :: queue)
        ⟨segment.content, segment.first ++ segment.last, queue⟩)
    (joins : ∀ n segment queue reading, segment.content.length < n + 1 →
      segment.stop = false →
      motive (n + 1 - segment.content.length) queue reading →
      motive (n + 1) (segment :: queue)
        { content := segment.content ++ reading.content
          events := segment.first ++ segment.last ++ reading.events
          rest := reading.rest })
    {n : Nat} {queue : List (Segment β ε)} {reading : Reading β ε}
    (h : read n queue = some reading) : motive n queue reading := by
  induction queue generalizing n reading with
  | nil =>
      cases n with
      | zero =>
          obtain rfl := Option.some.inj h
          exact nothing []
      | succ n => contradiction
  | cons segment queue ih =>
      cases n with
      | zero =>
          obtain rfl := Option.some.inj h
          exact nothing (segment :: queue)
      | succ n =>
          rw [read] at h
          split at h
          next hlt =>
            obtain rfl := Option.some.inj h
            exact splits n segment queue hlt
          next hlt =>
            split at h
            next heq =>
              obtain rfl := Option.some.inj h
              exact whole n segment queue heq
            next heq =>
              split at h
              next => contradiction
              next hstop =>
                obtain ⟨reading, hread, rfl⟩ := Option.map_eq_some_iff.mp h
                exact joins n segment queue reading (by omega) (by simpa using hstop)
                  (ih hread)

/-! ## Conservation -/

/-- Everything queued. -/
def content (queue : List (Segment β ε)) : List β :=
  queue.flatMap Segment.content

/-- Every event that is still to happen. -/
def pending (queue : List (Segment β ε)) : List ε :=
  queue.flatMap fun segment => segment.first ++ segment.last

@[simp]
theorem content_append (queue queue' : List (Segment β ε)) :
    content (queue ++ queue') = content queue ++ content queue' :=
  List.flatMap_append

@[simp]
theorem content_singleton (segment : Segment β ε) : content [segment] = segment.content := by
  simp [content]

@[simp]
theorem pending_append (queue queue' : List (Segment β ε)) :
    pending (queue ++ queue') = pending queue ++ pending queue' :=
  List.flatMap_append

@[simp]
theorem pending_singleton (segment : Segment β ε) :
    pending [segment] = segment.first ++ segment.last := by
  simp [pending]

/-- What is read, followed by what is left, is what was queued. -/
theorem read_content {n : Nat} {queue : List (Segment β ε)} {reading : Reading β ε}
    (h : read n queue = some reading) :
    reading.content ++ content reading.rest = content queue := by
  apply read_induction (motive := fun _ queue reading =>
    reading.content ++ content reading.rest = content queue) _ _ _ _ h
  · intro queue
    rfl
  · intro n segment queue _
    simp [content, ← List.append_assoc]
  · intro n segment queue _
    simp [content]
  · intro n segment queue reading _ _ ih
    simp only [content, List.flatMap_cons, List.append_assoc] at ih ⊢
    rw [ih]

/-- The read has the length that was asked for. -/
theorem read_length {n : Nat} {queue : List (Segment β ε)} {reading : Reading β ε}
    (h : read n queue = some reading) : reading.content.length = n := by
  apply read_induction (motive := fun n _ reading => reading.content.length = n) _ _ _ _ h
  · intro queue
    rfl
  · intro n segment queue hlt
    rw [List.length_take]
    omega
  · intro n segment queue heq
    exact heq.symm
  · intro n segment queue reading hlt _ ih
    rw [List.length_append]
    omega

/-- No event is lost, repeated or overtaken. -/
theorem read_pending {n : Nat} {queue : List (Segment β ε)} {reading : Reading β ε}
    (h : read n queue = some reading) :
    reading.events ++ pending reading.rest = pending queue := by
  apply read_induction (motive := fun _ queue reading =>
    reading.events ++ pending reading.rest = pending queue) _ _ _ _ h
  · intro queue
    rfl
  · intro n segment queue _
    simp [pending]
  · intro n segment queue _
    simp [pending]
  · intro n segment queue reading _ _ ih
    simp only [pending, List.flatMap_cons, List.append_assoc] at ih ⊢
    rw [ih]

end SegmentedStream
