import SocketDispatcher.Library.SegmentedStream
import SocketDispatcher.Mydisp.Rules
import SocketDispatcher.Mylsnr

/-!
# The link between the listener and a dispatcher

The connected UNIX socket as a first-in first-out byte stream.  The listener writes
the label and the text of the configuration, then clients, then the request to
exit, and the kernel lets these writes happen between any two steps of the
dispatcher.  A read takes a prefix of what is queued, of any length up to the size
of its buffer; the bytes of several writes may come together, but a read does not go
past a byte that carries a descriptor.

Main results:

- Theorem {lit}`act_cases`: what the listener may send next.
- Theorem {lit}`take_eq_some`: what a read may return.
- Theorem {lit}`link_reply`: the calls that leave the link as it is.
-/

namespace SocketDispatcher

open Interaction SegmentedStream

namespace Mydisp

/-! ## Messages in flight -/

/-- What happens when a byte of the stream is read. -/
inductive Event where
  /-- The attached descriptor is delivered or, by a plain {lit}`recv`, discarded. -/
  | descriptor
  /-- The request to exit has been read to its end. -/
  | exit
deriving DecidableEq

/-- The two bytes that {lit}`sendSocket` sends, with the descriptor on the first. -/
def clientSegment : Segment Byte Event :=
  { content := [0, 0], first := [.descriptor], stop := true }

def exitSegment : Segment Byte Event :=
  { content := Mylsnr.exitMessage, last := [.exit] }

/-- How far the listener has come with a connection. -/
inductive Phase where
  | fresh
  /-- The label has been written. -/
  | labelled
  /-- The text has been written, or a write before it has failed. -/
  | running
  /-- The request to exit has been written. -/
  | done
deriving DecidableEq

/-- The state of the link, with a record of what the dispatcher did. -/
structure Link where
  queue : List (Segment Byte Event) := []
  phase : Phase := .fresh
  /-- The listener has closed its end. -/
  closed : Bool := false
  /-- The consumed descriptors in order, as the dispatcher numbers them; a discarded
  one is {lean}`none`. -/
  consumed : List (Option Int) := []
  /-- The descriptors of the sockets that {lit}`createSocket` returned. -/
  returned : List Int := []
  /-- The descriptors of the sockets offered to {lit}`putSocket`. -/
  offered : List Int := []
  exitRead : Bool := false
  /-- {lit}`createContext` has been called. -/
  configured : Bool := false

/-- The moves of the listener. -/
inductive Sending where
  | label
  | text (pid : Int)
  | client
  | exit
  | close

namespace Link

/-- Queue a segment. -/
def put (w : Link) (segment : Segment Byte Event) (phase : Phase) : Link :=
  { w with queue := w.queue ++ [segment], phase := phase }

/-- The listener configures a dispatcher, sends it any number of clients, and asks it
to exit.  When a write of the configuration fails, the rest of it is left out. -/
def act (appCfg : ApplicationConfig) (w : Link) (a : Sending) : Option Link :=
  if w.closed then
    none
  else
    match a, w.phase with
    | .label, .fresh => some (w.put { content := Mylsnr.configLabel } .labelled)
    | .text pid, .labelled =>
        some (w.put { content := Mylsnr.configText pid appCfg } .running)
    | .client, .done => none
    | .client, _ => some (w.put clientSegment .running)
    | .exit, .done => none
    | .exit, _ => some (w.put exitSegment .done)
    | .close, _ => some { w with closed := true }
    | _, _ => none

/-- What a read into a buffer of the given size may return.  It fails without an
effect, it reports the end of the stream, or it takes a prefix. -/
def take (w : Link) (size : Nat) (r : Reply) : Option (Reading Byte Event) :=
  if r.ret = 0 ∧ (w.closed && w.queue.isEmpty) = false then
    none
  else
    (SegmentedStream.read r.ret.toNat w.queue).filter fun reading =>
      decide (r.ret.toNat ≤ size) && (reading.content == r.bytes)

/-- The dispatcher has consumed a reading. -/
def consume (w : Link) (reading : Reading Byte Event) (descriptors : List (Option Int)) :
    Link :=
  { w with
    queue := reading.rest
    consumed := w.consumed ++ descriptors
    exitRead := w.exitRead || decide (.exit ∈ reading.events) }

/-- A plain {lit}`recv` discards the descriptors that it reads. -/
def discard (w : Link) (reading : Reading Byte Event) : Link :=
  w.consume reading
    ((reading.events.filter (· = .descriptor)).map fun _ => none)

end Link

/-- The kernel between the listener and the dispatcher: {lit}`recvmsg` delivers a
descriptor exactly when it reads one. -/
def link (descriptor : Int) (appCfg : ApplicationConfig) :
    Kernel Link Call Reply Sending where
  reply w c r :=
    match c with
    | .recv fd _ size peek =>
        if fd = descriptor then
          (w.take size r).map fun reading => if peek then w else w.discard reading
        else some w
    | .recvmsg fd _ size =>
        if fd = descriptor then
          ((w.take size r).filter fun reading =>
            r.data.isSome == decide (.descriptor ∈ reading.events)).map fun reading =>
              w.consume reading (r.data.toList.map some)
        else some w
    | .note (.createSocket (some d)) => some { w with returned := w.returned ++ [d] }
    | .note (.putSocket _ d _) => some { w with offered := w.offered ++ [d] }
    | .note (.createContext ..) => some { w with configured := true }
    | _ => some w
  act := Link.act appCfg

/-! ## What can happen -/

variable {descriptor : Int} {appCfg : ApplicationConfig} {w w' : Link}

/-- What the listener may send next. -/
theorem act_cases {a : Sending} (h : w.act appCfg a = some w') :
    (w.phase = .fresh ∧ w' = w.put { content := Mylsnr.configLabel } .labelled) ∨
    (∃ pid, w.phase = .labelled ∧
      w' = w.put { content := Mylsnr.configText pid appCfg } .running) ∨
    (w.phase ≠ .done ∧ w' = w.put clientSegment .running) ∨
    (w.phase ≠ .done ∧ w' = w.put exitSegment .done) ∨
    w' = { w with closed := true } := by
  unfold Link.act at h
  split at h
  next => contradiction
  next =>
    split at h
    next hphase => exact Or.inl ⟨hphase, (Option.some.inj h).symm⟩
    next pid hphase =>
      exact Or.inr (Or.inl ⟨pid, hphase, (Option.some.inj h).symm⟩)
    next => contradiction
    next hphase =>
      exact Or.inr (Or.inr (Or.inl ⟨hphase, (Option.some.inj h).symm⟩))
    next => contradiction
    next hphase =>
      exact Or.inr (Or.inr (Or.inr (Or.inl ⟨hphase, (Option.some.inj h).symm⟩)))
    next =>
      exact Or.inr (Or.inr (Or.inr (Or.inr (Option.some.inj h).symm)))
    next => contradiction

/-- A read returns what it takes off the queue. -/
theorem take_eq_some {size : Nat} {r : Reply} {reading : Reading Byte Event}
    (h : w.take size r = some reading) :
    SegmentedStream.read r.ret.toNat w.queue = some reading ∧
      r.bytes = reading.content ∧ r.bytes.length = r.ret.toNat := by
  unfold Link.take at h
  split at h
  next => contradiction
  next =>
    obtain ⟨hread, hfits⟩ := Option.filter_eq_some_iff.mp h
    simp only [Bool.and_eq_true, beq_iff_eq] at hfits
    refine ⟨hread, hfits.2.symm, ?_⟩
    rw [← hfits.2, read_length hread]

/-- The calls that leave the link as it is. -/
def OffLink : Call → Prop
  | .recv .. | .recvmsg .. => False
  | .note (.createSocket (some _)) | .note (.putSocket ..) => False
  | .note (.createContext ..) => False
  | _ => True

theorem link_reply {c : Call} {r : Reply} (hc : OffLink c)
    (h : (link descriptor appCfg).reply w c r = some w') : w' = w := by
  cases c with
  | recv => exact hc.elim
  | recvmsg => exact hc.elim
  | note n =>
      cases n with
      | createSocket d =>
          cases d with
          | some d => exact hc.elim
          | none => exact (Option.some.inj h).symm
      | putSocket => exact hc.elim
      | createContext => exact hc.elim
      | _ => exact (Option.some.inj h).symm
  | _ => exact (Option.some.inj h).symm

/-- A look at the queue changes nothing. -/
theorem link_peek {fd : Int} {buffer : List Byte} {size : Nat} {r : Reply}
    (h : (link descriptor appCfg).reply w (.recv fd buffer size true) r = some w') :
    w' = w := by
  simp only [link, if_true] at h
  split at h
  next =>
    obtain ⟨_, _, hw⟩ := Option.map_eq_some_iff.mp h
    exact hw.symm
  next => exact (Option.some.inj h).symm

/-- A plain {lit}`recv` of the dispatcher discards what it reads. -/
theorem link_recv {buffer : List Byte} {size : Nat} {r : Reply}
    (h : (link descriptor appCfg).reply w (.recv descriptor buffer size false) r =
      some w') :
    ∃ reading, w.take size r = some reading ∧ w' = w.discard reading := by
  simp only [link, if_true] at h
  obtain ⟨reading, htake, hw⟩ := Option.map_eq_some_iff.mp h
  exact ⟨reading, htake, by simpa using hw.symm⟩

/-- A {lit}`recvmsg` of the dispatcher delivers the descriptor that it reads. -/
theorem link_recvmsg {buffer : List Byte} {size : Nat} {r : Reply}
    (h : (link descriptor appCfg).reply w (.recvmsg descriptor buffer size) r =
      some w') :
    ∃ reading, w.take size r = some reading ∧
      (r.data.isSome ↔ .descriptor ∈ reading.events) ∧
      w' = w.consume reading (r.data.toList.map some) := by
  simp only [link, if_true] at h
  obtain ⟨reading, hfilter, hw⟩ := Option.map_eq_some_iff.mp h
  obtain ⟨htake, hdata⟩ := Option.filter_eq_some_iff.mp hfilter
  refine ⟨reading, htake, ?_, hw.symm⟩
  rw [beq_iff_eq] at hdata
  rw [hdata, decide_eq_true_iff]

end Mydisp

end SocketDispatcher
