import SocketDispatcher.ReceivedTcpSocketFactory.Receiving
import SocketDispatcher.SocketUtils

/-!
# Passing a descriptor

{lit}`sendSocket` turns a descriptor into a two-byte message and
{lit}`ReceivedTcpSocketFactory::createSocket` turns the message back.  The two functions
are in different files and meet in one status byte: zero stands for an attached descriptor,
and an error must never be cut down to zero.

Main results:

- Theorem {lit}`safe_sendSocket`: which message is sent.
- Theorem {lit}`decoded_arrival`: what the scan makes of it.
- Theorem {lit}`passed_roundTrip`: the round trip for all descriptors of 32 bits.
-/

namespace SocketDispatcher

open Interaction

/-! ## The message -/

/-- The status byte for a negative descriptor of 32 bits. -/
def errorStatus (fd_to_send : BitVec 32) : Byte :=
  if (-fd_to_send).setWidth 8 = 0 then 1 else ⟨(-fd_to_send).setWidth 8⟩

/-- The bytes of the message for a descriptor, and the number in its control buffer. -/
def passedMessage (fd_to_send : BitVec 32) : List Byte × Option Int :=
  if fd_to_send.toInt < 0 then
    ([0, errorStatus fd_to_send], none)
  else
    ([0, 0], some fd_to_send.toInt)

theorem length_passedMessage (fd_to_send : BitVec 32) :
    (passedMessage fd_to_send).1.length = 2 := by
  unfold passedMessage
  split
  · rfl
  · rfl

/-- The negation is taken modulo {lit}`2^32` and cut to one byte. -/
theorem statusByte_toInt (fd_to_send : BitVec 32) :
    statusByte fd_to_send.toInt = errorStatus fd_to_send := by
  have hcut : UInt8.ofInt (-fd_to_send.toInt) = ⟨(-fd_to_send).setWidth 8⟩ := by
    apply UInt8.toNat_inj.mp
    have hlt := fd_to_send.isLt
    rw [UInt8.ofInt, UInt8.toNat_ofNat', UInt8.toNat_ofBitVec, BitVec.toNat_setWidth,
      BitVec.toNat_neg, BitVec.toInt_eq_toNat_cond]
    split
    · omega
    · omega
  have hzero : (⟨(-fd_to_send).setWidth 8⟩ : UInt8) = 0 ↔ (-fd_to_send).setWidth 8 = 0 := by
    rw [← UInt8.toBitVec_inj]
    rfl
  simp only [statusByte, errorStatus, hcut, hzero]

/-- An error is not cut down to zero. -/
theorem toNat_errorStatus_pos (fd_to_send : BitVec 32) :
    0 < (errorStatus fd_to_send).toNat := by
  have hne := statusByte_ne_zero fd_to_send.toInt
  rw [statusByte_toInt, ne_eq, ← UInt8.toNat_inj, UInt8.toNat_zero] at hne
  omega

/-- A call of {lit}`sendmsg` carries this message. -/
def Carries (message : List Byte × Option Int) : Call → Prop
  | .sendmsg _ bytes control => (bytes, control) = message
  | _ => True

section Sending

variable {socketSender socketToSend : Ptr} {toSend : Socket} {fd_to_send : BitVec 32}

theorem within_allocSendControl (I : Memory → Prop) (P : Call → Prop) (hmalloc : P .malloc)
    (hcmptr : ∀ s content, I s → I { s with sendCmptr := some content }) :
    Within I P allocSendControl := by
  apply within_get_bind
  intro s hs
  split
  next => exact within_pure _
  next =>
    apply within_bind (within_ask hmalloc)
    intro r
    split
    next => exact within_pure _
    next content _ =>
      exact within_bind (within_modify fun s hs => hcmptr s content hs) fun _ => within_pure _

/-- Whatever it is told, {lit}`sendSocket` sends no other message. -/
theorem within_sendSocket (hfd : toSend.descriptor = fd_to_send.toInt) :
    Within (fun s => s.heap socketToSend = some toSend) (Carries (passedMessage fd_to_send))
      (sendSocket socketSender socketToSend) := by
  apply within_deref_bind trivial
  intro _ sender _ _
  apply within_deref_bind trivial
  intro s socket hs hsocket
  obtain rfl : toSend = socket := Option.some.inj (hs.symm.trans hsocket)
  refine within_bind (within_note trivial) fun _ => ?_
  rw [hfd]
  split
  next hneg =>
    refine within_bind (within_ask ?_) fun _ => within_pure _
    rw [Carries, passedMessage, if_pos hneg, statusByte_toInt]
  next hpos =>
    refine within_bind (within_allocSendControl _ _ trivial fun _ _ hs => hs) fun _ => ?_
    refine within_ite ?_ (within_pure _)
    refine within_bind (within_modify fun _ hs => hs) fun _ => ?_
    refine within_bind (within_ask ?_) fun _ => within_pure _
    rw [Carries, passedMessage, if_neg hpos]

/-- {lit}`sendSocket` sends the message for the descriptor of its second argument. -/
theorem safe_sendSocket {W A : Type} (K : Kernel W Call Reply A)
    (H : Memory → W → Call → Reply → Prop) {s : Memory} (w : W)
    (htoSend : s.heap socketToSend = some toSend)
    (hfd : toSend.descriptor = fd_to_send.toInt) :
    Safe K H (fun _ _ c => Carries (passedMessage fd_to_send) c)
      ⟨s, w, sendSocket socketSender socketToSend⟩ := by
  have hquiet : Quiet K H (fun _ _ c => Carries (passedMessage fd_to_send) c)
      (fun s => s.heap socketToSend = some toSend) (Carries (passedMessage fd_to_send))
      fun _ => True :=
    ⟨fun _ _ _ _ hc _ => hc, fun _ _ _ _ _ _ _ _ _ _ => trivial, fun _ _ _ _ _ => trivial⟩
  exact (((within_sendSocket hfd).sat hquiet htoSend trivial).mono fun _ _ _ _ => trivial).safe

end Sending

/-! ## The arrival -/

/-- The message for a descriptor arrives in one piece; the kernel attaches the number
{lit}`d` if the message carries a descriptor. -/
def arrival (fd_to_send : BitVec 32) (d : Int) : RecvResult :=
  .chunk {
    bytes := (passedMessage fd_to_send).1
    descriptor := (passedMessage fd_to_send).2.map fun _ => d
    length_pos := by simp [length_passedMessage]
    length_le := by simp [length_passedMessage, MAXLINE] }

/-- The status byte of the message. -/
theorem decoded_arrival (fd_to_send : BitVec 32) (d : Int) (s : Memory) (buf : List Byte) :
    (arrival fd_to_send d).decoded s buf =
      if fd_to_send.toInt < 0 then
        ⟨(errorStatus fd_to_send).toNat, -(errorStatus fd_to_send).toNat⟩
      else
        ⟨0, d⟩ := by
  by_cases hneg : fd_to_send.toInt < 0
  · have hne : ((errorStatus fd_to_send).toNat : Int) ≠ 0 := by
      have hpos := toNat_errorStatus_pos fd_to_send
      omega
    simp only [RecvResult.decoded, arrival, RecvResult.reply, passedMessage, if_pos hneg]
    exact (scan_message (errorStatus fd_to_send) (List.not_mem_nil (a := 0))).trans
      (by rw [if_neg hne])
  · simp only [RecvResult.decoded, arrival, RecvResult.reply, passedMessage, if_neg hneg]
    exact scan_message 0 (List.not_mem_nil (a := 0))

/-! ## The round trip -/

/-- What comes of a call that receives the message for a descriptor: a socket for the
attached number, or a status that stands for an error and the empty pointer. -/
def Understood (fd_to_send : BitVec 32) (d : Int) (status : Int) (p : Ptr) (m : Memory) : Prop :=
  if 0 ≤ fd_to_send.toInt then
    status = 0 ∧ p ≠ nullptr ∧ ∃ socket, m.heap p = some socket ∧ socket.descriptor = d
  else
    1 ≤ status ∧ status ≤ 255 ∧ p = nullptr

theorem eval_arrival {unixSocket : Ptr} {m : Memory} {socket : Socket}
    (hsocket : m.heap unixSocket = some socket) (hcmptr : m.cmptr.isSome)
    (hnext : m.next ≠ nullptr) {d : Int} (hd : 0 < d) (fd_to_send : BitVec 32)
    (allocated : Option Int) (stack buf : List Byte) (fuel : Nat) :
    ∃ p m', (createSocketLoop unixSocket (fuel + 1) buf (-1)).eval (receiving allocated stack) m
        [arrival fd_to_send d] = some (p, m', []) ∧
      Understood fd_to_send d ((arrival fd_to_send d).decoded m buf).status p m' := by
  have hret : ¬(arrival fd_to_send d).reply.ret = 0 := by
    simp [arrival, RecvResult.reply, length_passedMessage]
  rw [eval_loop_cons hsocket hcmptr, if_neg hret, decoded_arrival]
  by_cases hneg : fd_to_send.toInt < 0
  · have hnonneg : ¬0 ≤ fd_to_send.toInt := by omega
    have hlt := (errorStatus fd_to_send).toNat_lt
    have hpos := toNat_errorStatus_pos fd_to_send
    have hnewfd : ¬-((errorStatus fd_to_send).toNat : Int) > 0 := by omega
    simp only [if_pos hneg, makeTcpSocket, dif_neg hnewfd, Understood, if_neg hnonneg]
    rw [if_pos (by omega)]
    exact ⟨_, _, rfl, by omega, by omega, rfl⟩
  · have hnonneg : 0 ≤ fd_to_send.toInt := by omega
    simp only [if_neg hneg, makeTcpSocket, dif_pos hd, Understood, if_pos hnonneg]
    rw [if_pos (by omega)]
    refine ⟨m.next, _, rfl, trivial, hnext, tcpSocket d hd, ?_, rfl⟩
    rw [Memory.alloc_heap]
    exact if_pos rfl

/-- The message for any descriptor of 32 bits is understood, whatever the receive buffer and
the two control buffers held before. -/
theorem passed_roundTrip (fd_to_send : BitVec 32) :
    (∀ {W A : Type} (K : Kernel W Call Reply A) (H : Memory → W → Call → Reply → Prop)
        (s : Memory) (w : W) (socketSender socketToSend : Ptr) (toSend : Socket),
      s.heap socketToSend = some toSend → toSend.descriptor = fd_to_send.toInt →
      Safe K H (fun _ _ c => Carries (passedMessage fd_to_send) c)
        ⟨s, w, sendSocket socketSender socketToSend⟩) ∧
    ∀ (d : Int) (m : Memory) (unixSocket : Ptr) (socket : Socket) (content : Int)
        (stack : List Byte) (fuel : Nat),
      0 < d → m.heap unixSocket = some socket → m.next ≠ nullptr →
      ∃ p m', Reaches (scripted (receiving (some content) stack)) anyReply
          ⟨m, [arrival fd_to_send d], createSocket unixSocket (fuel + 1)⟩ ⟨m', [], .ret p⟩ ∧
        Understood fd_to_send d ((arrival fd_to_send d).decoded m stack).status p m' := by
  constructor
  · intro W A K H s w socketSender socketToSend toSend htoSend hfd
    exact safe_sendSocket K H w htoSend hfd
  · intro d m unixSocket socket content stack fuel hd hsocket hnext
    simp only [reaches_scripted_iff, eval_createSocket]
    cases hcmptr : m.cmptr with
    | some c =>
        exact eval_arrival hsocket (by simp [hcmptr]) hnext hd fd_to_send _ stack stack fuel
    | none =>
        rw [eval_loop_allocated hcmptr]
        obtain ⟨p, m', heval, hunderstood⟩ := eval_arrival (m := { m with cmptr := some content })
          hsocket rfl hnext hd fd_to_send (some content) stack stack fuel
        rw [decoded_arrival] at hunderstood
        exact ⟨p, m', heval, by rw [decoded_arrival]; exact hunderstood⟩

/-- An error number that is a multiple of 256. -/
theorem passed_roundTrip_multiple :
    ∃ p m', Reaches (scripted (receiving (some 9) [])) anyReply
        ⟨connectedMemory, [arrival (-256) 5], createSocket 1 1⟩ ⟨m', [], .ret p⟩ ∧
      Understood (-256) 5 ((arrival (-256) 5).decoded connectedMemory []).status p m' :=
  (passed_roundTrip (-256)).2 5 connectedMemory 1 _ 9 [] 0 (by decide) rfl (by decide)

end SocketDispatcher
