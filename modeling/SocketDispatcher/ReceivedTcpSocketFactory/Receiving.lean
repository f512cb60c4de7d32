import SocketDispatcher.Library.Evaluation
import SocketDispatcher.ReceivedTcpSocketFactory
import SocketDispatcher.SocketsPoller

/-!
# Sequences of received results

{lit}`ReceivedTcpSocketFactory::createSocket` against a given sequence of results of
{lit}`recvmsg`.  A result either ends the call or is passed over, and an error is passed
over like a chunk without a zero byte.

Main results:

- Theorem {lit}`eval_loop_stops` and theorem {lit}`eval_loop_skips`: what the loop makes of
  one result.
- Theorem {lit}`prompt_iff`: the sequences on which the call returns in time.
-/

namespace SocketDispatcher

open Interaction

/-! ## Results -/

/-- Bytes that one {lit}`recvmsg` brings, with or without a descriptor. -/
structure Chunk where
  bytes : List Byte
  descriptor : Option Int := none
  length_pos : 0 < bytes.length
  length_le : bytes.length ≤ MAXLINE

/-- The result of one {lit}`recvmsg`. -/
inductive RecvResult where
  | chunk (c : Chunk)
  | endOfStream
  | error (errno : Int)

namespace RecvResult

def reply : RecvResult → Reply
  | .chunk c => { ret := c.bytes.length, bytes := c.bytes, data := c.descriptor }
  | .endOfStream => { ret := 0 }
  | .error errno => { ret := -1, errno := errno }

/-- The end of the stream, or an error other than {lit}`EINTR`. -/
def Final : RecvResult → Prop
  | .chunk _ => False
  | .endOfStream => True
  | .error errno => errno ≠ EINTR

/-- What the loop decodes from a result. -/
def decoded (result : RecvResult) (s : Memory) (buf : List Byte) : Scan :=
  scan ((s.storeControl result.reply.data).cmptr.getD 0) (memcpy buf result.reply.bytes)
    result.reply.ret (-1)

/-- A result that ends the call. -/
def stops : RecvResult → Bool
  | .chunk c => 0 ∈ c.bytes
  | .endOfStream => true
  | .error _ => false

/-- Of the final results the end of the stream stops the call, and errors do not. -/
theorem eq_endOfStream {result : RecvResult} (hstops : result.stops) (hfinal : result.Final) :
    result = .endOfStream := by
  cases result with
  | chunk c => exact hfinal.elim
  | endOfStream => rfl
  | error errno => simp [stops] at hstops

end RecvResult

/-- The surroundings of a call: {lit}`recvmsg` gives the results one after another and
blocks behind the last one, {lit}`malloc` gives a control buffer or fails, and
{lit}`stack` is what the receive buffer holds at first. -/
def receiving (allocated : Option Int) (stack : List Byte) :
    List RecvResult → Call → Option (Reply × List RecvResult)
  | [], .recvmsg .. => none
  | result :: results, .recvmsg .. => some (result.reply, results)
  | results, .malloc => some ({ data := allocated }, results)
  | results, .automatic _ => some ({ bytes := stack }, results)
  | results, _ => some ({}, results)

/-- The call returns no later than at the first final result, and with the empty pointer
if it comes as far as that one. -/
def Prompt (unixSocket : Ptr) (s : Memory) (allocated : Option Int) (stack : List Byte)
    (results : List RecvResult) : Prop :=
  ∀ pre result post, results = pre ++ result :: post → (∀ r ∈ pre, ¬r.Final) → result.Final →
    ∃ fuel p s' left,
      Reaches (scripted (receiving allocated stack)) anyReply
        ⟨s, results, createSocket unixSocket fuel⟩ ⟨s', left, .ret p⟩ ∧
      post.length ≤ left.length ∧ (left.length = post.length → p = nullptr)

/-! ## One result -/

section Receiving

variable {unixSocket : Ptr} {allocated : Option Int} {stack : List Byte}

/-- A chunk with a zero byte is decoded to a status. -/
theorem scan_status_nonneg {control status : Int} {bytes : List Byte} (hzero : 0 ∈ bytes)
    (stale : List Byte) :
    0 ≤ (scan control (bytes ++ stale) bytes.length status).status := by
  obtain ⟨pre, post, rfl, hpre⟩ := List.eq_append_cons_of_mem hzero
  have hlength : (pre ++ 0 :: post).length = pre.length + (post.length + 1) :=
    List.length_append
  rw [scan, List.append_assoc, scanLoop_skip hpre (by omega), List.cons_append, scanLoop,
    if_neg (by omega), if_pos rfl]
  rcases scanLoop_cases control (post ++ stale) _ _ with heq | ⟨b, heq⟩
  · rw [heq]
    exact Int.natCast_nonneg _
  · rw [heq]
    exact Int.natCast_nonneg _

/-- An allocated control buffer is not allocated again. -/
theorem eval_allocControl_of_isSome {s : Memory} (halloc : s.cmptr.isSome)
    (results : List RecvResult) :
    allocControl.eval (receiving allocated stack) s results = some (true, s, results) := by
  obtain ⟨content, hcontent⟩ := Option.isSome_iff_exists.mp halloc
  simp [allocControl, hcontent]

theorem eval_deref {s : Memory} {socket : Socket} (hsocket : s.heap unixSocket = some socket)
    (results : List RecvResult) :
    (deref unixSocket).eval (receiving allocated stack) s results =
      some (socket, s, results) := by
  simp [deref, hsocket]

/-- Without a result the call waits. -/
theorem eval_loop_nil {s : Memory} {socket : Socket} (hsocket : s.heap unixSocket = some socket)
    (halloc : s.cmptr.isSome) (fuel : Nat) (buf : List Byte) (status : Int) :
    (createSocketLoop unixSocket fuel buf status).eval (receiving allocated stack) s [] =
      none := by
  cases fuel with
  | zero => rfl
  | succ fuel =>
      rw [createSocketLoop, eval_bind, eval_allocControl_of_isSome halloc, Option.bind_some,
        if_pos rfl, eval_bind, eval_deref hsocket, Option.bind_some, eval_bind, eval_ask]
      rfl

/-- Once around the loop with an allocated control buffer. -/
theorem eval_loop_cons {s : Memory} {socket : Socket} (hsocket : s.heap unixSocket = some socket)
    (halloc : s.cmptr.isSome) (fuel : Nat) (buf : List Byte) (result : RecvResult)
    (results : List RecvResult) :
    (createSocketLoop unixSocket (fuel + 1) buf (-1)).eval (receiving allocated stack) s
        (result :: results) =
      if result.reply.ret = 0 then
        some (nullptr, s, results)
      else if (result.decoded s buf).status ≥ 0 then
        (makeTcpSocket (result.decoded s buf).newfd).eval (receiving allocated stack)
          (s.storeControl result.reply.data) results
      else
        (createSocketLoop unixSocket fuel (memcpy buf result.reply.bytes)
          (result.decoded s buf).status).eval (receiving allocated stack)
          (s.storeControl result.reply.data) results := by
  rw [createSocketLoop, eval_bind, eval_allocControl_of_isSome halloc, Option.bind_some,
    if_pos rfl, eval_bind, eval_deref hsocket, Option.bind_some, eval_bind, eval_ask]
  simp only [receiving, Option.map_some, Option.bind_some]
  split
  next => rfl
  next =>
    simp only [eval_bind, eval_modify, eval_get, Option.bind_some]
    split
    next hstatus => exact (if_pos hstatus).symm
    next hstatus => exact (if_neg hstatus).symm

theorem eval_makeTcpSocket (newfd : Int) (s : Memory) :
    ∃ p s', ∀ results : List RecvResult,
      (makeTcpSocket newfd).eval (receiving allocated stack) s results =
        some (p, s', results) := by
  unfold makeTcpSocket
  split
  next hpos => exact ⟨s.next, s.alloc (tcpSocket newfd hpos), fun _ => rfl⟩
  next => exact ⟨nullptr, s, fun _ => rfl⟩

variable (allocated stack) in
/-- A result that ends the call; the end of the stream gives the empty pointer. -/
theorem eval_loop_stops {s : Memory} {socket : Socket}
    (hsocket : s.heap unixSocket = some socket) (halloc : s.cmptr.isSome) {result : RecvResult}
    (hstops : result.stops) (buf : List Byte) :
    ∃ p s', (result = .endOfStream → p = nullptr) ∧ ∀ fuel results,
      (createSocketLoop unixSocket (fuel + 1) buf (-1)).eval (receiving allocated stack) s
        (result :: results) = some (p, s', results) := by
  cases result with
  | chunk c =>
      have hret : ¬(RecvResult.chunk c).reply.ret = 0 := by
        have := c.length_pos
        simp only [RecvResult.reply]
        omega
      have hzero : 0 ∈ c.bytes := by simpa [RecvResult.stops] using hstops
      have hstatus : ((RecvResult.chunk c).decoded s buf).status ≥ 0 := scan_status_nonneg hzero _
      obtain ⟨p, s', heval⟩ := eval_makeTcpSocket
        ((RecvResult.chunk c).decoded s buf).newfd (s.storeControl c.descriptor)
      refine ⟨p, s', by simp, fun fuel results => ?_⟩
      rw [eval_loop_cons hsocket halloc, if_neg hret, if_pos hstatus]
      exact heval results
  | endOfStream =>
      refine ⟨nullptr, s, fun _ => rfl, fun fuel results => ?_⟩
      rw [eval_loop_cons hsocket halloc]
      rfl
  | error errno => simp [RecvResult.stops] at hstops

theorem storeControl_cmptr {s : Memory} (halloc : s.cmptr.isSome) (data : Option Int) :
    (s.storeControl data).cmptr.isSome := by
  cases data with
  | none => exact halloc
  | some d => rfl

/-- A result that is passed over leaves the status as it was. -/
theorem decoded_status_of_skips {result : RecvResult} (hskips : result.stops = false)
    (s : Memory) (buf : List Byte) :
    result.reply.ret ≠ 0 ∧ (result.decoded s buf).status = -1 := by
  cases result with
  | chunk c =>
      have hzero : 0 ∉ c.bytes := by simpa [RecvResult.stops] using hskips
      have hpos := c.length_pos
      refine ⟨?_, scan_of_zero_not_mem hzero⟩
      simp only [RecvResult.reply]
      omega
  | endOfStream => simp [RecvResult.stops] at hskips
  | error errno =>
      exact ⟨by simp [RecvResult.reply], scan_of_nonpos (by simp [RecvResult.reply]) _⟩

variable (allocated stack) in
/-- A result that is passed over. -/
theorem eval_loop_skips {s : Memory} {socket : Socket}
    (hsocket : s.heap unixSocket = some socket) (halloc : s.cmptr.isSome) {result : RecvResult}
    (hskips : result.stops = false) (fuel : Nat) (buf : List Byte) (results : List RecvResult) :
    (createSocketLoop unixSocket (fuel + 1) buf (-1)).eval (receiving allocated stack) s
        (result :: results) =
      (createSocketLoop unixSocket fuel (memcpy buf result.reply.bytes) (-1)).eval
        (receiving allocated stack) (s.storeControl result.reply.data) results := by
  obtain ⟨hret, hstatus⟩ := decoded_status_of_skips hskips s buf
  rw [eval_loop_cons hsocket halloc, if_neg hret, if_neg (by omega), hstatus]

/-! ## Sequences of results -/

/-- A call that returns has used up a result. -/
theorem left_lt_of_eval_loop {s s' : Memory} {socket : Socket}
    (hsocket : s.heap unixSocket = some socket) (halloc : s.cmptr.isSome) {fuel : Nat}
    {buf : List Byte} {results left : List RecvResult} {p : Ptr}
    (h : (createSocketLoop unixSocket fuel buf (-1)).eval (receiving allocated stack) s
      results = some (p, s', left)) :
    left.length < results.length := by
  induction results generalizing s fuel buf with
  | nil =>
      rw [eval_loop_nil hsocket halloc] at h
      contradiction
  | cons result results ih =>
      cases fuel with
      | zero => simp [createSocketLoop] at h
      | succ fuel =>
          cases hstops : result.stops with
          | true =>
              obtain ⟨p', s'', _, heval⟩ :=
                eval_loop_stops allocated stack hsocket halloc hstops buf
              rw [heval] at h
              simp only [Option.some.injEq, Prod.mk.injEq] at h
              rw [← h.2.2, List.length_cons]
              omega
          | false =>
              rw [eval_loop_skips _ _ hsocket halloc hstops] at h
              have := ih (s := s.storeControl result.reply.data) hsocket
                (storeControl_cmptr halloc _) h
              rw [List.length_cons]
              omega

/-- {lit}`Prompt` for the loop alone. -/
def LoopPrompt (unixSocket : Ptr) (allocated : Option Int) (stack : List Byte) (s : Memory)
    (buf : List Byte) (results : List RecvResult) : Prop :=
  ∀ pre result post, results = pre ++ result :: post → (∀ r ∈ pre, ¬r.Final) → result.Final →
    ∃ fuel p s' left,
      (createSocketLoop unixSocket fuel buf (-1)).eval (receiving allocated stack) s results =
        some (p, s', left) ∧
      post.length ≤ left.length ∧ (left.length = post.length → p = nullptr)

variable (allocated stack) in
/-- The call is prompt if its first result stops it. -/
theorem loopPrompt_of_stops {s : Memory} {socket : Socket}
    (hsocket : s.heap unixSocket = some socket) (halloc : s.cmptr.isSome) {result : RecvResult}
    (hstops : result.stops) (buf : List Byte) (results : List RecvResult) :
    LoopPrompt unixSocket allocated stack s buf (result :: results) := by
  intro pre r post hsplit hpre hfinal
  obtain ⟨p, s', hend, heval⟩ := eval_loop_stops allocated stack hsocket halloc hstops buf
  refine ⟨1, p, s', results, heval 0 results, ?_⟩
  cases pre with
  | nil =>
      obtain ⟨rfl, rfl⟩ := List.cons.inj hsplit
      refine ⟨Nat.le_refl _, fun _ => hend ?_⟩
      exact RecvResult.eq_endOfStream hstops hfinal
  | cons x pre =>
      have hlength := congrArg List.length (List.cons.inj hsplit).2
      simp only [List.append_eq, List.length_append, List.length_cons] at hlength
      omega

variable (allocated stack) in
/-- The call is not prompt if its first result is an error that is passed over: it cannot
return without a further result. -/
theorem not_loopPrompt_of_skips {s : Memory} {socket : Socket}
    (hsocket : s.heap unixSocket = some socket) (halloc : s.cmptr.isSome) {result : RecvResult}
    (hskips : result.stops = false) (hfinal : result.Final) (buf : List Byte)
    (results : List RecvResult) :
    ¬LoopPrompt unixSocket allocated stack s buf (result :: results) := by
  intro h
  obtain ⟨fuel, p, s', left, heval, hleft, _⟩ := h [] result results rfl (by simp) hfinal
  cases fuel with
  | zero => simp [createSocketLoop] at heval
  | succ fuel =>
      rw [eval_loop_skips _ _ hsocket halloc hskips] at heval
      have := left_lt_of_eval_loop (s := s.storeControl result.reply.data) hsocket
        (storeControl_cmptr halloc _) heval
      omega

/-- Any other result that is passed over makes no difference. -/
theorem loopPrompt_cons_iff {s : Memory} {socket : Socket}
    (hsocket : s.heap unixSocket = some socket) (halloc : s.cmptr.isSome) {result : RecvResult}
    (hskips : result.stops = false) (hfinal : ¬result.Final) (buf : List Byte)
    (results : List RecvResult) :
    LoopPrompt unixSocket allocated stack s buf (result :: results) ↔
      LoopPrompt unixSocket allocated stack (s.storeControl result.reply.data)
        (memcpy buf result.reply.bytes) results := by
  have hskip := fun fuel =>
    eval_loop_skips allocated stack hsocket halloc hskips fuel buf results
  constructor
  · intro h pre r post hsplit hpre hr
    obtain ⟨fuel, p, s', left, heval, hleft⟩ := h (result :: pre) r post
      (by rw [hsplit, List.cons_append]) (List.forall_mem_cons.mpr ⟨hfinal, hpre⟩) hr
    cases fuel with
    | zero => simp [createSocketLoop] at heval
    | succ fuel => exact ⟨fuel, p, s', left, (hskip fuel).symm.trans heval, hleft⟩
  · intro h pre r post hsplit hpre hr
    cases pre with
    | nil =>
        obtain ⟨rfl, rfl⟩ := List.cons.inj hsplit
        exact absurd hr hfinal
    | cons x pre =>
        obtain ⟨fuel, p, s', left, heval, hleft⟩ := h pre r post (List.cons.inj hsplit).2
          (List.forall_mem_cons.mp hpre).2 hr
        exact ⟨fuel + 1, p, s', left, (hskip fuel).trans heval, hleft⟩

/-- No error other than {lit}`EINTR` is among the results that are passed over. -/
def NoErrorSkipped (results : List RecvResult) : Prop :=
  ∀ result ∈ results.takeWhile (!·.stops), ¬result.Final

/-- The loop is prompt exactly on the sequences without a skipped error: by induction on the
sequence, with one case for a result that stops the call, one for an error that does not,
and one for any other result. -/
theorem loopPrompt_iff {s : Memory} {socket : Socket}
    (hsocket : s.heap unixSocket = some socket) (halloc : s.cmptr.isSome) (buf : List Byte)
    (results : List RecvResult) :
    LoopPrompt unixSocket allocated stack s buf results ↔ NoErrorSkipped results := by
  induction results generalizing s buf with
  | nil => simp [LoopPrompt, NoErrorSkipped]
  | cons result results ih =>
      cases hstops : result.stops with
      | true =>
          have hprompt :=
            loopPrompt_of_stops allocated stack hsocket halloc hstops buf results
          simp [hprompt, NoErrorSkipped, hstops]
      | false =>
          by_cases hfinal : result.Final
          · have hnot :=
              not_loopPrompt_of_skips allocated stack hsocket halloc hstops hfinal buf results
            simp [hnot, NoErrorSkipped, hstops, hfinal]
          · rw [loopPrompt_cons_iff hsocket halloc hstops hfinal,
              ih (s := s.storeControl result.reply.data) hsocket (storeControl_cmptr halloc _)]
            simp [NoErrorSkipped, hstops, hfinal]

/-! ## The call -/

/-- The array holds what the stack held, and the note at the end changes nothing. -/
theorem eval_createSocket (s : Memory) (fuel : Nat) (results : List RecvResult) :
    (createSocket unixSocket fuel).eval (receiving allocated stack) s results =
      (createSocketLoop unixSocket fuel stack (-1)).eval (receiving allocated stack) s
        results := by
  have hautomatic : receiving allocated stack results (.automatic MAXLINE) =
      some ({ bytes := stack }, results) := by
    cases results <;> rfl
  rw [createSocket, eval_ask_bind hautomatic, eval_bind]
  cases (createSocketLoop unixSocket fuel stack (-1)).eval (receiving allocated stack) s
      results with
  | none => rfl
  | some returned =>
      rcases returned with ⟨p, s', left⟩
      have hnote : ∀ n, receiving allocated stack left (.note n) = some ({}, left) := by
        intro n
        cases left <;> rfl
      simp [note, eval_ask, hnote]

/-- If the control buffer cannot be allocated, nothing is received. -/
theorem eval_loop_unallocated {s : Memory} (hnone : s.cmptr = none) (fuel : Nat)
    (buf : List Byte) (status : Int) (results : List RecvResult) :
    (createSocketLoop unixSocket (fuel + 1) buf status).eval (receiving none stack) s results =
      some (nullptr, s, results) := by
  have hmalloc : receiving none stack results .malloc = some ({}, results) := by
    cases results <;> rfl
  simp [createSocketLoop, allocControl, hnone, eval_ask, hmalloc]

/-- The control buffer is allocated the first time around. -/
theorem eval_loop_allocated {s : Memory} (hnone : s.cmptr = none) (content : Int) (fuel : Nat)
    (buf : List Byte) (status : Int) (results : List RecvResult) :
    (createSocketLoop unixSocket fuel buf status).eval (receiving (some content) stack) s
        results =
      (createSocketLoop unixSocket fuel buf status).eval (receiving (some content) stack)
        { s with cmptr := some content } results := by
  have hmalloc : receiving (some content) stack results .malloc =
      some ({ data := some content }, results) := by
    cases results <;> rfl
  cases fuel with
  | zero => rfl
  | succ fuel => simp [createSocketLoop, allocControl, hnone, eval_ask, hmalloc]

/-- A call without a control buffer returns at once. -/
theorem loopPrompt_unallocated {s : Memory} (hnone : s.cmptr = none) (buf : List Byte)
    (results : List RecvResult) : LoopPrompt unixSocket none stack s buf results := by
  intro pre r post hsplit _ _
  refine ⟨1, nullptr, s, results, eval_loop_unallocated hnone 0 buf (-1) results, ?_⟩
  rw [hsplit, List.length_append, List.length_cons]
  omega

/-- Otherwise the call behaves as if the buffer had been allocated before. -/
theorem loopPrompt_allocated {s : Memory} (hnone : s.cmptr = none) (content : Int)
    (buf : List Byte) (results : List RecvResult) :
    LoopPrompt unixSocket (some content) stack s buf results ↔
      LoopPrompt unixSocket (some content) stack { s with cmptr := some content } buf
        results := by
  simp only [LoopPrompt, eval_loop_allocated hnone]

theorem prompt_iff_loopPrompt (s : Memory) (results : List RecvResult) :
    Prompt unixSocket s allocated stack results ↔
      LoopPrompt unixSocket allocated stack s stack results := by
  simp only [Prompt, LoopPrompt, reaches_scripted_iff, eval_createSocket]

/-- The call returns in time exactly when it cannot allocate its control buffer or no error
other than {lit}`EINTR` comes before the end of the stream and before the first chunk with
a zero byte. -/
theorem prompt_iff {s : Memory} {socket : Socket} (hsocket : s.heap unixSocket = some socket)
    (allocated : Option Int) (stack : List Byte) (results : List RecvResult) :
    Prompt unixSocket s allocated stack results ↔
      (s.cmptr = none ∧ allocated = none) ∨ NoErrorSkipped results := by
  rw [prompt_iff_loopPrompt]
  cases hcmptr : s.cmptr with
  | some content =>
      rw [loopPrompt_iff hsocket (by simp [hcmptr])]
      simp
  | none =>
      cases allocated with
      | none => simp [loopPrompt_unallocated hcmptr]
      | some content =>
          rw [loopPrompt_allocated hcmptr,
            loopPrompt_iff (s := { s with cmptr := some content }) hsocket rfl]
          simp

end Receiving

/-- A memory with a connected UNIX socket, before the first call. -/
def connectedMemory : Memory where
  heap p :=
    if p = 1 then
      some
        { cls := .unixSocket, descriptor := 3, socketType := .UNIX,
          descriptor_ne := natCast_ne_FREE_SOCKET 3 }
    else
      none
  next := 2
  socketsList := SocketsList.empty 0
  outputSocketsList := SocketsList.empty 0
  locals := [1]

/-- An interrupted call, a message, and the error that a later call would see. -/
def interrupted : List RecvResult :=
  [.error EINTR, .chunk ⟨[0, 0], some 5, by decide, by decide⟩, .error 11]

theorem prompt_interrupted : Prompt 1 connectedMemory (some 0) [] interrupted :=
  (prompt_iff rfl (some 0) [] interrupted).mpr
    (Or.inr (by simp [NoErrorSkipped, interrupted, RecvResult.stops, RecvResult.Final]))

/-- {lit}`EAGAIN` of a non-blocking socket does not end the call. -/
theorem again_not_prompt : ¬Prompt 1 connectedMemory (some 0) [] [.error 11] := by
  rw [prompt_iff_loopPrompt, loopPrompt_allocated rfl]
  exact not_loopPrompt_of_skips _ _ (s := { connectedMemory with cmptr := some 0 }) rfl rfl rfl
    (by simp [RecvResult.Final, EINTR]) [] []

end SocketDispatcher
