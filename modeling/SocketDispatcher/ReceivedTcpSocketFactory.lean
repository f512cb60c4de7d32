import SocketDispatcher.Process

/-!
# Receiving a descriptor

{lit}`ReceivedTcpSocketFactory::createSocket`: read the UNIX socket until a zero
byte and a status byte have arrived, and take the descriptor out of the control
buffer if the status is zero.  The control buffer is static: it is allocated once
and keeps its contents between calls.

Main results:

- Theorem {lit}`scan_of_zero_not_mem`: a chunk without a zero byte decides
  nothing.
- Theorem {lit}`scan_message`: a chunk that ends in a complete message is decoded
  to the status of that message.
- Theorem {lit}`scan_cases`: the three things a chunk can mean.
- Theorem {lit}`sat_createSocketLoop`: the invariant rule of the receiving loop.
-/

namespace SocketDispatcher

open Interaction

def MAXLINE : Nat := 128

/-- What the scan of a chunk has decoded: {lit}`status` is negative as long as no
status byte has been seen. -/
structure Scan where
  status : Int
  newfd : Int
deriving DecidableEq

/-- The scanning loop.  The list is the memory from {lit}`ptr` on, and
{lit}`left` is the distance from {lit}`ptr` to {lit}`&buf[nr]`, which a zero byte
shortens by two.  The status byte is read without a look at the distance. -/
def scanLoop (control : Int) : List Byte → Int → Scan → Scan
  | [], _, sc => sc
  | b :: rest, left, sc =>
      if left ≤ 0 then
        sc
      else if b = 0 then
        let status : Int := (rest.headD 0).toNat
        let newfd := if status = 0 then control else -status
        scanLoop control rest (left - 1 - 2) ⟨status, newfd⟩
      else
        scanLoop control rest (left - 1) sc

/-- Scan a buffer that holds {lit}`nr` received bytes. -/
def scan (control : Int) (buf : List Byte) (nr : Int) (status : Int) : Scan :=
  scanLoop control buf nr ⟨status, 0⟩

/-- Allocate the static control buffer on first use. -/
def allocControl : Proc Bool := do
  let m ← get
  match m.cmptr with
  | some _ => pure true
  | none => do
      let r ← Program.ask .malloc
      match r.data with
      | none => pure false
      | some content => do
          modify fun m => { m with cmptr := some content }
          pure true

/-- {lit}`TcpSocket::TcpSocket` -/
def tcpSocket (newfd : Int) (hpos : 0 < newfd) : Socket where
  cls := .tcpSocket
  descriptor := newfd
  socketType := .TCP
  descriptor_ne := ne_FREE_SOCKET_of_nonneg (Int.le_of_lt hpos)

/-- {lit}`std::make_shared<TcpSocket>(newfd)`, or the empty pointer when the
number is not positive. -/
def makeTcpSocket (newfd : Int) : Proc Ptr :=
  if h : newfd > 0 then
    makeShared (tcpSocket newfd h)
  else
    pure nullptr

/-- An attached descriptor overwrites the control buffer; without one the buffer
keeps what an earlier message has left in it. -/
def Memory.storeControl (m : Memory) (data : Option Int) : Memory :=
  { m with cmptr := data.orElse fun _ => m.cmptr }

/-- The endless loop of {lit}`createSocket`, at most the given number of times
around.  {lit}`buf` and {lit}`status` outlive an iteration. -/
def createSocketLoop (unixSocket : Ptr) : Nat → List Byte → Int → Proc Ptr
  | 0, _, _ => .cut
  | fuel + 1, buf, status => do
      let allocated ← allocControl
      if allocated then do
        let socket ← deref unixSocket
        let r ← Program.ask (.recvmsg socket.descriptor buf MAXLINE)
        if r.ret = 0 then
          pure nullptr -- connection closed by server
        else do
          modify (·.storeControl r.data)
          let m ← get
          let buf := memcpy buf r.bytes
          let sc := scan (m.cmptr.getD 0) buf r.ret status
          if sc.status ≥ 0 then
            makeTcpSocket sc.newfd
          else
            createSocketLoop unixSocket fuel buf sc.status
      else
        pure nullptr

/-- {lit}`ReceivedTcpSocketFactory::createSocket()` -/
def createSocket (unixSocket : Ptr) (fuel : Nat) : Proc Ptr := do
  let buf ← Program.ask (.automatic MAXLINE)
  let p ← createSocketLoop unixSocket fuel buf.bytes (-1)
  let m ← get
  note (.createSocket (if p = nullptr then none else some (m.descriptorOf p)))
  pure p

/-! ## What a scan decodes -/

/-- Bytes other than zero are skipped. -/
theorem scanLoop_skip {control : Int} {pre rest : List Byte} {left : Int} {sc : Scan}
    (hzero : 0 ∉ pre) (hleft : (pre.length : Int) ≤ left) :
    scanLoop control (pre ++ rest) left sc =
      scanLoop control rest (left - pre.length) sc := by
  induction pre generalizing left with
  | nil => simp
  | cons b pre ih =>
      have hb : b ≠ 0 := fun h => hzero (by simp [h])
      have hpre : 0 ∉ pre := fun h => hzero (by simp [h])
      simp only [List.length_cons] at hleft ⊢
      rw [List.cons_append, scanLoop, if_neg (by omega), if_neg hb,
        ih hpre (by omega)]
      congr 1
      omega

theorem scanLoop_done {control : Int} (rest : List Byte) {left : Int} (sc : Scan)
    (hleft : left ≤ 0) : scanLoop control rest left sc = sc := by
  cases rest with
  | nil => rfl
  | cons b rest => rw [scanLoop, if_pos hleft]

/-- A chunk without a zero byte decides nothing. -/
theorem scan_of_zero_not_mem {control status : Int} {bytes stale : List Byte}
    (hzero : 0 ∉ bytes) :
    (scan control (bytes ++ stale) bytes.length status).status = status := by
  rw [scan, scanLoop_skip hzero (Int.le_refl _), scanLoop_done _ _ (by omega)]

/-- Without received bytes nothing is scanned. -/
theorem scan_of_nonpos {control status nr : Int} (hnr : nr ≤ 0) (buf : List Byte) :
    (scan control buf nr status).status = status := by
  rw [scan, scanLoop_done _ _ hnr]

/-- A chunk that ends in a zero byte and a status byte is decoded to that status,
and to the descriptor in the control buffer if the status is zero. -/
theorem scan_message {control status : Int} {pre stale : List Byte} (b : Byte)
    (hzero : 0 ∉ pre) :
    scan control (pre ++ [0, b] ++ stale) (pre ++ [0, b]).length status =
      ⟨b.toNat, if (b.toNat : Int) = 0 then control else -b.toNat⟩ := by
  have hlength : (pre ++ [0, b]).length = pre.length + 2 := List.length_append
  have hleft : ((pre ++ [0, b]).length : Int) - pre.length = 2 := by omega
  rw [scan, List.append_assoc, scanLoop_skip hzero (by omega), hleft]
  rw [List.cons_append, scanLoop, if_neg (by omega), if_pos rfl]
  simp only [List.cons_append, List.nil_append, List.headD_cons]
  rw [scanLoop_done _ _ (by omega)]
  rfl

/-- The status of the message that a chunk ends in: a zero byte and the status byte,
with no zero byte before them. -/
def messageStatus (bytes : List Byte) : Option Byte :=
  match bytes.reverse with
  | status :: 0 :: pre => if 0 ∈ pre then none else some status
  | _ => none

theorem messageStatus_eq_some {bytes : List Byte} {b : Byte}
    (h : messageStatus bytes = some b) : ∃ pre, bytes = pre ++ [0, b] ∧ 0 ∉ pre := by
  unfold messageStatus at h
  split at h
  next status pre hreverse =>
    split at h
    next => contradiction
    next hzero =>
      obtain rfl := Option.some.inj h
      refine ⟨pre.reverse, ?_, by simpa using hzero⟩
      rw [← List.reverse_reverse bytes, hreverse]
      simp
  next => contradiction

/-- A chunk that ends in a message is decoded to the status of that message. -/
theorem scan_messageStatus {control : Int} {bytes : List Byte} {b : Byte}
    (h : messageStatus bytes = some b) (buf : List Byte) (status : Int) :
    scan control (memcpy buf bytes) bytes.length status =
      ⟨b.toNat, if (b.toNat : Int) = 0 then control else -b.toNat⟩ := by
  obtain ⟨pre, rfl, hzero⟩ := messageStatus_eq_some h
  exact scan_message b hzero

/-- A scan either decodes nothing, or a descriptor number for status zero and a
negative number for every other status. -/
theorem scanLoop_cases (control : Int) (bytes : List Byte) (left : Int) (sc : Scan) :
    scanLoop control bytes left sc = sc ∨
      ∃ b : Byte, scanLoop control bytes left sc =
        ⟨b.toNat, if (b.toNat : Int) = 0 then control else -b.toNat⟩ := by
  induction bytes generalizing left sc with
  | nil => exact Or.inl rfl
  | cons b rest ih =>
      rw [scanLoop]
      split
      next => exact Or.inl rfl
      next =>
        split
        next =>
          rcases ih (left - 1 - 2) _ with heq | hdecoded
          · exact Or.inr ⟨rest.headD 0, heq⟩
          · exact Or.inr hdecoded
        next => exact ih (left - 1) sc

/-- What {lit}`createSocket` makes of a scan: without a status byte it goes on, with
status zero it takes the number in the control buffer, with any other status it
fails. -/
theorem scan_cases (control : Int) (buf : List Byte) (nr : Int) :
    scan control buf nr (-1) = ⟨-1, 0⟩ ∨ scan control buf nr (-1) = ⟨0, control⟩ ∨
      ((scan control buf nr (-1)).status > 0 ∧ (scan control buf nr (-1)).newfd < 0) := by
  rcases scanLoop_cases control buf nr ⟨-1, 0⟩ with heq | ⟨b, heq⟩
  · exact Or.inl heq
  · rw [scan, heq]
    by_cases hb : (b.toNat : Int) = 0
    · simp [hb]
    · simp only [hb, if_false]
      right; right
      omega

/-! ## The loop -/

section Specs

variable {W A : Type} {K : Kernel W Call Reply A}
variable {H : Memory → W → Call → Reply → Prop} {G : Memory → W → Call → Prop}

/-- The control buffer is allocated at most once. -/
theorem sat_allocControl {s : Memory} {w : W} {Q : Memory → W → Bool → Prop}
    (hkeep : s.cmptr.isSome → Q s w true)
    (hmalloc : s.cmptr = none → Sat K H G (Program.ask .malloc) (fun s w r =>
      (r.data = none → Q s w false) ∧
        ∀ content, r.data = some content → Q { s with cmptr := some content } w true) s w) :
    Sat K H G allocControl Q s w := by
  rw [allocControl, sat_bind, sat_get]
  split
  next content hcontent => exact hkeep (by simp [hcontent])
  next hnone =>
    rw [sat_bind]
    apply (hmalloc hnone).mono
    intro s w r hr
    split
    next hdata => exact hr.1 hdata
    next content hdata => exact hr.2 content hdata

/-- Invariant rule for the receiving loop.  The invariant {lit}`Inv` holds
whenever no status has been decoded, and {lit}`hreceive` says what one received
chunk does: nothing, or hand over the number in the control buffer, or fail. -/
theorem sat_createSocketLoop {unixSocket : Ptr} {Q : Memory → W → Ptr → Prop}
    (Inv : Memory → W → Prop)
    (hcrash : ∀ s w w₁, Inv s w → s.heap unixSocket = none → K.Acts w w₁ → G s w₁ .crash)
    (halloc : ∀ s w, Inv s w → Sat K H G allocControl (fun s w allocated =>
      if allocated then Inv s w else Q s w nullptr) s w)
    (hreceive : ∀ s w socket buf, Inv s w → s.heap unixSocket = some socket →
      Sat K H G (Program.ask (.recvmsg socket.descriptor buf MAXLINE)) (fun s w r =>
        (r.ret = 0 → Q s w nullptr) ∧
        (r.ret ≠ 0 →
          let s := s.storeControl r.data
          let sc := scan (s.cmptr.getD 0) (memcpy buf r.bytes) r.ret (-1)
          (sc.status < 0 → Inv s w) ∧
          (sc.status = 0 → Sat K H G (makeTcpSocket (s.cmptr.getD 0)) Q s w) ∧
          (sc.status > 0 → Q s w nullptr))) s w)
    {fuel : Nat} {buf : List Byte} {s : Memory} {w : W} (hinit : Inv s w) :
    Sat K H G (createSocketLoop unixSocket fuel buf (-1)) Q s w := by
  induction fuel generalizing s w buf with
  | zero => trivial
  | succ fuel ih =>
      rw [createSocketLoop]
      refine (halloc s w hinit).seq ?_
      intro s w allocated hallocated
      rw [sat_ite]
      split
      next htrue =>
        rw [if_pos htrue] at hallocated
        rw [sat_bind]
        apply sat_deref
        · intro hnone w₁ hacts
          exact hcrash s w w₁ hallocated hnone hacts
        · intro socket hsocket
          refine (hreceive s w socket buf hallocated hsocket).seq ?_
          intro s w r hr
          rw [sat_ite]
          split
          next hzero => exact hr.1 hzero
          next hzero =>
            obtain ⟨hnone, hstatus, hfailed⟩ := hr.2 hzero
            rw [sat_bind, sat_modify, sat_bind, sat_get, sat_ite]
            rcases scan_cases ((s.storeControl r.data).cmptr.getD 0) (memcpy buf r.bytes)
              r.ret with hscan | hscan | ⟨hpos, hneg⟩
            · rw [hscan] at hnone ⊢
              exact ih (hnone (by decide))
            · rw [hscan] at hstatus ⊢
              exact hstatus rfl
            · rw [if_pos (by omega), makeTcpSocket, dif_neg (by omega)]
              exact hfailed hpos
      next hfalse =>
        rw [if_neg hfalse] at hallocated
        exact hallocated

end Specs

end SocketDispatcher
