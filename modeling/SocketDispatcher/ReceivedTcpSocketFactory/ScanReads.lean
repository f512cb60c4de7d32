import Mathlib.Computability.StateTransition
import SocketDispatcher.ReceivedTcpSocketFactory

/-!
# What the scanning loop reads

The loop of {lit}`ReceivedTcpSocketFactory::createSocket` that looks for the zero byte,
one step at a time and with the index of every byte it reads.  The status is read one byte
behind a zero byte, while the bound of the loop is only looked at before the zero byte.

Main results:

- Theorem {lit}`exists_mem_eval_scan`: the loop ends, with what {lit}`scanLoop` computes.
- Theorem {lit}`scanReads_lt_iff`: when every byte that is read has been received.
- Theorem {lit}`scanLoop_congr`: bytes that are not read do not matter.
- Theorem {lit}`scanSafe_iff`: which chunks are scanned safely.
-/

namespace SocketDispatcher

/-- The variables of the scanning loop; {lit}`ptr` is an index into {lit}`buf`, and
{lit}`reads` are the indices of the bytes that have been read. -/
structure ScanState where
  ptr : Nat
  nr : Int
  found : Scan
  reads : List Nat

namespace ScanState

/-- Before the loop. -/
def start (nr : Int) (status : Int) : ScanState :=
  ⟨0, nr, ⟨status, 0⟩, []⟩

/-- Once around the loop, or the end of it. -/
def step (control : Int) (buf : List Byte) (st : ScanState) : Option ScanState :=
  if st.ptr < st.nr then
    if buf.getD st.ptr 0 = 0 then
      let status : Int := (buf.getD (st.ptr + 1) 0).toNat
      let newfd := if status = 0 then control else -status
      some ⟨st.ptr + 1, st.nr - 2, ⟨status, newfd⟩, st.reads ++ [st.ptr, st.ptr + 1]⟩
    else
      some ⟨st.ptr + 1, st.nr, st.found, st.reads ++ [st.ptr]⟩
  else
    none

end ScanState

/-- The indices that {lit}`scanLoop` reads, when its list begins at index {lit}`ptr`. -/
def scanReads : List Byte → Nat → Int → List Nat
  | [], _, _ => []
  | b :: rest, ptr, left =>
      if left ≤ 0 then
        []
      else if b = 0 then
        ptr :: (ptr + 1) :: scanReads rest (ptr + 1) (left - 1 - 2)
      else
        ptr :: scanReads rest (ptr + 1) (left - 1)

/-- The last byte is the first zero byte. -/
def EndsInFirstZero (bytes : List Byte) : Prop :=
  bytes.getLast? = some 0 ∧ 0 ∉ bytes.dropLast

instance (bytes : List Byte) : Decidable (EndsInFirstZero bytes) :=
  inferInstanceAs (Decidable (_ ∧ _))

theorem endsInFirstZero_zero_cons (rest : List Byte) :
    EndsInFirstZero (0 :: rest) ↔ rest = [] := by
  cases rest with
  | nil => simp [EndsInFirstZero]
  | cons b rest => simp [EndsInFirstZero]

theorem endsInFirstZero_cons {b : Byte} (hb : b ≠ 0) (rest : List Byte) :
    EndsInFirstZero (b :: rest) ↔ EndsInFirstZero rest := by
  cases rest with
  | nil => simp [EndsInFirstZero, hb]
  | cons c rest => simp [EndsInFirstZero, hb.symm]

/-! ## The loop ends -/

theorem getD_eq_headD_drop (buf : List Byte) (i : Nat) :
    buf.getD i 0 = (buf.drop i).headD 0 := by
  rw [List.getD_eq_getElem?_getD, List.headD_eq_head?_getD, List.head?_drop]

/-- From any point on, the loop ends with what {lit}`scanLoop` computes and has read what
{lit}`scanReads` lists: by induction on the bytes that are left. -/
theorem exists_mem_eval {control : Int} {buf bytes : List Byte} (st : ScanState) (left : Int)
    (hbytes : buf.drop st.ptr = bytes) (hnr : st.nr = st.ptr + left)
    (hleft : left ≤ bytes.length) :
    ∃ last ∈ StateTransition.eval (ScanState.step control buf) st,
      last.found = scanLoop control bytes left st.found ∧
        last.reads = st.reads ++ scanReads bytes st.ptr left := by
  induction bytes generalizing st left with
  | nil =>
      have hstop : ScanState.step control buf st = none := by
        rw [ScanState.step, if_neg]
        simp only [List.length_nil] at hleft
        omega
      refine ⟨st, StateTransition.mem_eval.mpr ⟨Relation.ReflTransGen.refl, hstop⟩, rfl, ?_⟩
      simp [scanReads]
  | cons b rest ih =>
      have hb : buf.getD st.ptr 0 = b := by rw [getD_eq_headD_drop, hbytes, List.headD_cons]
      have hrest : buf.drop (st.ptr + 1) = rest := by
        rw [← List.drop_drop, hbytes, List.drop_one, List.tail_cons]
      have hstatus : buf.getD (st.ptr + 1) 0 = rest.headD 0 := by
        rw [getD_eq_headD_drop, hrest]
      simp only [List.length_cons] at hleft
      rw [scanLoop, scanReads]
      by_cases hdone : left ≤ 0
      · have hstop : ScanState.step control buf st = none := by
          rw [ScanState.step, if_neg]
          omega
        refine ⟨st, StateTransition.mem_eval.mpr ⟨Relation.ReflTransGen.refl, hstop⟩, ?_⟩
        simp [hdone]
      · rw [if_neg hdone, if_neg hdone]
        have hcontinue : (st.ptr : Int) < st.nr := by omega
        -- one step, and then the rest of the loop
        have hnext : ∀ {st'}, ScanState.step control buf st = some st' →
            StateTransition.eval (ScanState.step control buf) st =
              StateTransition.eval (ScanState.step control buf) st' :=
          fun h => StateTransition.reaches_eval (Relation.ReflTransGen.single h)
        by_cases hzero : b = 0
        · have hstep := hnext (by rw [ScanState.step, if_pos hcontinue, hb, if_pos hzero])
          rw [if_pos hzero, if_pos hzero, hstep, hstatus]
          obtain ⟨last, hlast, hfound, hreads⟩ :=
            ih ⟨st.ptr + 1, st.nr - 2, _, _⟩ (left - 1 - 2) hrest (by dsimp only; omega)
              (by omega)
          exact ⟨last, hlast, hfound, by rw [hreads]; simp⟩
        · have hstep := hnext (by rw [ScanState.step, if_pos hcontinue, hb, if_neg hzero])
          rw [if_neg hzero, if_neg hzero, hstep]
          obtain ⟨last, hlast, hfound, hreads⟩ :=
            ih ⟨st.ptr + 1, st.nr, _, _⟩ (left - 1) hrest (by dsimp only; omega) (by omega)
          exact ⟨last, hlast, hfound, by rw [hreads]; simp⟩

/-- The loop over a buffer ends with what {lit}`scan` computes. -/
theorem exists_mem_eval_scan (control : Int) {buf : List Byte} {n : Nat} (hn : n ≤ buf.length)
    (status : Int) :
    ∃ last ∈ StateTransition.eval (ScanState.step control buf) (.start n status),
      last.found = scan control buf n status ∧ last.reads = scanReads buf 0 n :=
  exists_mem_eval (.start n status) n List.drop_zero (by simp [ScanState.start])
    (by exact_mod_cast hn)

/-! ## Reads within the received bytes -/

/-- A read goes at most one byte beyond the bound of the loop. -/
theorem scanReads_le {bytes : List Byte} {ptr : Nat} {left : Int} :
    ∀ i ∈ scanReads bytes ptr left, (i : Int) ≤ ptr + left := by
  induction bytes generalizing ptr left with
  | nil => simp [scanReads]
  | cons b rest ih =>
      intro i hi
      rw [scanReads] at hi
      split at hi
      next => simp at hi
      next hleft =>
        split at hi
        next =>
          simp only [List.mem_cons] at hi
          rcases hi with rfl | rfl | hi
          · omega
          · omega
          · have := ih i hi
            omega
        next =>
          simp only [List.mem_cons] at hi
          rcases hi with rfl | hi
          · omega
          · have := ih i hi
            omega

/-- Every byte that is read has been received exactly when the received bytes do not end
in the first zero byte among them. -/
theorem scanReads_lt_iff {bytes : List Byte} (ptr : Nat) {n : Nat} (hn : n ≤ bytes.length) :
    (∀ i ∈ scanReads bytes ptr n, i < ptr + n) ↔
      ¬EndsInFirstZero (bytes.take n) := by
  induction bytes generalizing ptr n with
  | nil => simp [scanReads, EndsInFirstZero]
  | cons b rest ih =>
      cases n with
      | zero => simp [scanReads, EndsInFirstZero]
      | succ n =>
          simp only [List.length_cons, Nat.add_le_add_iff_right] at hn
          have hpositive : ¬((n + 1 : Nat) : Int) ≤ 0 := by omega
          rw [scanReads, if_neg hpositive, List.take_succ_cons]
          by_cases hzero : b = 0
          · subst hzero
            have hrest : rest.take n = [] ↔ n = 0 := by
              rw [← List.length_eq_zero_iff, List.length_take, Nat.min_eq_left hn]
            rw [if_pos rfl, endsInFirstZero_zero_cons, hrest]
            constructor
            · intro hreads
              have := hreads (ptr + 1) (by simp)
              omega
            · intro hn i hi
              simp only [List.mem_cons] at hi
              rcases hi with rfl | rfl | hi
              · omega
              · omega
              · have := scanReads_le i hi
                omega
          · have hleft : ((n + 1 : Nat) : Int) - 1 = n := by omega
            rw [if_neg hzero, endsInFirstZero_cons hzero, ← ih (ptr + 1) hn, hleft,
              List.forall_mem_cons]
            constructor
            · rintro ⟨_, hrest⟩ i hi
              have := hrest i hi
              omega
            · intro hrest
              refine ⟨by omega, fun i hi => ?_⟩
              have := hrest i hi
              omega

/-! ## Bytes that are not read -/

/-- Two buffers that agree on everything that is read are scanned alike. -/
theorem scanLoop_congr {control : Int} {bytes bytes' : List Byte} (ptr : Nat) {k : Nat}
    {left : Int} {found : Scan} (hleft : left ≤ bytes.length) (htake : bytes.take k = bytes'.take k)
    (hreads : ∀ i ∈ scanReads bytes ptr left, i < ptr + k) :
    scanLoop control bytes left found = scanLoop control bytes' left found := by
  induction bytes generalizing bytes' ptr k left found with
  | nil =>
      rw [scanLoop_done _ _ (by simpa using hleft), scanLoop_done _ _ (by simpa using hleft)]
  | cons b rest ih =>
      by_cases hdone : left ≤ 0
      · rw [scanLoop_done _ _ hdone, scanLoop_done _ _ hdone]
      · simp only [List.length_cons] at hleft
        rw [scanReads, if_neg hdone] at hreads
        have hptr : ptr < ptr + k := by
          apply hreads
          split <;> simp
        obtain ⟨k, rfl⟩ : ∃ j, k = j + 1 := ⟨k - 1, by omega⟩
        cases bytes' with
        | nil => simp at htake
        | cons b' rest' =>
            simp only [List.take_succ_cons, List.cons.injEq] at htake
            obtain ⟨rfl, htake⟩ := htake
            rw [scanLoop, scanLoop, if_neg hdone, if_neg hdone]
            by_cases hzero : b = 0
            · rw [if_pos hzero] at hreads
              -- the byte behind the zero byte is read, so the buffers agree on it
              have hnext : ptr + 1 < ptr + (k + 1) := hreads (ptr + 1) (by simp)
              have hstatus : rest.headD 0 = rest'.headD 0 := by
                have hhead := congrArg (·.head?) htake
                simp only [List.head?_take, if_neg (by omega : k ≠ 0)] at hhead
                rw [List.headD_eq_head?_getD, List.headD_eq_head?_getD, hhead]
              rw [if_pos hzero, if_pos hzero, hstatus]
              apply ih (ptr + 1) (by omega) htake
              intro i hi
              have := hreads i (by simp [hi])
              omega
            · rw [if_neg hzero] at hreads
              rw [if_neg hzero, if_neg hzero]
              apply ih (ptr + 1) (by omega) htake
              intro i hi
              have := hreads i (by simp [hi])
              omega

/-! ## Safety of the scan -/

/-- The loop over {lit}`n` received bytes ends, reads no byte that was not received, and
comes to the same status whatever else the buffer holds. -/
def ScanSafe (control : Int) (buf : List Byte) (n : Nat) (status : Int) : Prop :=
  ∃ last ∈ StateTransition.eval (ScanState.step control buf) (.start n status),
    (∀ i ∈ last.reads, i < n) ∧
      ∀ buf' : List Byte, buf'.length = MAXLINE → buf'.take n = buf.take n →
        ∀ last' ∈ StateTransition.eval (ScanState.step control buf') (.start n status),
          last'.found.status = last.found.status

/-- A safe scan reads received bytes only. -/
theorem ScanSafe.reads_lt {control status : Int} {buf : List Byte} {n : Nat}
    (h : ScanSafe control buf n status) (hn : n ≤ buf.length) :
    ∀ i ∈ scanReads buf 0 n, i < n := by
  obtain ⟨last, hlast, hsafe, _⟩ := h
  obtain ⟨last', hlast', _, hreads⟩ := exists_mem_eval_scan control hn status
  rw [Part.mem_unique hlast hlast', hreads] at hsafe
  exact hsafe

/-- A chunk is scanned safely exactly when its first zero byte is not its last byte. -/
theorem scanSafe_iff {buf : List Byte} {n : Nat} (hbuf : buf.length = MAXLINE)
    (hn : n ≤ MAXLINE) (control status : Int) :
    ScanSafe control buf n status ↔ ¬EndsInFirstZero (buf.take n) := by
  have hlength : n ≤ buf.length := by omega
  have hreads := scanReads_lt_iff 0 hlength
  rw [Nat.zero_add] at hreads
  rw [← hreads]
  constructor
  · intro h
    exact h.reads_lt hlength
  · intro hsafe
    obtain ⟨last, hlast, hfound, hlastReads⟩ := exists_mem_eval_scan control hlength status
    refine ⟨last, hlast, hlastReads ▸ hsafe, ?_⟩
    intro buf' hbuf' htake last' hlast'
    obtain ⟨last'', hlast'', hfound'', _⟩ :=
      exists_mem_eval_scan control (n := n) (by omega : n ≤ buf'.length) status
    rw [Part.mem_unique hlast' hlast'', hfound, hfound'', scan, scan,
      scanLoop_congr 0 (by exact_mod_cast hlength) htake.symm (by simpa using hsafe)]

/-- The two bytes of a message. -/
theorem scanSafe_message : ScanSafe 5 ([0, 7] ++ List.replicate 126 1) 2 (-1) :=
  (scanSafe_iff (by simp [MAXLINE]) (by decide) 5 (-1)).mpr (by decide)

/-- After a single zero byte the status is read from a byte that was not received. -/
theorem single_zero_unsafe : ¬ScanSafe 5 ([0, 7] ++ List.replicate 126 1) 1 (-1) := by
  intro h
  have hreads := h.reads_lt (by simp) 1 (by decide)
  omega

end SocketDispatcher
