import Mathlib.Data.Nat.Digits.Defs
import SocketDispatcher.Mydisp.RoundTrip

/-!
# The buffers of a configuration

Three sizes meet in a configuration: the listener prints the text into a buffer of
4096 bytes, the dispatcher receives label and text into another buffer of 4096 bytes,
and it copies every line into one of 256 bytes.  They were chosen independently.

Main results:

- Theorem {lit}`length_configText`: how long the text is.
- Theorem {lit}`lines_configMessage_iff`: when every line of a message leaves room for
  its terminator.
- Theorem {lit}`buffersAgree_iff`: the file names for which all three buffers are large
  enough.
-/

namespace SocketDispatcher

namespace Mydisp

/-- The text fits the buffer of the listener, label and text fit the one {lit}`recv` of
the dispatcher, and what has been received is parsed inside the line buffer. -/
structure BuffersAgree (pid : BitVec 32) (names : ApplicationConfig) : Prop where
  asserted : (Mylsnr.configText pid.toInt names).length < 4096
  received : (configMessage pid.toInt names).length ≤ 4096
  written : ∀ lineBuffer appCfg,
    ∀ i ∈ lineBufferWrites ((configMessage pid.toInt names).take 4096) lineBuffer appCfg, i < 256

/-- A name fits the line buffer behind its keyword: no stretch between line breaks takes
more than 255 bytes. -/
def FitsLine (keyword name : List Byte) : Prop :=
  ∀ line ∈ (keyword ++ name).splitOn newline, line.length ≤ 255

/-! ## Lengths -/

/-- A 32-bit process id takes at most eleven characters. -/
theorem length_decimal_le (pid : BitVec 32) : (decimal pid.toInt).length ≤ 11 := by
  have hdigits : (Nat.toDigits 10 pid.toInt.natAbs).length ≤ 10 := by
    apply Nat.toDigits_length 10 _ 10 (by decide)
    have hlow := pid.le_toInt
    have hhigh := pid.toInt_lt
    omega
  have hsign : (if pid.toInt < 0 then ascii "-" else []).length ≤ 1 := by
    split <;> decide
  rw [decimal, List.length_append, List.length_map]
  omega

/-- The text consists of 33 fixed bytes, the process id and the names. -/
theorem length_configText (pid : Int) (names : ApplicationConfig) :
    (Mylsnr.configText pid names).length =
      33 + (decimal pid).length + (cString names.caFile).length +
        (cString names.certFile).length + (cString names.keyFile).length := by
  have hppid : (ascii "PPID=").length = 5 := by decide
  have hline : (ascii "\n").length = 1 := by decide
  have hca : (ascii "CAFILE=").length = 7 := by decide
  have hcert : (ascii "CERTFILE=").length = 9 := by decide
  have hkey : (ascii "KEYFILE=").length = 8 := by decide
  simp only [Mylsnr.configText, List.length_append, hppid, hline, hca, hcert, hkey]
  omega

/-- The label adds six bytes. -/
theorem length_configMessage (pid : Int) (names : ApplicationConfig) :
    (configMessage pid names).length = 6 + (Mylsnr.configText pid names).length := by
  have hlabel : Mylsnr.configLabel.length = 6 := by decide
  rw [configMessage, List.length_append, hlabel]

/-- Every line of a message leaves room for its terminator exactly when the three names
fit; the line of the process id always does. -/
theorem lines_configMessage_iff (pid : BitVec 32) (names : ApplicationConfig) :
    (∀ line ∈ terminatedLines (configMessage pid.toInt names), line.length ≤ 255) ↔
      FitsLine CAFILE (cString names.caFile) ∧ FitsLine CERTFILE (cString names.certFile) ∧
        FitsLine KEYFILE (cString names.keyFile) := by
  have hpid : (CONFIGPID ++ decimal pid.toInt).length ≤ 255 := by
    have hkeyword : CONFIGPID.length = 11 := by decide
    have hdecimal := length_decimal_le pid
    rw [List.length_append]
    omega
  rw [← completeLines_eq_splitOn, completeLines_configMessage]
  simp only [List.forall_mem_cons, List.forall_mem_append, hpid, true_and]
  rfl

/-! ## Agreement of the sizes -/

/-- The three buffers are large enough for three file names exactly when label and text
take at most 4096 bytes and every name fits the line buffer. -/
theorem buffersAgree_iff (pid : BitVec 32) {names : ApplicationConfig}
    (hca : 0 ∉ names.caFile) (hcert : 0 ∉ names.certFile) (hkey : 0 ∉ names.keyFile) :
    BuffersAgree pid names ↔
      (decimal pid.toInt).length + names.caFile.length + names.certFile.length +
          names.keyFile.length ≤ 4057 ∧
        FitsLine CAFILE names.caFile ∧ FitsLine CERTFILE names.certFile ∧
          FitsLine KEYFILE names.keyFile := by
  have htext := length_configText pid.toInt names
  have hmessage := length_configMessage pid.toInt names
  have hlines := lines_configMessage_iff pid names
  rw [cString_of_zero_not_mem hca, cString_of_zero_not_mem hcert,
    cString_of_zero_not_mem hkey] at htext hlines
  constructor
  · rintro ⟨_, hreceived, hwritten⟩
    have hwhole : (configMessage pid.toInt names).take 4096 = configMessage pid.toInt names :=
      List.take_of_length_le hreceived
    have hsafe := hwritten [] {}
    rw [hwhole, lineBufferWrites_lt_iff] at hsafe
    exact ⟨by omega, hlines.mp hsafe⟩
  · rintro ⟨hlength, hnames⟩
    refine ⟨by omega, by omega, ?_⟩
    intro lineBuffer appCfg
    rw [lineBufferWrites_lt_iff, List.take_of_length_le (by omega)]
    exact hlines.mpr hnames

/-- The names that the listener falls back on fit. -/
theorem buffersAgree_defaultSettings : BuffersAgree 1 Mylsnr.defaultSettings :=
  (buffersAgree_iff 1 (by decide) (by decide) (by decide)).mpr
    ⟨by decide, by unfold FitsLine; decide, by unfold FitsLine; decide,
      by unfold FitsLine; decide⟩

/-- A certificate authority with a path of 300 bytes. -/
def longNames : ApplicationConfig := ⟨List.replicate 300 97, ascii "b", ascii "c"⟩

/-- The path of 300 bytes is copied beyond the end of the line buffer. -/
theorem longNames_overflow : ¬BuffersAgree 1 longNames := by
  intro h
  have hsafe := h.written [] {}
  rw [List.take_of_length_le h.received, lineBufferWrites_lt_iff,
    lines_configMessage_iff] at hsafe
  have hzero : cString longNames.caFile = List.replicate 300 97 :=
    cString_of_zero_not_mem fun h => absurd (List.eq_of_mem_replicate h) (by decide)
  have hbreak : newline ∉ CAFILE ++ List.replicate 300 97 := by
    rw [List.mem_append, not_or]
    exact ⟨by decide, fun h => absurd (List.eq_of_mem_replicate h) (by decide)⟩
  have hpiece : (CAFILE ++ List.replicate 300 97).splitOn newline =
      [CAFILE ++ List.replicate 300 97] :=
    List.splitOnP_eq_singleton fun b hb => by
      simpa using fun h : b = newline => hbreak (h ▸ hb)
  have hlength := hsafe.1 (CAFILE ++ List.replicate 300 97)
    (by rw [hzero, hpiece]; exact List.mem_singleton_self _)
  have hkeyword : CAFILE.length = 7 := by decide
  rw [List.length_append, List.length_replicate] at hlength
  omega

end Mydisp

end SocketDispatcher
