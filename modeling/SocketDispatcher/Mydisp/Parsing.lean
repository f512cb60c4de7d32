import SocketDispatcher.Mydisp

/-!
# What the configuration parser computes

The reference reading of a configuration buffer: split it at the line breaks,
ignore what follows the last of them, cut each line at its first zero byte, and
let each line that starts with the keyword of a file name set that name.  The
parsing loop of {lit}`processConfig` walks through the buffer with two cursors
and one line buffer instead, and compares keywords beyond the end of short lines.

Main results:

- Theorem {lit}`completeLines_eq_splitOn`: the lines that the loop finds are the
  terminated pieces between the line breaks.
- Theorem {lit}`applyLine_eq_setOption`: on one line the keyword tests of
  {lit}`retrieveConfigOption` come to the reference.
- Theorem {lit}`lineBufferWrites_lt_iff`: the loop stays inside the line buffer
  exactly when every terminated line has at most 255 bytes.
- Theorem {lit}`processConfig_parses`: when {lit}`processConfig` is about to
  create the context, the configuration is the one of the reference and nothing
  else has changed, whatever the line buffer held before.
-/

namespace SocketDispatcher

open Interaction

namespace Mydisp

/-! ## The reference -/

/-- What one line means, already cut at its first zero byte. -/
def setOption (cfg : ApplicationConfig) (line : List Byte) : ApplicationConfig :=
  if CAFILE <+: line then
    { cfg with caFile := line.drop CAFILE.length }
  else if CERTFILE <+: line then
    { cfg with certFile := line.drop CERTFILE.length }
  else if KEYFILE <+: line then
    { cfg with keyFile := line.drop KEYFILE.length }
  else
    cfg

/-- The lines of a buffer that end in a line break. -/
def terminatedLines (buffer : List Byte) : List (List Byte) :=
  (buffer.splitOn newline).dropLast

/-- The configuration that a buffer describes, on top of an earlier one. -/
def parseConfig (buffer : List Byte) (cfg : ApplicationConfig) : ApplicationConfig :=
  ((terminatedLines buffer).map cString).foldl setOption cfg

/-! ## Lines -/

/-- The loop finds the terminated lines; an unfinished line in front of the buffer
belongs to the first of them. -/
theorem completeLines_eq_modifyHead (line buffer : List Byte) :
    completeLines line buffer =
      ((buffer.splitOn newline).modifyHead (line ++ ·)).dropLast := by
  induction buffer generalizing line with
  | nil => simp [completeLines, List.splitOn]
  | cons b rest ih =>
      rw [completeLines, List.splitOn, List.splitOnP_cons_eq_if_modifyHead]
      have hne : rest.splitOn newline ≠ [] := List.splitOnP_ne_nil _ rest
      rcases hsplit : rest.splitOn newline with _ | ⟨piece, pieces⟩
      · exact absurd hsplit hne
      · rw [List.splitOn] at hsplit
        by_cases hb : b = newline
        · simp [hb, ih, List.splitOn, hsplit]
        · simp [hb, ih, List.splitOn, hsplit]

/-- The lines of a text, its line break and the rest. -/
theorem completeLines_append (line text rest : List Byte) :
    completeLines line (text ++ newline :: rest) =
      (text.splitOn newline).modifyHead (line ++ ·) ++ completeLines [] rest := by
  induction text generalizing line with
  | nil => simp [completeLines, List.splitOn]
  | cons b text ih =>
      rw [List.cons_append, completeLines, List.splitOn,
        List.splitOnP_cons_eq_if_modifyHead]
      have hne : text.splitOn newline ≠ [] := List.splitOnP_ne_nil _ text
      rcases hsplit : text.splitOn newline with _ | ⟨piece, pieces⟩
      · exact absurd hsplit hne
      · rw [List.splitOn] at hsplit
        by_cases hb : b = newline
        · simp [hb, ih, List.splitOn, hsplit]
        · simp [hb, ih, List.splitOn, hsplit]

theorem completeLines_nil_append (text rest : List Byte) :
    completeLines [] (text ++ newline :: rest) =
      text.splitOn newline ++ completeLines [] rest := by
  rw [completeLines_append]
  cases text.splitOn newline <;> rfl

/-- A keyword without a line break stays in front of the first piece. -/
theorem splitOn_keyword_append {keyword : List Byte} (hkeyword : newline ∉ keyword)
    (value : List Byte) :
    ∃ piece pieces, (keyword ++ value).splitOn newline = (keyword ++ piece) :: pieces := by
  induction keyword with
  | nil =>
      obtain ⟨piece, pieces, hsplit⟩ :=
        List.exists_cons_of_ne_nil (List.splitOnP_ne_nil (· == newline) value)
      exact ⟨piece, pieces, hsplit⟩
  | cons b keyword ih =>
      simp only [List.mem_cons, not_or] at hkeyword
      obtain ⟨piece, pieces, hsplit⟩ := ih hkeyword.2
      refine ⟨piece, pieces, ?_⟩
      rw [List.splitOn] at hsplit ⊢
      rw [List.cons_append, List.splitOnP_cons_eq_if_modifyHead, hsplit]
      simp [Ne.symm hkeyword.1]

theorem completeLines_eq_splitOn (buffer : List Byte) :
    completeLines [] buffer = terminatedLines buffer := by
  rw [completeLines_eq_modifyHead, terminatedLines]
  cases buffer.splitOn newline <;> simp

/-! ## One line -/

/-- A keyword without a zero byte lies in front of the first zero byte of the line. -/
theorem prefix_cString {keyword : List Byte} (hzero : 0 ∉ keyword) (line : List Byte) :
    keyword <+: cString line ↔ keyword <+: line := by
  constructor
  · intro hstart
    exact hstart.trans (List.takeWhile_prefix _)
  · rintro ⟨value, rfl⟩
    have hkeyword : ∀ b ∈ keyword, (b ≠ 0 : Bool) = true := by
      intro b hb
      simpa using fun h : b = 0 => hzero (h ▸ hb)
    rw [cString, List.takeWhile_append_of_pos hkeyword]
    exact List.prefix_append keyword _

/-- Behind a keyword, cutting the line first or cutting the value comes to the same. -/
theorem drop_cString {keyword line : List Byte} (hzero : 0 ∉ keyword)
    (hstart : keyword <+: line) :
    (cString line).drop keyword.length = cString (line.drop keyword.length) := by
  rcases hstart with ⟨value, rfl⟩
  have hkeyword : ∀ b ∈ keyword, (b ≠ 0 : Bool) = true := by
    intro b hb
    simpa using fun h : b = 0 => hzero (h ▸ hb)
  rw [List.drop_left, cString, List.takeWhile_append_of_pos hkeyword, List.drop_left]
  rfl

/-- The keyword tests of {lit}`retrieveConfigOption` come to the reference.  The
process id needs no case: no other keyword starts its line. -/
theorem applyLine_eq_setOption (cfg : ApplicationConfig) (line : List Byte) :
    cfg.applyLine line = setOption cfg (cString line) := by
  have hca := prefix_cString (show 0 ∉ CAFILE by decide) line
  have hcert := prefix_cString (show 0 ∉ CERTFILE by decide) line
  have hkey := prefix_cString (show 0 ∉ KEYFILE by decide) line
  unfold ApplicationConfig.applyLine setOption
  simp only [hca, hcert, hkey]
  split
  next hpid =>
    rcases hpid with ⟨value, rfl⟩
    rw [if_neg (ApplicationConfig.not_prefix_append (by decide) (by decide) _),
      if_neg (ApplicationConfig.not_prefix_append (by decide) (by decide) _),
      if_neg (ApplicationConfig.not_prefix_append (by decide) (by decide) _)]
  next =>
    split
    next hstart => rw [drop_cString (by decide) hstart]; rfl
    next =>
      split
      next hstart => rw [drop_cString (by decide) hstart]; rfl
      next =>
        split
        next hstart => rw [drop_cString (by decide) hstart]; rfl
        next => rfl

/-! ## The parsing loop -/

/-- The parsing loop computes the reference, whatever the line buffer holds. -/
theorem configLoop_eq_parseConfig (buffer lineBuffer : List Byte) (cfg : ApplicationConfig) :
    configLoop buffer [] lineBuffer cfg = parseConfig buffer cfg := by
  rw [configLoop_eq, completeLines_eq_splitOn, parseConfig, List.foldl_map]
  congr 1
  funext cfg line
  exact applyLine_eq_setOption cfg line

/-! ## Writes to the line buffer -/

/-- The parsing loop together with the indices of the line buffer that it writes, the
one of the terminating zero included. -/
def tracedConfigLoop :
    List Byte → List Byte → List Byte → ApplicationConfig → ApplicationConfig × List Nat
  | [], _, _, appCfg => (appCfg, [])
  | b :: rest, line, lineBuffer, appCfg =>
      if b ≠ newline then
        tracedConfigLoop rest (line ++ [b]) lineBuffer appCfg
      else
        let lineBuffer := memcpy lineBuffer (line ++ [0])
        let traced := tracedConfigLoop rest [] lineBuffer
          (appCfg.retrieveConfigOption lineBuffer)
        (traced.1, List.range (line ++ [0]).length ++ traced.2)

/-- The indices of the line buffer that the parsing of a buffer writes. -/
def lineBufferWrites (buffer lineBuffer : List Byte) (appCfg : ApplicationConfig) : List Nat :=
  (tracedConfigLoop buffer [] lineBuffer appCfg).2

/-- Without the indices it is the parsing loop. -/
theorem tracedConfigLoop_fst (buffer line lineBuffer : List Byte)
    (appCfg : ApplicationConfig) :
    (tracedConfigLoop buffer line lineBuffer appCfg).1 =
      configLoop buffer line lineBuffer appCfg := by
  induction buffer generalizing line lineBuffer appCfg with
  | nil => rfl
  | cons b rest ih =>
      rw [tracedConfigLoop, configLoop]
      split
      · exact ih _ _ _
      · exact ih _ _ _

/-- Each line is written from the front of the line buffer. -/
theorem tracedConfigLoop_snd (buffer line lineBuffer : List Byte)
    (appCfg : ApplicationConfig) :
    (tracedConfigLoop buffer line lineBuffer appCfg).2 =
      (completeLines line buffer).flatMap fun line => List.range (line.length + 1) := by
  induction buffer generalizing line lineBuffer appCfg with
  | nil => rfl
  | cons b rest ih =>
      rw [tracedConfigLoop, completeLines]
      split
      · exact ih _ _ _
      · simp [ih]

/-- The loop stays inside the line buffer exactly when every terminated line leaves room
for its terminator. -/
theorem lineBufferWrites_lt_iff (buffer lineBuffer : List Byte) (appCfg : ApplicationConfig) :
    (∀ i ∈ lineBufferWrites buffer lineBuffer appCfg, i < 256) ↔
      ∀ line ∈ terminatedLines buffer, line.length ≤ 255 := by
  rw [lineBufferWrites, tracedConfigLoop_snd, completeLines_eq_splitOn]
  simp only [List.mem_flatMap, List.mem_range]
  constructor
  · intro h line hline
    have hlast := h line.length ⟨line, hline, by omega⟩
    omega
  · rintro h i ⟨line, hline, hi⟩
    have hlength := h line hline
    omega

/-! ## The parsing part -/

/-- A buffer whose terminated lines have at most 255 bytes is parsed inside the line
buffer, whatever that held before.  When {lit}`processConfig` is about to create the
context, it has only changed the configuration, as the reference says. -/
theorem processConfig_parses (s : Memory) (bufferConfig : List Byte) (bufferSize : Nat)
    (hlines : ∀ line ∈ terminatedLines (bufferConfig.take bufferSize), line.length ≤ 255)
    (lineBuffer : Reply) :
    (∀ i ∈ lineBufferWrites (bufferConfig.take bufferSize) lineBuffer.bytes s.appCfg,
      i < 256) ∧
    ∃ k, exec oblivious ⟨s, (), processConfig bufferConfig bufferSize⟩ [.inr lineBuffer] =
      let appCfg := parseConfig (bufferConfig.take bufferSize) s.appCfg
      some ⟨{ s with appCfg := appCfg }, (),
        .call (.note (.createContext appCfg.caFile appCfg.certFile appCfg.keyFile)) k⟩ := by
  constructor
  · exact (lineBufferWrites_lt_iff _ _ _).mpr hlines
  · rw [← configLoop_eq_parseConfig (bufferConfig.take bufferSize) lineBuffer.bytes]
    exact ⟨_, rfl⟩

/-- A short line after a longer one, and an unterminated tail. -/
theorem processConfig_parses_two_lines :
    ∃ k, exec oblivious ⟨started 3, (), processConfig (ascii "CAFILE=abc\nKEY\nCERTFILE=") 24⟩
        [.inr { bytes := ascii "KEYFILE=" }] =
      some ⟨{ started 3 with appCfg := { caFile := ascii "abc" } }, (),
        .call (.note (.createContext (ascii "abc") [] [])) k⟩ :=
  (processConfig_parses (started 3) (ascii "CAFILE=abc\nKEY\nCERTFILE=") 24 (by decide)
    { bytes := ascii "KEYFILE=" }).2

end Mydisp

end SocketDispatcher
