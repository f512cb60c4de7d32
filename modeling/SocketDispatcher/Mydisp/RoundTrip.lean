import SocketDispatcher.Mydisp.Agreement
import SocketDispatcher.Mydisp.Parsing

/-!
# The round trip of a configuration

Whether the dispatcher reads back the file names that the listener has printed into a
configuration message.  The listener does not escape anything, so a line break in a
name splits it, and what follows is a line of its own.

Main results:

- Theorem {lit}`applyLine_value`: which of the three names a line sets.
- Theorem {lit}`newline_not_mem_value`: a name that has been read never holds a line
  break.
- Theorem {lit}`roundTrip_iff`: the names are read back exactly when none of them holds
  a line break.
-/

namespace SocketDispatcher

open Interaction

namespace Mydisp

/-- The names of a message that can be sent at all: they are C strings, the assertion of
the listener holds, one {lit}`recv` takes the whole message, and its lines fit the line
buffer. -/
structure Transmittable (pid : Int) (names : ApplicationConfig) : Prop where
  caFile : 0 ∉ names.caFile
  certFile : 0 ∉ names.certFile
  keyFile : 0 ∉ names.keyFile
  asserted : (Mylsnr.configText pid names).length < 4096
  received : (configMessage pid names).length ≤ 4096
  lines : ∀ line ∈ terminatedLines (configMessage pid names), line.length ≤ 255

/-! ## The three names -/

/-- A file name of the configuration. -/
inductive FileName where
  | caFile
  | certFile
  | keyFile

namespace FileName

/-- The keyword in front of the name. -/
def keyword : FileName → List Byte
  | .caFile => CAFILE
  | .certFile => CERTFILE
  | .keyFile => KEYFILE

/-- The name in a configuration. -/
def value (cfg : ApplicationConfig) : FileName → List Byte
  | .caFile => cfg.caFile
  | .certFile => cfg.certFile
  | .keyFile => cfg.keyFile

theorem newline_not_mem_keyword (name : FileName) : newline ∉ name.keyword := by
  cases name <;> decide

end FileName

/-- Keywords that start the same line are prefixes of one another. -/
theorem not_start_of_start {keyword other line : List Byte} (h : ¬keyword <+: other)
    (h' : ¬other <+: keyword) (hline : other <+: line) : ¬keyword <+: line := by
  rcases hline with ⟨rest, rfl⟩
  exact ApplicationConfig.not_prefix_append h h' rest

/-- A line sets the name whose keyword it starts with, and no other. -/
theorem applyLine_value (cfg : ApplicationConfig) (line : List Byte) (name : FileName) :
    name.value (cfg.applyLine line) =
      if name.keyword <+: line then cString (line.drop name.keyword.length)
      else name.value cfg := by
  unfold ApplicationConfig.applyLine
  split
  next hpid =>
    rw [if_neg (by cases name <;> exact not_start_of_start (by decide) (by decide) hpid)]
  next =>
    split
    next hca =>
      cases name with
      | caFile => rw [if_pos (show FileName.caFile.keyword <+: line from hca)]; rfl
      | certFile => rw [if_neg (not_start_of_start (by decide) (by decide) hca)]; rfl
      | keyFile => rw [if_neg (not_start_of_start (by decide) (by decide) hca)]; rfl
    next hca =>
      split
      next hcert =>
        cases name with
        | caFile => rw [if_neg (show ¬FileName.caFile.keyword <+: line from hca)]; rfl
        | certFile => rw [if_pos (show FileName.certFile.keyword <+: line from hcert)]; rfl
        | keyFile => rw [if_neg (not_start_of_start (by decide) (by decide) hcert)]; rfl
      next hcert =>
        split
        next hkey =>
          cases name with
          | caFile => rw [if_neg (show ¬FileName.caFile.keyword <+: line from hca)]; rfl
          | certFile => rw [if_neg (show ¬FileName.certFile.keyword <+: line from hcert)]; rfl
          | keyFile => rw [if_pos (show FileName.keyFile.keyword <+: line from hkey)]; rfl
        next hkey => cases name <;> exact (if_neg (by assumption)).symm

/-! ## What has been read holds no line break -/

/-- No line holds a line break. -/
theorem newline_not_mem_completeLines {line buffer : List Byte} (hline : newline ∉ line)
    {l : List Byte} (hl : l ∈ completeLines line buffer) : newline ∉ l := by
  induction buffer generalizing line with
  | nil => simp [completeLines] at hl
  | cons b rest ih =>
      rw [completeLines] at hl
      split at hl
      next hb => exact ih (by simp [hline, Ne.symm hb]) hl
      next =>
        rcases List.mem_cons.mp hl with rfl | hl
        · exact hline
        · exact ih (by simp) hl

/-- A name that is set by some of the lines, or held no line break before, holds none
afterwards. -/
theorem newline_not_mem_value (name : FileName) {lines : List (List Byte)}
    (hlines : ∀ line ∈ lines, newline ∉ line) (cfg : ApplicationConfig)
    (hset : newline ∉ name.value cfg ∨ ∃ line ∈ lines, name.keyword <+: line) :
    newline ∉ name.value (lines.foldl ApplicationConfig.applyLine cfg) := by
  induction lines generalizing cfg with
  | nil => simpa using hset
  | cons line lines ih =>
      rw [List.foldl_cons]
      apply ih (fun l hl => hlines l (List.mem_cons_of_mem line hl))
      rw [applyLine_value]
      by_cases hstart : name.keyword <+: line
      · left
        rw [if_pos hstart]
        exact newline_not_mem_cString fun hmem =>
          hlines line List.mem_cons_self (List.mem_of_mem_drop hmem)
      · rw [if_neg hstart]
        rcases hset with hset | ⟨l, hl, hstart'⟩
        · exact Or.inl hset
        · rcases List.mem_cons.mp hl with rfl | hl
          · exact absurd hstart' hstart
          · exact Or.inr ⟨l, hl, hstart'⟩

/-! ## Every name has its line -/

/-- The lines of a message: the process id, then each name cut at its line breaks. -/
theorem completeLines_configMessage (pid : Int) (names : ApplicationConfig) :
    completeLines [] (configMessage pid names) =
      (CONFIGPID ++ decimal pid) ::
        ((CAFILE ++ cString names.caFile).splitOn newline ++
          ((CERTFILE ++ cString names.certFile).splitOn newline ++
            (KEYFILE ++ cString names.keyFile).splitOn newline)) := by
  have hmessage := configMessage_append pid names []
  rw [List.append_nil] at hmessage
  rw [hmessage, completeLines_line (newline_not_mem_pid pid), completeLines_nil_append,
    completeLines_nil_append, completeLines_nil_append, completeLines, List.append_nil,
    List.nil_append]

/-- In a message every keyword starts a line, whatever the names are. -/
theorem exists_line_configMessage (pid : Int) (names : ApplicationConfig) (name : FileName) :
    ∃ line ∈ completeLines [] (configMessage pid names), name.keyword <+: line := by
  rw [completeLines_configMessage]
  obtain ⟨piece, pieces, hsplit⟩ := splitOn_keyword_append name.newline_not_mem_keyword
    (cString (name.value names))
  refine ⟨name.keyword ++ piece, ?_, List.prefix_append _ _⟩
  have hpiece : name.keyword ++ piece ∈
      (name.keyword ++ cString (name.value names)).splitOn newline := by
    rw [hsplit]
    exact List.mem_cons_self
  cases name with
  | caFile => exact List.mem_cons_of_mem _ (List.mem_append_left _ hpiece)
  | certFile =>
      exact List.mem_cons_of_mem _ (List.mem_append_right _ (List.mem_append_left _ hpiece))
  | keyFile =>
      exact List.mem_cons_of_mem _ (List.mem_append_right _ (List.mem_append_right _ hpiece))

/-- A name that has been read from a message holds no line break. -/
theorem newline_not_mem_read (pid : Int) (names appCfg : ApplicationConfig) (name : FileName) :
    newline ∉ name.value
      ((completeLines [] (configMessage pid names)).foldl ApplicationConfig.applyLine appCfg) :=
  newline_not_mem_value name
    (fun _ hl => newline_not_mem_completeLines (List.not_mem_nil) hl) appCfg
    (Or.inr (exists_line_configMessage pid names name))

/-! ## The round trip -/

/-- However {lit}`processConfig` ends, the configuration is the one that its parsing part
has computed. -/
theorem sat_processConfig (s : Memory) (bufferConfig : List Byte) (bufferSize : Nat) :
    Sat (oblivious : Kernel Unit Call Reply Empty) anyReply (fun _ _ _ => True)
      (processConfig bufferConfig bufferSize)
      (fun s' _ _ => s'.appCfg = (completeLines [] (bufferConfig.take bufferSize)).foldl
        ApplicationConfig.applyLine s.appCfg) s () := by
  rw [processConfig, sat_bind, sat_ask_closed]
  refine ⟨trivial, fun lineBuffer w _ _ => ?_⟩
  rw [sat_bind, sat_modify, configLoop_eq, sat_bind, sat_get, sat_bind]
  generalize hcfg : (completeLines [] (bufferConfig.take bufferSize)).foldl
    ApplicationConfig.applyLine s.appCfg = cfg
  let I := fun s' : Memory => s'.appCfg = cfg
  have hquiet : Quiet (oblivious : Kernel Unit Call Reply Empty) anyReply
      (fun _ _ _ => True) I (fun _ => True) (· = w) :=
    observer_quiet (fun _ _ _ _ => trivial) fun _ _ _ => rfl
  have hcreate : Within I (fun _ => True)
      (createContext cfg.caFile cfg.certFile cfg.keyFile (ascii "1q2w3e4r")) :=
    within_createContext (fun _ _ hI => hI) trivial trivial (fun _ _ => trivial) trivial
  exact (hcreate.sat hquiet rfl rfl).mono fun s' w' error h => h.1

/-- For names that can be sent, every completed run of {lit}`processConfig` on the joined
message, from any earlier configuration, leaves the listener's names exactly when none of
them holds a line break. -/
theorem roundTrip_iff {pid : Int} {names : ApplicationConfig} (h : Transmittable pid names)
    {s s' : Memory} {result : Bool}
    (hrun : Reaches oblivious anyReply
      ⟨s, (), processConfig (configMessage pid names) (configMessage pid names).length⟩
      ⟨s', (), .ret result⟩) :
    s'.appCfg = names ↔
      newline ∉ names.caFile ∧ newline ∉ names.certFile ∧ newline ∉ names.keyFile := by
  have happCfg := (sat_processConfig s _ _).returns (stable_of_isEmpty _) hrun
  rw [List.take_length] at happCfg
  constructor
  · intro hnames
    rw [hnames] at happCfg
    have hread := newline_not_mem_read pid names s.appCfg
    rw [← happCfg] at hread
    exact ⟨hread .caFile, hread .certFile, hread .keyFile⟩
  · rintro ⟨hca, hcert, hkey⟩
    have hread : (completeLines [] (configMessage pid names ++ [])).foldl
        ApplicationConfig.applyLine s.appCfg = names :=
      applyLines_of_newline_not_mem ⟨h.caFile, hca⟩ ⟨h.certFile, hcert⟩ ⟨h.keyFile, hkey⟩
        List.not_mem_nil s.appCfg
    rw [List.append_nil] at hread
    rw [happCfg, hread]

/-- The replies to a {lit}`processConfig` that creates the context. -/
def createdContext : List (Empty ⊕ Reply) :=
  [.inr {}, .inr {}, .inr { ret := 1 }, .inr { ret := 1 }, .inr { ret := 1 },
    .inr { ret := 1 }]

/-- Names that arrive. -/
def shortNames : ApplicationConfig := ⟨ascii "a", ascii "b", ascii "c"⟩

/-- A certificate authority whose file name is "a", a line break and "b". -/
def splitNames : ApplicationConfig := ⟨ascii "a\nb", ascii "b", ascii "c"⟩

theorem transmittable_shortNames : Transmittable 1 shortNames :=
  ⟨by decide, by decide, by decide, by decide, by decide, by decide⟩

theorem transmittable_splitNames : Transmittable 1 splitNames :=
  ⟨by decide, by decide, by decide, by decide, by decide, by decide⟩

/-- The dispatcher is about to process the message with the given names. -/
def processing (names : ApplicationConfig) : Config Memory Unit Call Reply Bool :=
  ⟨started 3, (), processConfig (configMessage 1 names) (configMessage 1 names).length⟩

theorem roundTrip_shortNames :
    ∃ s', Reaches oblivious anyReply (processing shortNames) ⟨s', (), .ret true⟩ ∧
      s'.appCfg = shortNames := by
  have hexec : exec oblivious (processing shortNames) createdContext =
      some ⟨_, (), .ret true⟩ := rfl
  have hrun := reaches_of_exec hexec
  exact ⟨_, hrun, (roundTrip_iff transmittable_shortNames hrun).mpr
    ⟨by decide, by decide, by decide⟩⟩

/-- The part of a name behind a line break is lost. -/
theorem splitNames_lost :
    Transmittable 1 splitNames ∧
      ∃ s', Reaches oblivious anyReply (processing splitNames) ⟨s', (), .ret true⟩ ∧
        s'.appCfg ≠ splitNames := by
  have hexec : exec oblivious (processing splitNames) createdContext =
      some ⟨_, (), .ret true⟩ := rfl
  exact ⟨transmittable_splitNames, _, reaches_of_exec hexec, by decide⟩

end Mydisp

end SocketDispatcher
