import SocketDispatcher.Mydisp.Link

/-!
# Agreement on the configuration

Whether the dispatcher creates its OpenSSL context with the file names of the
listener.  The listener sends one configuration in two writes, and the dispatcher
receives it with one {lit}`recv` and no way to tell whether it is complete.

Main results:

- Theorem {lit}`applyLines_message`: a dispatcher that reads the whole message holds
  the listener's file names.
- Theorem {lit}`agrees_of_complete`: as long as the first {lit}`recv` of a
  configuration returns the label and the whole text, every context is created with
  the listener's file names.
- Theorem {lit}`label_only`: a dispatcher that wakes up between the two writes creates
  a context without file names.
-/

namespace SocketDispatcher

open Interaction SegmentedStream

namespace Mydisp

/-- File names that a configuration message can carry: they hold no terminator and no
line break, and their lines fit the line buffer of the dispatcher. -/
structure Carriable (names : ApplicationConfig) : Prop where
  caFile : 0 ∉ names.caFile ∧ newline ∉ names.caFile
  certFile : 0 ∉ names.certFile ∧ newline ∉ names.certFile
  keyFile : 0 ∉ names.keyFile ∧ newline ∉ names.keyFile
  fits : (CAFILE ++ names.caFile).length < 256 ∧ (CERTFILE ++ names.certFile).length < 256 ∧
    (KEYFILE ++ names.keyFile).length < 256

/-- A context is created with the given file names, and these are the ones held. -/
def Agreed (names : ApplicationConfig) (m : Memory) (_ : Link) : Call → Prop
  | .note (.createContext caFile crtFile keyFile) =>
      m.appCfg = names ∧ caFile = names.caFile ∧ crtFile = names.certFile ∧
        keyFile = names.keyFile
  | _ => True

/-- The label and the text of the listener. -/
def configMessage (pid : Int) (names : ApplicationConfig) : List Byte :=
  Mylsnr.configLabel ++ Mylsnr.configText pid names

/-- Until a context has been created, a {lit}`recv` of the configuration fails or
returns at least the whole message. -/
def Complete (names : ApplicationConfig) (_ : Memory) (w : Link) : Call → Reply → Prop
  | .recv _ _ _ false, r =>
      0 ≤ r.ret → w.configured = true ∨ ∃ pid, configMessage pid names <+: r.bytes
  | _, _ => True

/-! ## The message -/

section Message

variable {names : ApplicationConfig} {pid : Int} {rest : List Byte}

/-- The message is four lines. -/
theorem configMessage_append (pid : Int) (names : ApplicationConfig) (rest : List Byte) :
    configMessage pid names ++ rest =
      (CONFIGPID ++ decimal pid) ++ newline ::
        ((CAFILE ++ cString names.caFile) ++ newline ::
          ((CERTFILE ++ cString names.certFile) ++ newline ::
            ((KEYFILE ++ cString names.keyFile) ++ newline :: rest))) := by
  have hline : ascii "\n" = [newline] := by decide
  have hpid : ∀ text, Mylsnr.configLabel ++ (ascii "PPID=" ++ text) = CONFIGPID ++ text := by
    intro text
    rw [← List.append_assoc]
    congr 1
  simp only [configMessage, Mylsnr.configText, hline, List.append_assoc, hpid]
  rfl

theorem newline_not_mem_cString {name : List Byte} (h : newline ∉ name) :
    newline ∉ cString name :=
  fun hmem => h (List.takeWhile_subset _ hmem)

theorem newline_not_mem_option {keyword name : List Byte} (hkeyword : newline ∉ keyword)
    (hname : newline ∉ name) : newline ∉ keyword ++ cString name := by
  rw [List.mem_append, not_or]
  exact ⟨hkeyword, newline_not_mem_cString hname⟩

theorem newline_not_mem_pid (pid : Int) : newline ∉ CONFIGPID ++ decimal pid := by
  rw [List.mem_append, not_or]
  exact ⟨by decide, fun hmem => (decimal_printable hmem).2 rfl⟩

theorem Carriable.newline_not_mem (h : Carriable names) :
    newline ∉ CAFILE ++ cString names.caFile ∧ newline ∉ CERTFILE ++ cString names.certFile ∧
      newline ∉ KEYFILE ++ cString names.keyFile :=
  ⟨newline_not_mem_option (by decide) h.caFile.2,
    newline_not_mem_option (by decide) h.certFile.2,
    newline_not_mem_option (by decide) h.keyFile.2⟩

/-- Names without terminators and line breaks are read back from the message, if no
further line break follows it. -/
theorem applyLines_of_newline_not_mem (hca : 0 ∉ names.caFile ∧ newline ∉ names.caFile)
    (hcert : 0 ∉ names.certFile ∧ newline ∉ names.certFile)
    (hkey : 0 ∉ names.keyFile ∧ newline ∉ names.keyFile) (hrest : newline ∉ rest)
    (appCfg : ApplicationConfig) :
    (completeLines [] (configMessage pid names ++ rest)).foldl
      ApplicationConfig.applyLine appCfg = names := by
  rw [configMessage_append, completeLines_line (newline_not_mem_pid pid),
    completeLines_line (newline_not_mem_option (by decide) hca.2),
    completeLines_line (newline_not_mem_option (by decide) hcert.2),
    completeLines_line (newline_not_mem_option (by decide) hkey.2),
    completeLines_of_not_mem hrest]
  simp only [List.nil_append, List.foldl_cons, List.foldl_nil,
    ApplicationConfig.applyLine_CONFIGPID, ApplicationConfig.applyLine_CAFILE,
    ApplicationConfig.applyLine_CERTFILE, ApplicationConfig.applyLine_KEYFILE,
    cString_of_zero_not_mem (zero_not_mem_cString _)]
  rw [cString_of_zero_not_mem hca.1, cString_of_zero_not_mem hcert.1,
    cString_of_zero_not_mem hkey.1]
  rfl

/-- A dispatcher that reads the whole message, and no further line break, holds the
listener's file names, whatever it held before. -/
theorem applyLines_message (h : Carriable names) (hrest : newline ∉ rest)
    (appCfg : ApplicationConfig) :
    (completeLines [] (configMessage pid names ++ rest)).foldl
      ApplicationConfig.applyLine appCfg = names :=
  applyLines_of_newline_not_mem h.caFile h.certFile h.keyFile hrest appCfg

theorem count_line {line : List Byte} (hline : newline ∉ line) (rest : List Byte) :
    (line ++ newline :: rest).count newline = rest.count newline + 1 := by
  rw [List.count_append, List.count_cons_self, List.count_eq_zero_of_not_mem hline]
  omega

/-- The message has four line breaks. -/
theorem count_configMessage (h : Carriable names) (pid : Int) :
    (configMessage pid names).count newline = 4 := by
  have hmessage := configMessage_append pid names []
  rw [List.append_nil] at hmessage
  obtain ⟨hca, hcert, hkey⟩ := h.newline_not_mem
  rw [hmessage, count_line (newline_not_mem_pid pid), count_line hca, count_line hcert,
    count_line hkey, List.count_nil]

/-- All of them are in the text. -/
theorem count_configText (h : Carriable names) (pid : Int) :
    (Mylsnr.configText pid names).count newline = 4 := by
  have hmessage := count_configMessage h pid
  rw [configMessage, List.count_append,
    List.count_eq_zero_of_not_mem (show newline ∉ Mylsnr.configLabel by decide)] at hmessage
  omega

end Message

/-! ## The invariant -/

/-- At most one message is in flight.  A dispatcher that has created a context holds
the listener's file names, and no line break is in flight any more. -/
structure Consistent (names appCfg : ApplicationConfig) (w : Link) : Prop where
  unwritten : w.phase = .fresh ∨ w.phase = .labelled → newline ∉ content w.queue
  once : (content w.queue).count newline ≤ 4
  configured : w.configured = true →
    w.phase ≠ .fresh ∧ w.phase ≠ .labelled ∧ newline ∉ content w.queue ∧ appCfg = names

/-- The whole message has been read. -/
structure Drained (w : Link) : Prop where
  written : w.phase ≠ .fresh ∧ w.phase ≠ .labelled
  drained : newline ∉ content w.queue

section Steps

variable {names appCfg : ApplicationConfig} {w w' : Link}

theorem Drained.consistent (h : Drained w) : Consistent names names w where
  unwritten hphase := absurd hphase (not_or.mpr h.written)
  once := by simp [List.count_eq_zero_of_not_mem h.drained]
  configured _ := ⟨h.written.1, h.written.2, h.drained, rfl⟩

/-- A segment without a line break may follow. -/
theorem Consistent.put (h : Consistent names appCfg w) {segment : Segment Byte Event}
    {phase : Phase} (hsegment : newline ∉ segment.content)
    (hphase : phase = .fresh ∨ phase = .labelled → w.phase = .fresh) :
    Consistent names appCfg (w.put segment phase) where
  unwritten hnew := by
    have hqueue := h.unwritten (Or.inl (hphase hnew))
    simpa [Link.put] using ⟨hqueue, hsegment⟩
  once := by
    simpa [Link.put, List.count_eq_zero_of_not_mem hsegment] using h.once
  configured hconfigured := by
    obtain ⟨hfresh, -, hqueue, hnames⟩ := h.configured hconfigured
    refine ⟨fun hnew => hfresh (hphase (Or.inl hnew)), fun hnew => hfresh (hphase (Or.inr hnew)),
      ?_, hnames⟩
    simpa [Link.put] using ⟨hqueue, hsegment⟩

/-- The text follows the label once. -/
theorem Consistent.putText (hnames : Carriable names) (h : Consistent names appCfg w)
    (pid : Int) (hphase : w.phase = .labelled) :
    Consistent names appCfg
      (w.put { content := Mylsnr.configText pid names } .running) where
  unwritten hnew := by simp [Link.put] at hnew
  once := by
    have hqueue := h.unwritten (Or.inr hphase)
    simp [Link.put, List.count_eq_zero_of_not_mem hqueue, count_configText hnames pid]
  configured hconfigured := absurd hphase (h.configured hconfigured).2.1

theorem Consistent.act (hnames : Carriable names) (h : Consistent names appCfg w)
    {a : Sending} (hact : w.act names a = some w') : Consistent names appCfg w' := by
  rcases act_cases hact with ⟨hphase, rfl⟩ | ⟨pid, hphase, rfl⟩ | ⟨-, rfl⟩ | ⟨-, rfl⟩ | rfl
  · exact h.put (show newline ∉ Mylsnr.configLabel by decide) fun _ => hphase
  · exact h.putText hnames pid hphase
  · exact h.put (show newline ∉ [0, 0] by decide) (by simp)
  · exact h.put (show newline ∉ Mylsnr.exitMessage by decide) (by simp)
  · exact ⟨h.unwritten, h.once, h.configured⟩

theorem Drained.act (h : Drained w) {a : Sending} (hact : w.act names a = some w') :
    Drained w' := by
  rcases act_cases hact with ⟨hphase, rfl⟩ | ⟨pid, hphase, rfl⟩ | ⟨-, rfl⟩ | ⟨-, rfl⟩ | rfl
  · exact absurd hphase h.written.1
  · exact absurd hphase h.written.2
  · exact ⟨by simp [Link.put], by simpa [Link.put, clientSegment] using ⟨h.drained, by decide⟩⟩
  · exact ⟨by simp [Link.put], by simpa [Link.put, exitSegment] using ⟨h.drained, by decide⟩⟩
  · exact ⟨h.written, h.drained⟩

/-- A read takes line breaks off the queue. -/
theorem Consistent.consume (h : Consistent names appCfg w) {n : Nat}
    {reading : Reading Byte Event} (hread : SegmentedStream.read n w.queue = some reading)
    (descriptors : List (Option Int)) :
    Consistent names appCfg (w.consume reading descriptors) := by
  have hcontent := read_content hread
  have hsubset : newline ∉ content w.queue → newline ∉ content reading.rest := by
    rw [← hcontent, List.mem_append, not_or]
    exact And.right
  exact
    { unwritten := fun hphase => hsubset (h.unwritten hphase)
      once := by
        have honce := h.once
        rw [← hcontent, List.count_append] at honce
        change (content reading.rest).count newline ≤ 4
        omega
      configured := by
        intro hconfigured
        obtain ⟨hfresh, hlabelled, hqueue, hnames⟩ := h.configured hconfigured
        exact ⟨hfresh, hlabelled, hsubset hqueue, hnames⟩ }

/-- A {lit}`recv` that returns the whole message, or comes after it, leaves the
dispatcher with the listener's file names. -/
theorem Consistent.received (hnames : Carriable names) (h : Consistent names appCfg w)
    {n : Nat} {reading : Reading Byte Event}
    (hread : SegmentedStream.read n w.queue = some reading)
    (hcomplete : w.configured = true ∨ ∃ pid, configMessage pid names <+: reading.content) :
    Drained (w.discard reading) ∧
      (completeLines [] reading.content).foldl ApplicationConfig.applyLine appCfg = names := by
  have hcontent := read_content hread
  rcases hcomplete with hconfigured | ⟨pid, rest, hmessage⟩
  · obtain ⟨hfresh, hlabelled, hqueue, happCfg⟩ := h.configured hconfigured
    rw [← hcontent, List.mem_append, not_or] at hqueue
    refine ⟨⟨⟨hfresh, hlabelled⟩, hqueue.2⟩, ?_⟩
    rw [completeLines_of_not_mem hqueue.1]
    exact happCfg
  · -- all four line breaks in flight are in the message
    have hcount := h.once
    rw [← hcontent, ← hmessage, List.count_append, List.count_append,
      count_configMessage hnames] at hcount
    have hrest : newline ∉ rest := List.count_eq_zero.mp (by omega)
    have hdrained : newline ∉ content reading.rest := List.count_eq_zero.mp (by omega)
    have hwritten : ¬(w.phase = .fresh ∨ w.phase = .labelled) := by
      intro hphase
      have hnone := List.count_eq_zero_of_not_mem (h.unwritten hphase)
      rw [← hcontent, ← hmessage, List.count_append, List.count_append,
        count_configMessage hnames] at hnone
      omega
    refine ⟨⟨not_or.mp hwritten, hdrained⟩, ?_⟩
    rw [← hmessage]
    exact applyLines_message hnames hrest appCfg

end Steps

/-! ## One message -/

/-- The calls other than creating a context and receiving a configuration. -/
def Elsewhere : Call → Prop
  | .recv _ _ _ peek => peek = true
  | .note (.createContext ..) => False
  | _ => True

theorem elsewhere_of_ordinary : ∀ c, Ordinary c → Elsewhere c := by
  apply forall_ordinary <;> intros <;> trivial

theorem elsewhere_of_accepting (next : Ptr) : ∀ c, Accepting next c → Elsewhere c := by
  apply forall_accepting
  · apply forall_receiving <;> intros <;> trivial
  · apply forall_admitting <;> intros <;> trivial

/-- The calls other than creating a context and loading its files. -/
def Unrelated : Call → Prop
  | .sslLoad .. | .note (.createContext ..) => False
  | _ => True

theorem unrelated_of_ordinary : ∀ c, Ordinary c → Unrelated c := by
  apply forall_ordinary <;> intros <;> trivial

theorem unrelated_of_accepting (next : Ptr) : ∀ c, Accepting next c → Unrelated c := by
  apply forall_accepting
  · apply forall_receiving <;> intros <;> trivial
  · apply forall_admitting <;> intros <;> trivial

/-- The calls that create a context with these names. -/
def Creating (names : ApplicationConfig) : Call → Prop
  | .note (.createContext caFile crtFile keyFile) =>
      caFile = names.caFile ∧ crtFile = names.certFile ∧ keyFile = names.keyFile
  | c => Configuring c

/-- The name of a file that is loaded into a context. -/
def fileName (names : ApplicationConfig) : SslFile → List Byte
  | .certificateChain => names.certFile
  | .privateKey => names.keyFile
  | .verifyLocations => names.caFile

/-- The calls that create a context from the files with these names. -/
def Loading (names : ApplicationConfig) : Call → Prop
  | .sslLoad what name => name = fileName names what
  | c => Creating names c

theorem creating_of_loading (names : ApplicationConfig) :
    ∀ c, Loading names c → Creating names c := by
  intro c
  fun_cases Loading names c with
  | case1 => exact fun _ => trivial
  | case2 => exact id

theorem agreed_of_creating {names : ApplicationConfig} {m : Memory} {w : Link} {c : Call}
    (happCfg : m.appCfg = names) (hc : Creating names c) : Agreed names m w c := by
  fun_cases Agreed names m w c with
  | case1 => exact ⟨happCfg, hc⟩
  | case2 => trivial

section Message

variable {names : ApplicationConfig} {descriptor : Int} {fuel : Nat}
variable {s : Memory} {w : Link}

theorem consistent_quiet (descriptor : Int) (hnames : Carriable names)
    (appCfg : ApplicationConfig) :
    Quiet (link descriptor names) (Complete names) (Agreed names) (fun _ => True) Elsewhere
      (Consistent names appCfg) where
  guarantee s w c _ hc _ := by
    fun_cases Agreed names s w c <;> trivial
  reply s w c r w' _ hc hreply _ h := by
    by_cases hoff : OffLink c
    · exact link_reply hoff hreply ▸ h
    · cases c with
      | recv fd buffer size peek =>
          obtain rfl : peek = true := hc
          exact (link_peek hreply).symm ▸ h
      | recvmsg fd buffer size =>
          by_cases hfd : fd = descriptor
          · subst fd
            obtain ⟨reading, htake, -, rfl⟩ := link_recvmsg hreply
            exact h.consume (take_eq_some htake).1 _
          · simp only [link, if_neg hfd, Option.some.injEq] at hreply
            exact hreply ▸ h
      | note n =>
          cases n with
          | createSocket d =>
              cases d with
              | some d =>
                  obtain rfl := Option.some.inj hreply
                  exact ⟨h.unwritten, h.once, h.configured⟩
              | none => exact absurd trivial hoff
          | putSocket =>
              obtain rfl := Option.some.inj hreply
              exact ⟨h.unwritten, h.once, h.configured⟩
          | createContext => exact hc.elim
          | _ => exact absurd trivial hoff
      | _ => exact absurd trivial hoff
  act w a w' hact h := h.act hnames hact

theorem creating_quiet (names : ApplicationConfig) (descriptor : Int) :
    Quiet (link descriptor names) (Complete names) (Agreed names)
      (fun s => s.appCfg = names) (Creating names) Drained where
  guarantee _ _ _ happCfg hc _ := agreed_of_creating happCfg hc
  reply s w c r w' _ hc hreply _ h := by
    by_cases hoff : OffLink c
    · exact link_reply hoff hreply ▸ h
    · cases c with
      | note n =>
          cases n with
          | createContext =>
              obtain rfl := Option.some.inj hreply
              exact ⟨h.written, h.drained⟩
          | _ => exact hc.elim
      | recv => exact hc.elim
      | recvmsg => exact hc.elim
      | _ => exact absurd trivial hoff
  act w a w' hact h := h.act hact

/-- What a guarantee has to allow for the messages of the listener to be followed. -/
structure Allows (names : ApplicationConfig) (G : Memory → Link → Call → Prop) : Prop where
  unrelated : ∀ s w c, Unrelated c → G s w c
  loading : ∀ s w c, s.appCfg = names → Loading names c → G s w c

theorem agreed_allows (names : ApplicationConfig) : Allows names (Agreed names) where
  unrelated s w c hc := by
    fun_cases Agreed names s w c <;> trivial
  loading _ _ c happCfg hc := agreed_of_creating happCfg (creating_of_loading names c hc)

section Allows

variable {G : Memory → Link → Call → Prop} (hG : Allows names G)
include hG

theorem Allows.consistent_quiet (descriptor : Int) (hnames : Carriable names)
    (appCfg : ApplicationConfig) :
    Quiet (link descriptor names) (Complete names) G (fun _ => True)
      (fun c => Elsewhere c ∧ Unrelated c) (Consistent names appCfg) where
  guarantee s w c _ hc _ := hG.unrelated s w c hc.2
  reply s w c r w' hI hc :=
    (Mydisp.consistent_quiet descriptor hnames appCfg).reply s w c r w' hI hc.1
  act := (Mydisp.consistent_quiet descriptor hnames appCfg).act

theorem Allows.loading_quiet (descriptor : Int) :
    Quiet (link descriptor names) (Complete names) G (fun s => s.appCfg = names)
      (Loading names) Drained where
  guarantee s w c happCfg hc _ := hG.loading s w c happCfg hc
  reply s w c r w' hI hc :=
    (creating_quiet names descriptor).reply s w c r w' hI (creating_of_loading names c hc)
  act := (creating_quiet names descriptor).act

/-- A configuration that has been received completely is followed. -/
theorem Allows.processConfig {buffer : List Byte} {r : Reply}
    (hr : r.bytes.length = r.ret.toNat)
    (happCfg : (completeLines [] r.bytes).foldl ApplicationConfig.applyLine s.appCfg = names)
    (hs : Shape descriptor s) (h : Drained w) :
    Sat (link descriptor names) (Complete names) G
      (processConfig (memcpy buffer r.bytes) r.ret.toNat)
      (fun s' w' _ => Shape descriptor s' ∧ s'.outputSocketsList = s.outputSocketsList ∧
        Consistent names s'.appCfg w') s w := by
  have hquiet := hG.loading_quiet descriptor
  have hautomatic : Quiet (link descriptor names) (Complete names) G
      (fun _ => True) (fun c => c = .automatic 256) Drained := by
    refine ⟨fun _ _ c _ hc _ => hG.unrelated _ _ c (hc ▸ trivial),
      fun _ _ c r w' _ hc hreply _ h => ?_, hquiet.act⟩
    subst hc
    exact (Option.some.inj hreply) ▸ h
  rw [Mydisp.processConfig, sat_bind]
  refine sat_ask_quiet hautomatic (by exact rfl) trivial h fun lineBuffer w h => ?_
  have htake : (memcpy buffer r.bytes).take r.ret.toNat = r.bytes := by
    rw [memcpy, ← hr, List.take_left]
  rw [sat_bind, sat_modify, htake, configLoop_eq, happCfg, sat_bind, sat_get, sat_bind]
  let I := fun s' => s'.appCfg = names ∧ Shape descriptor s' ∧
    s'.outputSocketsList = s.outputSocketsList
  have hcreate : Within I (Loading names)
      (createContext names.caFile names.certFile names.keyFile (ascii "1q2w3e4r")) := by
    refine within_createContext_files ?_ ⟨rfl, rfl, rfl⟩ trivial rfl rfl rfl trivial
    exact fun s' ssl hI => ⟨hI.1, hI.2.1.globals s'.appCfg ssl s'.cmptr, hI.2.2⟩
  have hI : I { s with appCfg := names } := ⟨rfl, hs.globals names s.ssl s.cmptr, rfl⟩
  apply (hcreate.sat (hquiet.mono (fun _ hI => hI.1) fun _ hc => hc) hI h).mono
  rintro s' w' _ ⟨⟨happCfg, hs', houtput⟩, h⟩
  exact ⟨hs', houtput, happCfg.symm ▸ h.consistent⟩

/-- One message of the listener keeps the invariant. -/
theorem Allows.dispatcherProcess (hnames : Carriable names) (hs : Shape descriptor s)
    (h : Consistent names s.appCfg w) :
    Sat (link descriptor names) (Complete names) G
      (dispatcherProcess unixSocket fuel)
      (fun s' w' _ => Shape descriptor s' ∧ s'.outputSocketsList = s.outputSocketsList ∧
        Consistent names s'.appCfg w') s w := by
  let I := fun s' => Shape descriptor s' ∧ s'.outputSocketsList = s.outputSocketsList ∧
    s'.appCfg = s.appCfg
  let Q := fun (s' : Memory) (w' : Link) (_ : Bool) => Shape descriptor s' ∧
    s'.outputSocketsList = s.outputSocketsList ∧ Consistent names s'.appCfg w'
  have hquiet := hG.consistent_quiet descriptor hnames s.appCfg
  have hpost : ∀ s' w' ok, I s' → Consistent names s.appCfg w' → Q s' w' ok :=
    fun s' w' _ hI h => ⟨hI.1, hI.2.1, hI.2.2.symm ▸ h⟩
  apply sat_dispatcherProcess (Q := Q) descriptor fun s' w' => I s' ∧ Consistent names s.appCfg w'
  · intro s w w₁ _ _
    exact hG.unrelated s w₁ _ (by trivial)
  · exact fun s' _ socket hinv => hinv.1.1.descriptor_unix
  · intro s' w' size hinv
    exact sat_ask_quiet hquiet (by exact ⟨trivial, trivial⟩) trivial hinv.2
      fun _ w' h => ⟨hinv.1, h⟩
  · intro s' w' buffer hinv
    exact sat_ask_quiet hquiet (by exact ⟨rfl, trivial⟩) trivial hinv.2
      fun _ w' h => ⟨hinv.1, h⟩
  · intro s' w' hinv
    have haccepting : Quiet (link descriptor names) (Complete names) G
        (fun _ => True) (Accepting 0) (Consistent names s.appCfg) :=
      hquiet.mono (fun _ hI => hI) fun c hc =>
        ⟨elsewhere_of_accepting 0 c hc, unrelated_of_accepting 0 c hc⟩
    apply sat_reception_quiet (I := I) (Q := Q) haccepting
    · exact fun _ hI => hI.1
    · exact fun _ _ => Nat.zero_le _
    · exact fun s' cmptr hI => ⟨hI.1.globals s'.appCfg s'.ssl cmptr, hI.2⟩
    · exact fun s' w' tcp hI h _ => hpost _ w' true ⟨hI.1.join, hI.2⟩ h
    · exact fun s' w' hI h => hpost _ w' true ⟨hI.1.refuse, hI.2⟩ h
    · exact fun s' w' hI h => hpost s' w' false hI h
    · exact hinv.1
    · exact hinv.2
  · intro s' w' buffer hinv
    apply sat_ask_keeps hquiet.act hinv.2 fun _ _ => hG.unrelated _ _ _ (by trivial)
    intro w₁ r w₂ hw₁ hreply hcomplete
    obtain ⟨reading, htake, rfl⟩ := link_recv hreply
    obtain ⟨hread, hbytes, hlength⟩ := take_eq_some htake
    refine ⟨fun hneg => ?_, fun hret => ?_⟩
    · exact hpost s' _ false hinv.1 (hw₁.consume hread _)
    · obtain ⟨hdrained, happCfg⟩ := hw₁.received hnames hread (hbytes ▸ hcomplete hret)
      rw [← hbytes, ← hinv.1.2.2] at happCfg
      apply (hG.processConfig hlength happCfg hinv.1.1 hdrained).mono
      rintro s'' w'' _ ⟨hs'', houtput, h⟩
      exact ⟨hs'', houtput.trans hinv.1.2.1, h⟩
  · exact fun s' w' ok hinv => hpost s' w' ok hinv.1 hinv.2
  · exact ⟨⟨hs, rfl, rfl⟩, h⟩

end Allows

theorem agreed_dispatcherProcess (hnames : Carriable names) (hs : Shape descriptor s)
    (h : Consistent names s.appCfg w) :
    Sat (link descriptor names) (Complete names) (Agreed names)
      (dispatcherProcess unixSocket fuel)
      (fun s' w' _ => Shape descriptor s' ∧ s'.outputSocketsList = s.outputSocketsList ∧
        Consistent names s'.appCfg w') s w :=
  (agreed_allows names).dispatcherProcess hnames hs h

end Message

/-! ## Whole runs -/

theorem consistent_started (names : ApplicationConfig) : Consistent names {} {} where
  unwritten _ := by simp [content]
  once := by simp [content]
  configured h := nomatch h

/-- For every order of the listener's sends and the dispatcher's steps, as long as the
first {lit}`recv` of a configuration returns the label and the whole text: every
context is created with the listener's file names. -/
theorem agrees_of_complete (descriptor fuel cycles : Nat) {names : ApplicationConfig}
    (hnames : Carriable names) :
    Safe (link descriptor names) (Complete names) (Agreed names)
      ⟨started descriptor, {}, mainLoop unixSocket fuel cycles⟩ := by
  apply Sat.safe
  apply sat_mainLoop_messages descriptor (Consistent names)
  · intro appCfg
    exact (consistent_quiet _ hnames appCfg).mono (fun _ hI => hI) elsewhere_of_ordinary
  · intro _ _
    trivial
  · intro s w hs hR
    apply (agreed_dispatcherProcess hnames hs hR).mono
    rintro s' w ok ⟨hs', houtput, h⟩
    have hquiet := consistent_quiet descriptor hnames s'.appCfg
    exact sat_note_quiet hquiet (by trivial) trivial h fun w h _ => ⟨hs', h, houtput⟩
  · exact shape_started descriptor
  · exact consistent_started names

/-- The listener's default file names can be carried. -/
theorem carriable_defaultSettings : Carriable Mylsnr.defaultSettings :=
  ⟨by decide, by decide, by decide, by decide⟩

theorem agrees_on_defaultSettings :
    Safe (link 3 Mylsnr.defaultSettings) (Complete Mylsnr.defaultSettings)
      (Agreed Mylsnr.defaultSettings) ⟨started 3, {}, mainLoop unixSocket 2 4⟩ :=
  agrees_of_complete 3 2 4 carriable_defaultSettings

/-- The dispatcher wakes up between the two writes: it receives the label alone and
creates a context without file names. -/
theorem label_only :
    ¬Safe (link 3 Mylsnr.defaultSettings) anyReply (Agreed Mylsnr.defaultSettings)
      ⟨started 3, {}, mainLoop unixSocket 1 1⟩ :=
  not_safe_of_exec
    (fun m _ c =>
      match c with
      | .note (.createContext ..) => decide (m.appCfg = Mylsnr.defaultSettings)
      | _ => true)
    (by
      intro m w c hG
      split
      next => simpa using hG.1
      next => rfl)
    [.inl .label, .inr {}, .inr { ret := 1, revents := [POLLIN] }, .inr {},
      .inr { ret := 6, bytes := Mylsnr.configLabel }, .inr {},
      .inr { ret := 6, bytes := Mylsnr.configLabel }, .inr {}]
    (by decide)

end Mydisp

end SocketDispatcher
