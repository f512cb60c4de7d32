import SocketDispatcher.InitSsl
import SocketDispatcher.Library.Evaluation

/-!
# Histories of context calls

What {lit}`createContext` returns depends on two globals that earlier calls leave
behind: the context, and the error code of the last failure.  This module follows both
through a history of calls and says in terms of the history alone, without a look at the
globals, when every result means what its caller takes it to mean.

Main results:

- Theorem {lit}`eval_perform`: the effect of each function on the globals.
- Theorem {lit}`lawful_iff`: one call.
- Theorem {lit}`history_lawful_iff`: when every result of a history is lawful.
- Theorem {lit}`history_holds`: what every result means in any case.

Current gaps:

- {lit}`SSL_CTX_new` succeeds.
-/

namespace SocketDispatcher

open Interaction

/-! ## Calls and answers -/

/-- A call of a function of {lit}`InitSsl.cpp`. -/
inductive SslCall where
  | createContext (caFile crtFile keyFile password : List Byte)
  | createClientContext
  | dropContext
deriving DecidableEq

/-- The call as a program; {lit}`dropContext` has no result. -/
def SslCall.perform : SslCall → Proc Int
  | .createContext caFile crtFile keyFile password =>
      SocketDispatcher.createContext caFile crtFile keyFile password
  | .createClientContext => SocketDispatcher.createClientContext
  | .dropContext => do
      SocketDispatcher.dropContext
      pure 0

/-- What OpenSSL answers during one call: the result of loading each file, and the code
that {lit}`ERR_get_error` takes from the error queue. -/
structure OpenSsl where
  loads : SslFile → Int
  error : BitVec 64

namespace OpenSsl

def answer (openSsl : OpenSsl) : Unit → Call → Option (Reply × Unit)
  | _, .sslCtxNew => some ({ ret := 1 }, ())
  | _, .sslLoad what _ => some ({ ret := openSsl.loads what }, ())
  | _, .errGetError => some ({ ret := openSsl.error.toNat }, ())
  | _, _ => some ({}, ())

/-- All three files can be loaded. -/
def LoadsAll (openSsl : OpenSsl) : Prop :=
  openSsl.loads .certificateChain = 1 ∧ openSsl.loads .privateKey = 1 ∧
    openSsl.loads .verifyLocations = 1

instance (openSsl : OpenSsl) : Decidable openSsl.LoadsAll :=
  inferInstanceAs (Decidable (_ ∧ _ ∧ _))

end OpenSsl

/-- The context that three files were loaded into. -/
def loadedCtx (caFile crtFile keyFile : List Byte) : SslCtx where
  certificateChain := some crtFile
  privateKey := some keyFile
  verifyLocations := some caFile

/-! ## The effect of one call -/

namespace SslGlobals

/-- The globals after a call. -/
def after (ssl : SslGlobals) (openSsl : OpenSsl) : SslCall → SslGlobals
  | .createContext caFile crtFile keyFile password =>
      if ssl.sslGlobalCtx.isSome then
        ssl
      else if openSsl.LoadsAll then
        { ssl with
          sslGlobalCtx := some (loadedCtx caFile crtFile keyFile)
          keyFilePassword := password }
      else
        ⟨none, openSsl.error, password⟩
  | .createClientContext =>
      if ssl.sslGlobalCtx.isSome then ssl else { ssl with sslGlobalCtx := some {} }
  | .dropContext => { ssl with sslGlobalCtx := none }

/-- The result of a call. -/
def returned (ssl : SslGlobals) (openSsl : OpenSsl) : SslCall → Int
  | .dropContext => 0
  | call => if ssl.sslGlobalCtx.isSome then 0 else (ssl.after openSsl call).result

/-- A result of zero is an error code whose low half is zero. -/
theorem result_eq_zero_iff (ssl : SslGlobals) :
    ssl.result = 0 ↔ ssl.sslError.setWidth 32 = 0 := by
  rw [result, ← BitVec.toInt_inj, BitVec.ofNat_eq_ofNat, BitVec.toInt_zero]

end SslGlobals

theorem eval_returnSslError {m : Memory} {openSsl : OpenSsl} :
    returnSslError.eval openSsl.answer m () = some (m.ssl.result, m, ()) :=
  rfl

/-- Loading a file. -/
theorem eval_sslLoad {m : Memory} {openSsl : OpenSsl} (what : SslFile) (name : List Byte) :
    (sslLoad what name).eval openSsl.answer m () =
      if openSsl.loads what = 1 then
        some (true, { m with ssl := m.ssl.load what name }, ())
      else
        some (false, { m with ssl := m.ssl.fail openSsl.error.toNat }, ()) := by
  rw [sslLoad, eval_ask_bind rfl]
  split
  · rfl
  · rfl

theorem fail_toNat (ssl : SslGlobals) (error : BitVec 64) :
    ssl.fail error.toNat = ⟨none, error, ssl.keyFilePassword⟩ := by
  simp [SslGlobals.fail]

/-- {lit}`createContext` when there is no context yet: every failed load ends it. -/
theorem eval_createContext {m : Memory} {openSsl : OpenSsl} (hnone : m.ssl.sslGlobalCtx = none)
    (caFile crtFile keyFile password : List Byte) :
    (createContext caFile crtFile keyFile password).eval openSsl.answer m () =
      some ((m.ssl.after openSsl (.createContext caFile crtFile keyFile password)).result,
        { m with
          ssl := m.ssl.after openSsl (.createContext caFile crtFile keyFile password) }, ()) := by
  have hstart : (createContext caFile crtFile keyFile password).eval openSsl.answer m () =
      (do
        let certified ← sslLoad .certificateChain crtFile
        if certified then do
          let keyed ← sslLoad .privateKey keyFile
          if keyed then do
            let _ ← sslLoad .verifyLocations caFile
            returnSslError
          else
            returnSslError
        else
          returnSslError).eval openSsl.answer
        { m with ssl := ⟨some {}, m.ssl.sslError, password⟩ } () := by
    simp [createContext, note, modifySsl, eval_ask, OpenSsl.answer, hnone]
  simp only [hstart, SslGlobals.after, OpenSsl.LoadsAll, hnone, Option.isSome_none,
    Bool.false_eq_true, if_false, eval_bind, eval_sslLoad]
  by_cases hcrt : openSsl.loads .certificateChain = 1
  · by_cases hkey : openSsl.loads .privateKey = 1
    · by_cases hca : openSsl.loads .verifyLocations = 1
      · simp [hcrt, hkey, hca, eval_sslLoad, eval_returnSslError, SslGlobals.load, loadedCtx]
      · simp [hcrt, hkey, hca, eval_sslLoad, eval_returnSslError, fail_toNat, SslGlobals.load]
    · simp [hcrt, hkey, eval_sslLoad, eval_returnSslError, fail_toNat, SslGlobals.load]
  · simp [hcrt, eval_returnSslError, fail_toNat]

/-- The effect of each function on the globals. -/
theorem eval_perform (m : Memory) (openSsl : OpenSsl) (call : SslCall) :
    call.perform.eval openSsl.answer m () =
      some (m.ssl.returned openSsl call, { m with ssl := m.ssl.after openSsl call }, ()) := by
  cases call with
  | createContext caFile crtFile keyFile password =>
      cases hctx : m.ssl.sslGlobalCtx with
      | some ctx =>
          simp [SslCall.perform, createContext, note, eval_ask, OpenSsl.answer, hctx,
            SslGlobals.returned, SslGlobals.after]
      | none => simp [SslCall.perform, eval_createContext hctx, SslGlobals.returned, hctx]
  | createClientContext =>
      cases hctx : m.ssl.sslGlobalCtx with
      | some ctx =>
          simp [SslCall.perform, createClientContext, hctx, SslGlobals.returned,
            SslGlobals.after]
      | none =>
          simp [SslCall.perform, createClientContext, eval_ask, OpenSsl.answer, modifySsl,
            eval_returnSslError, hctx, SslGlobals.returned, SslGlobals.after]
  | dropContext =>
      cases hctx : m.ssl.sslGlobalCtx with
      | some ctx =>
          simp [SslCall.perform, dropContext, modifySsl, hctx, SslGlobals.returned,
            SslGlobals.after]
      | none =>
          have hssl : m.ssl.after openSsl .dropContext = m.ssl := by
            rw [SslGlobals.after, ← hctx]
          rw [hssl]
          simp [SslCall.perform, dropContext, hctx, SslGlobals.returned]

/-- So a call that returns has this effect. -/
theorem perform_returns {m m' : Memory} {openSsl : OpenSsl} {call : SslCall} {result : Int}
    (hrun : Reaches (scripted openSsl.answer) anyReply ⟨m, (), call.perform⟩
      ⟨m', (), .ret result⟩) :
    m.ssl.returned openSsl call = result ∧ { m with ssl := m.ssl.after openSsl call } = m' := by
  have heval := reaches_scripted_iff.mp hrun
  rw [eval_perform] at heval
  simpa only [Option.some.injEq, Prod.mk.injEq, and_true] using heval

/-! ## Histories -/

/-- A call as it went. -/
structure Episode where
  call : SslCall
  openSsl : OpenSsl
  result : Int
  /-- The globals on return. -/
  ssl : SslGlobals

/-- What a caller takes a result to mean: zero is returned exactly when there is a context
that the files of this very call were loaded into, and no context is left otherwise. -/
def Episode.Lawful (episode : Episode) : Prop :=
  match episode.call with
  | .createContext caFile crtFile keyFile _ =>
      (episode.result = 0 ↔
          episode.ssl.sslGlobalCtx = some (loadedCtx caFile crtFile keyFile)) ∧
        (episode.result ≠ 0 → episode.ssl.sslGlobalCtx = none)
  | _ => True

/-- Complete calls one after another, each with answers of its own. -/
inductive History : Memory → List Episode → Prop where
  | nil (m : Memory) : History m []
  | cons {m m' : Memory} {call : SslCall} {openSsl : OpenSsl} {result : Int}
      {episodes : List Episode}
      (hrun : Reaches (scripted openSsl.answer) anyReply ⟨m, (), call.perform⟩
        ⟨m', (), .ret result⟩)
      (hrest : History m' episodes) :
      History m (⟨call, openSsl, result, m'.ssl⟩ :: episodes)

/-- Every list of calls and answers has a history. -/
theorem exists_history (m : Memory) (calls : List (SslCall × OpenSsl)) :
    ∃ episodes, History m episodes ∧
      episodes.map (fun episode => (episode.call, episode.openSsl)) = calls := by
  induction calls generalizing m with
  | nil => exact ⟨[], .nil m, rfl⟩
  | cons input calls ih =>
      rcases input with ⟨call, openSsl⟩
      obtain ⟨episodes, hhistory, hinputs⟩ := ih { m with ssl := m.ssl.after openSsl call }
      have hrun := reaches_of_eval (eval_perform m openSsl call)
      exact ⟨_, .cons hrun hhistory, congrArg _ hinputs⟩

/-! ## What the calls say -/

/-- What the calls so far say about the globals: the context they should have left, and
whether a file could not be loaded. -/
structure Expected where
  context : Option SslCtx := none
  failed : Bool := false

namespace Expected

/-- The three files of a new context are loaded, or the context is given up. -/
def next (e : Expected) (openSsl : OpenSsl) : SslCall → Expected
  | .createContext caFile crtFile keyFile _ =>
      if e.context.isSome then
        e
      else if openSsl.LoadsAll then
        { e with context := some (loadedCtx caFile crtFile keyFile) }
      else
        ⟨none, true⟩
  | .createClientContext => if e.context.isSome then e else { e with context := some {} }
  | .dropContext => { e with context := none }

/-- A call of {lit}`createContext` that the code gets right: a context that is still there
was made from the same files, files are loaded before any failure, and a failure has an
error code whose low half is not zero. -/
def Admits (e : Expected) (openSsl : OpenSsl) : SslCall → Prop
  | .createContext caFile crtFile keyFile _ =>
      match e.context with
      | some ctx => ctx = loadedCtx caFile crtFile keyFile
      | none =>
          if openSsl.LoadsAll then e.failed = false else openSsl.error.setWidth 32 ≠ 0
  | _ => True

/-- Every call of a history is one that the code gets right. -/
def AdmitsAll (e : Expected) : List (SslCall × OpenSsl) → Prop
  | [] => True
  | (call, openSsl) :: calls => e.Admits openSsl call ∧ (e.next openSsl call).AdmitsAll calls

end Expected

/-- What a call means whatever went before.  It leaves the context that the calls say; in
particular a context that exists is kept, and the result of {lit}`createContext` is then
zero.  Otherwise that result is lawful, unless the call succeeds after one that has failed,
or fails with an error code whose low half is zero. -/
def Episode.LawfulAfter (e : Expected) (episode : Episode) : Prop :=
  episode.ssl.sslGlobalCtx = (e.next episode.openSsl episode.call).context ∧
    match episode.call with
    | .createContext .. =>
        if e.context.isSome then
          episode.result = 0
        else
          (episode.openSsl.LoadsAll → e.failed = false) →
            (¬episode.openSsl.LoadsAll → episode.openSsl.error.setWidth 32 ≠ 0) →
              episode.Lawful
    | _ => True

namespace Expected

def Holds (e : Expected) : List Episode → Prop
  | [] => True
  | episode :: episodes =>
      episode.LawfulAfter e ∧ (e.next episode.openSsl episode.call).Holds episodes

/-- The context is the one that the calls say, and the result code of a success is zero
as long as nothing has failed. -/
structure Tracks (e : Expected) (ssl : SslGlobals) : Prop where
  context : ssl.sslGlobalCtx = e.context
  result_of_not_failed : e.failed = false → ssl.sslError.setWidth 32 = 0

/-- The globals are what the calls say: after a failure, the result code of a success is
not zero. -/
structure Agrees (e : Expected) (ssl : SslGlobals) : Prop extends Tracks e ssl where
  not_failed_of_result : ssl.sslError.setWidth 32 = 0 → e.failed = false

/-- Every call keeps track. -/
theorem Tracks.next {e : Expected} {ssl : SslGlobals} (h : e.Tracks ssl) (openSsl : OpenSsl)
    (call : SslCall) : (e.next openSsl call).Tracks (ssl.after openSsl call) := by
  cases call with
  | createContext caFile crtFile keyFile password =>
      unfold Expected.next SslGlobals.after
      rw [h.context]
      cases hcontext : e.context with
      | some ctx => exact h
      | none =>
          -- a failed load leaves no context, as there was none before
          by_cases hloads : openSsl.LoadsAll
          · simp only [Option.isSome_none, Bool.false_eq_true, if_false, if_pos hloads]
            exact ⟨rfl, h.result_of_not_failed⟩
          · simp only [Option.isSome_none, Bool.false_eq_true, if_false, if_neg hloads]
            exact ⟨rfl, fun hfailed => Bool.noConfusion hfailed⟩
  | createClientContext =>
      unfold Expected.next SslGlobals.after
      rw [h.context]
      cases e.context with
      | some ctx => exact h
      | none => exact ⟨rfl, h.result_of_not_failed⟩
  | dropContext => exact ⟨rfl, h.result_of_not_failed⟩

/-- Before the first failure the globals are what the calls say. -/
theorem Tracks.agrees {e : Expected} {ssl : SslGlobals} (h : e.Tracks ssl)
    (hfailed : e.failed = false) : e.Agrees ssl :=
  ⟨h, fun _ => hfailed⟩

/-- A call that the code gets right leaves the globals as the calls say. -/
theorem Agrees.next {e : Expected} {ssl : SslGlobals} (h : e.Agrees ssl) {openSsl : OpenSsl}
    {call : SslCall} (hadmits : e.Admits openSsl call) :
    (e.next openSsl call).Agrees (ssl.after openSsl call) := by
  refine ⟨h.toTracks.next openSsl call, ?_⟩
  cases call with
  | createContext caFile crtFile keyFile password =>
      unfold Expected.next SslGlobals.after
      rw [h.context]
      cases hcontext : e.context with
      | some ctx => exact h.not_failed_of_result
      | none =>
          simp only [Admits, hcontext] at hadmits
          by_cases hloads : openSsl.LoadsAll
          · simpa [hloads] using h.not_failed_of_result
          · simpa [hloads] using hadmits
  | createClientContext =>
      unfold Expected.next SslGlobals.after
      rw [h.context]
      cases e.context with
      | some ctx => exact h.not_failed_of_result
      | none => exact h.not_failed_of_result
  | dropContext => exact h.not_failed_of_result

/-- One call: its result is lawful exactly when the code gets the call right. -/
theorem lawful_iff {e : Expected} {ssl : SslGlobals} (h : e.Agrees ssl) (openSsl : OpenSsl)
    (call : SslCall) :
    (Episode.mk call openSsl (ssl.returned openSsl call) (ssl.after openSsl call)).Lawful ↔
      e.Admits openSsl call := by
  cases call with
  | createContext caFile crtFile keyFile password =>
      have hcontext := h.context
      have hfailed : ssl.sslError.setWidth 32 = 0 ↔ e.failed = false :=
        ⟨h.not_failed_of_result, h.result_of_not_failed⟩
      simp only [Episode.Lawful, SslGlobals.returned, Admits]
      cases he : e.context with
      | some ctx =>
          rw [he] at hcontext
          simp [SslGlobals.after, hcontext]
      | none =>
          rw [he] at hcontext
          by_cases hloads : openSsl.LoadsAll
          · simpa [SslGlobals.after, SslGlobals.result_eq_zero_iff, hcontext, hloads] using hfailed
          · simp [SslGlobals.after, SslGlobals.result_eq_zero_iff, hcontext, hloads]
  | createClientContext => rfl
  | dropContext => rfl

end Expected

/-- One call, whatever went before. -/
theorem Expected.Tracks.lawfulAfter {e : Expected} {ssl : SslGlobals} (h : e.Tracks ssl)
    (openSsl : OpenSsl) (call : SslCall) :
    (Episode.mk call openSsl (ssl.returned openSsl call) (ssl.after openSsl call)).LawfulAfter
      e := by
  constructor
  · exact (h.next openSsl call).context
  · cases call with
    | createContext caFile crtFile keyFile password =>
        dsimp only
        split
        next hsome =>
          simp [SslGlobals.returned, h.context, hsome]
        next hnone =>
          intro hfailed herror
          rw [Option.not_isSome_iff_eq_none] at hnone
          by_cases hloads : openSsl.LoadsAll
          · rw [Expected.lawful_iff (h.agrees (hfailed hloads))]
            simp only [Expected.Admits, hnone, if_pos hloads]
            exact hfailed hloads
          · -- a failure takes its result from the queue, whatever went before
            have hcontext := h.context.trans hnone
            simpa [Episode.Lawful, SslGlobals.returned, SslGlobals.after, hcontext, hloads,
              SslGlobals.result_eq_zero_iff] using herror hloads
    | createClientContext => trivial
    | dropContext => trivial

/-- Every history: by induction on it, as long as the calls keep track. -/
theorem holds_of_tracks {m : Memory} {episodes : List Episode} {e : Expected}
    (htracks : e.Tracks m.ssl) (h : History m episodes) : e.Holds episodes := by
  induction h generalizing e with
  | nil m => trivial
  | @cons m m' call openSsl result episodes hrun hrest ih =>
      obtain ⟨rfl, rfl⟩ := perform_returns hrun
      exact ⟨htracks.lawfulAfter openSsl call, ih (htracks.next openSsl call)⟩

/-- The results of a history are lawful exactly when each call is one that the code gets
right: by induction on the history, as long as the globals are what the calls say. -/
theorem lawful_iff_admitsAll {m : Memory} {episodes : List Episode} {e : Expected}
    (hagrees : e.Agrees m.ssl) (h : History m episodes) :
    (∀ episode ∈ episodes, episode.Lawful) ↔
      e.AdmitsAll (episodes.map fun episode => (episode.call, episode.openSsl)) := by
  induction h generalizing e with
  | nil m => simp [Expected.AdmitsAll]
  | @cons m m' call openSsl result episodes hrun hrest ih =>
      obtain ⟨rfl, rfl⟩ := perform_returns hrun
      rw [List.forall_mem_cons, List.map_cons, Expected.AdmitsAll,
        Expected.lawful_iff hagrees]
      constructor
      · rintro ⟨hadmits, hlawful⟩
        exact ⟨hadmits, (ih (hagrees.next hadmits)).mp hlawful⟩
      · rintro ⟨hadmits, hrest⟩
        exact ⟨hadmits, (ih (hagrees.next hadmits)).mpr hrest⟩

theorem Expected.agrees_initial : Expected.Agrees {} {} :=
  ⟨⟨rfl, fun _ => by decide⟩, fun _ => rfl⟩

/-- In a history that begins with the initial globals every result is lawful exactly when
each call is one that the code gets right. -/
theorem history_lawful_iff {m : Memory} {episodes : List Episode} (hstart : m.ssl = {})
    (h : History m episodes) :
    (∀ episode ∈ episodes, episode.Lawful) ↔
      Expected.AdmitsAll {} (episodes.map fun episode => (episode.call, episode.openSsl)) := by
  apply lawful_iff_admitsAll _ h
  rw [hstart]
  exact Expected.agrees_initial

/-- The memory before the first call. -/
def untouched : Memory where
  heap _ := none
  next := 1
  socketsList := SocketsList.empty 0
  outputSocketsList := SocketsList.empty 0
  locals := []

/-- A call that cannot read the certificate, and a second one that can load all files: the
second one returns the error code of the first one. -/
example : ¬Expected.AdmitsAll {}
    [(.createContext (ascii "ca") (ascii "crt") (ascii "key") [], ⟨fun _ => 0, 33558530⟩),
      (.createContext (ascii "ca") (ascii "crt") (ascii "key") [], ⟨fun _ => 1, 0⟩)] := by
  simp [Expected.AdmitsAll, Expected.Admits, Expected.next, OpenSsl.LoadsAll]

/-- What every result means in a history that begins with the initial globals. -/
theorem history_holds {m : Memory} {episodes : List Episode} (hstart : m.ssl = {})
    (h : History m episodes) : Expected.Holds {} episodes := by
  apply holds_of_tracks _ h
  rw [hstart]
  exact Expected.agrees_initial.toTracks

/-- A context is made, dropped, and made again from other files. -/
def recreated : List (SslCall × OpenSsl) :=
  [(.createContext (ascii "ca") (ascii "crt") (ascii "key") [], ⟨fun _ => 1, 0⟩),
    (.dropContext, ⟨fun _ => 1, 0⟩),
    (.createContext (ascii "ca2") (ascii "crt2") (ascii "key2") [], ⟨fun _ => 1, 0⟩)]

theorem recreated_holds :
    ∃ episodes, History untouched episodes ∧
      episodes.map (fun episode => (episode.call, episode.openSsl)) = recreated ∧
      Expected.Holds {} episodes := by
  obtain ⟨episodes, hhistory, hinputs⟩ := exists_history untouched recreated
  exact ⟨episodes, hhistory, hinputs, history_holds rfl hhistory⟩

/-- A context is made, and not dropped before it is to be made again from other files. -/
def reconfigured : List (SslCall × OpenSsl) :=
  [(.createContext (ascii "ca") (ascii "crt") (ascii "key") [], ⟨fun _ => 1, 0⟩),
    (.createContext (ascii "ca2") (ascii "crt2") (ascii "key2") [], ⟨fun _ => 1, 0⟩)]

/-- The second call returns zero and keeps the first context. -/
theorem reconfigured_unlawful :
    ∃ episodes, History untouched episodes ∧
      episodes.map (fun episode => (episode.call, episode.openSsl)) = reconfigured ∧
      ¬∀ episode ∈ episodes, episode.Lawful := by
  obtain ⟨episodes, hhistory, hinputs⟩ := exists_history untouched reconfigured
  refine ⟨episodes, hhistory, hinputs, ?_⟩
  rw [lawful_iff_admitsAll Expected.agrees_initial hhistory, hinputs]
  have hfiles : loadedCtx (ascii "ca") (ascii "crt") (ascii "key") ≠
      loadedCtx (ascii "ca2") (ascii "crt2") (ascii "key2") := by
    decide
  simp [reconfigured, Expected.AdmitsAll, Expected.Admits, Expected.next, OpenSsl.LoadsAll,
    hfiles]

end SocketDispatcher
