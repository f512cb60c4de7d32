import SocketDispatcher.Evolution
import SocketDispatcher.InitSsl.Histories
import SocketDispatcher.Mydisp.Rules

/-!
# The life of a loaded context

{lit}`createContext` looks at the global context first, and nothing else in the dispatcher
writes it.  So the first context whose three files could be loaded is the last one, whatever
configurations follow.

Main results:

- Theorem {lit}`keeps_createContext`: a loaded context outlives {lit}`createContext`.
- Theorem {lit}`context_stays`: in every run of the dispatcher, once the context has been
  loaded, it is the same at every later moment.
- Theorem {lit}`reconfigured_context_stays`: a dispatcher that is configured twice.
-/

namespace SocketDispatcher

open Interaction

/-- The three files of one configuration are in the global context. -/
def Loaded (m : Memory) : Prop :=
  ∃ caFile crtFile keyFile, m.ssl.sslGlobalCtx = some (loadedCtx caFile crtFile keyFile)

/-- What holds of the contexts of two memories, the earlier and the later one. -/
def Keeps (m m' : Memory) : Prop :=
  Loaded m → m'.ssl.sslGlobalCtx = m.ssl.sslGlobalCtx

theorem Keeps.refl (m : Memory) : Keeps m m :=
  fun _ => rfl

theorem Loaded.congr {m m' : Memory} (h : Loaded m)
    (hctx : m'.ssl.sslGlobalCtx = m.ssl.sslGlobalCtx) : Loaded m' := by
  obtain ⟨caFile, crtFile, keyFile, hloaded⟩ := h
  exact ⟨caFile, crtFile, keyFile, hctx.trans hloaded⟩

theorem Keeps.trans {m m' m'' : Memory} (h : Keeps m m') (h' : Keeps m' m'') :
    Keeps m m'' := by
  intro hloaded
  exact (h' (hloaded.congr (h hloaded))).trans (h hloaded)

theorem enduring_keeps : Enduring Keeps where
  same m m' _ hssl := fun _ => by rw [hssl]
  putSocket m p := Keeps.refl m
  delSocket m d := Keeps.refl m

/-! ## Creating a context -/

/-- The context lacks its last file. -/
def Unverified (ssl : SslGlobals) : Prop :=
  ∀ ctx ∈ ssl.sslGlobalCtx, ctx.verifyLocations = none

theorem Unverified.keeps {m : Memory} (h : Unverified m.ssl) (m' : Memory) : Keeps m m' := by
  rintro ⟨caFile, crtFile, keyFile, hloaded⟩
  have hnone := h _ hloaded
  contradiction

/-- The first two files do not complete a context. -/
theorem Unverified.load {ssl : SslGlobals} (h : Unverified ssl) {what : SslFile}
    (hwhat : what ≠ .verifyLocations) (name : List Byte) : Unverified (ssl.load what name) := by
  intro ctx hctx
  obtain ⟨ctx', hctx', rfl⟩ := Option.map_eq_some_iff.mp hctx
  cases what with
  | certificateChain => exact h ctx' hctx'
  | privateKey => exact h ctx' hctx'
  | verifyLocations => contradiction

/-- Loading a file into a context that lacks its last one. -/
theorem keeps_sslLoad_bind {α : Type} {what : SslFile} {name : List Byte} {m : Memory}
    {f : Bool → Proc α} (h : Unverified m.ssl)
    (htrue : EvolvesFrom Keeps (f true) { m with ssl := m.ssl.load what name })
    (hfalse : Evolves Keeps (f false)) : EvolvesFrom Keeps (sslLoad what name >>= f) m := by
  intro r
  change EvolvesFrom Keeps ((if r.ret = 1 then do
      modifySsl (·.load what name)
      pure true
    else do
      let e ← Program.ask .errGetError
      modifySsl (·.fail e.ret)
      pure false) >>= f) m
  split
  next => exact ⟨h.keeps _, htrue⟩
  next => exact fun e => ⟨h.keeps _, hfalse _⟩

theorem keeps_createContext : Creates Keeps := by
  have hreturn : Evolves Keeps returnSslError := evolves_get_bind fun m => evolves_pure _ m
  intro ca crt key password
  refine evolves_bind (evolves_note _) fun _ => evolves_get_bind fun m => ?_
  cases hctx : m.ssl.sslGlobalCtx with
  | some ctx => exact evolves_pure _ m
  | none =>
      have hnone : Unverified m.ssl := by simp [Unverified, hctx]
      refine ⟨hnone.keeps _, fun r => ⟨Unverified.keeps (by simp [Unverified, hctx]) _, ?_⟩⟩
      have hnew : Unverified { m.ssl with
          keyFilePassword := password
          sslGlobalCtx := if r.ret = 0 then none else some {} } := by
        intro ctx hctx
        dsimp only at hctx
        split at hctx
        · contradiction
        · obtain rfl := Option.some.inj hctx
          rfl
      refine keeps_sslLoad_bind hnew ?_ hreturn
      have hcertified := hnew.load (by decide : SslFile.certificateChain ≠ .verifyLocations) crt
      refine keeps_sslLoad_bind hcertified ?_ hreturn
      have hkeyed := hcertified.load (by decide : SslFile.privateKey ≠ .verifyLocations) key
      exact keeps_sslLoad_bind hkeyed (hreturn _) hreturn

/-! ## Whole runs -/

/-- The dispatcher, from any memory and in any surroundings: once the context has been loaded,
it is the same at every later moment of the run. -/
theorem context_stays {W A : Type} {K : Kernel W Call Reply A}
    {H : Memory → W → Call → Reply → Prop} {fuel cycles : Nat} {m : Memory} {w : W}
    {cfg cfg' : Config Memory W Call Reply Unit}
    (hearlier : Reaches K H ⟨m, w, Mydisp.mainLoop Mydisp.unixSocket fuel cycles⟩ cfg)
    (hloaded : Loaded cfg.memory) (hlater : Reaches K H cfg cfg') :
    cfg'.memory.ssl.sslGlobalCtx = cfg.memory.ssl.sslGlobalCtx := by
  have hevolves : Evolves Keeps (Mydisp.mainLoop Mydisp.unixSocket fuel cycles) :=
    Mydisp.evolves_mainLoop enduring_keeps keeps_createContext Mydisp.unixSocket fuel cycles
  exact hevolves.reaches Keeps.refl (fun _ _ _ => Keeps.trans) hearlier hlater hloaded

/-- The second configuration names other files.  The dispatcher remembers their names, and
keeps the context of the first one. -/
theorem reconfigured_context_stays :
    ∃ cfg cfg' : Config Memory Unit Call Reply Unit,
      Reaches oblivious anyReply
        ⟨Mydisp.started 3, (), Mydisp.mainLoop Mydisp.unixSocket 1 2⟩ cfg ∧
      Reaches oblivious anyReply cfg cfg' ∧
      cfg'.memory.appCfg ≠ cfg.memory.appCfg ∧
      cfg'.memory.ssl.sslGlobalCtx = cfg.memory.ssl.sslGlobalCtx := by
  let start : Config Memory Unit Call Reply Unit :=
    ⟨Mydisp.started 3, (), Mydisp.mainLoop Mydisp.unixSocket 1 2⟩
  let first : ApplicationConfig :=
    { caFile := ascii "a", certFile := ascii "c", keyFile := ascii "k" }
  let second : ApplicationConfig :=
    { caFile := ascii "b", certFile := ascii "d", keyFile := ascii "l" }
  let message (names : ApplicationConfig) := Mylsnr.configLabel ++ Mylsnr.configText 1 names
  have hfirst : (exec oblivious start (Mydisp.configured true (message first))).map (fun cfg =>
      (cfg.memory.appCfg, cfg.memory.ssl.sslGlobalCtx)) =
        some (first, some (loadedCtx first.caFile first.certFile first.keyFile)) := by
    decide
  have hsecond : (exec oblivious start (Mydisp.configured true (message first) ++
      Mydisp.configured false (message second))).map (·.memory.appCfg) = some second := by
    decide
  obtain ⟨cfg, hearlier, hstate⟩ := Option.map_eq_some_iff.mp hfirst
  obtain ⟨cfg', hlater, happCfg'⟩ := Option.map_eq_some_iff.mp hsecond
  rw [exec_append, hearlier, Option.bind_some] at hlater
  obtain ⟨happCfg, hctx⟩ := Prod.mk.inj hstate
  have hreaches := reaches_of_exec hearlier
  have hreaches' := reaches_of_exec hlater
  refine ⟨cfg, cfg', hreaches, hreaches', ?_, ?_⟩
  · rw [happCfg, happCfg']
    decide
  · exact context_stays hreaches ⟨_, _, _, hctx⟩ hreaches'

end SocketDispatcher
