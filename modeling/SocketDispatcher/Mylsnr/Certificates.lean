import SocketDispatcher.Evolution
import SocketDispatcher.InitSsl.Histories
import SocketDispatcher.Mylsnr.MainProcess

/-!
# The certificates of the listener

The global context is created before anything else, and a file that cannot be loaded frees it
again.  So the listener either ends before it has a socket, or holds one context for the rest of
its life, with all three files of its command line in it.

Main results:

- Theorem {lit}`sat_createContext_loaded`: a context that {lit}`createContext` leaves behind is
  complete.
- Theorem {lit}`evolves_start` and theorem {lit}`evolves_leaveScope`: nothing else writes it.
- Theorem {lit}`certified`: every call of the listener, but the ones that create the context, is
  made with that context.
-/

namespace SocketDispatcher

open Interaction

/-! ## Creating a context -/

section Specs

variable {W A : Type} {K : Kernel W Call Reply A}
variable {H : Memory → W → Call → Reply → Prop} {G : Memory → W → Call → Prop}
variable {s : Memory} {w : W}

/-- A file is loaded, or the context is freed. -/
theorem sat_sslLoad {what : SslFile} {name : List Byte} {Q : Memory → W → Bool → Prop}
    (hload : Sat K H G (Program.ask (.sslLoad what name)) (fun _ w r =>
      (r.ret = 1 → Q { s with ssl := s.ssl.load what name } w true) ∧
      (r.ret ≠ 1 → Sat K H G (Program.ask .errGetError)
        (fun _ w e => Q { s with ssl := s.ssl.fail e.ret } w false) s w)) s w) :
    Sat K H G (sslLoad what name) Q s w := by
  rw [sslLoad, sat_bind]
  apply hload.ask_mono
  rintro w r ⟨hone, hother⟩
  rw [sat_ite]
  split
  next heq => exact hone heq
  next hne =>
    rw [sat_bind]
    exact (hother hne).ask_mono fun w e hQ => hQ

/-- The context is none, or the given one. -/
def ContextIs (m : Memory) (ctx : SslCtx) : Prop :=
  ∀ ctx' ∈ m.ssl.sslGlobalCtx, ctx' = ctx

theorem ContextIs.load {ctx : SslCtx} (h : ContextIs s ctx) (what : SslFile) (name : List Byte) :
    ContextIs { s with ssl := s.ssl.load what name }
      (match what with
      | .certificateChain => { ctx with certificateChain := some name }
      | .privateKey => { ctx with privateKey := some name }
      | .verifyLocations => { ctx with verifyLocations := some name }) := by
  intro ctx' hctx'
  obtain ⟨ctx'', hctx'', rfl⟩ := Option.map_eq_some_iff.mp hctx'
  obtain rfl := h ctx'' hctx''
  rfl

theorem contextIs_of_none {ctx : SslCtx} (h : s.ssl.sslGlobalCtx = none) : ContextIs s ctx := by
  simp [ContextIs, h]

/-- A context that is created has all three files in it. -/
theorem sat_createContext_loaded {caFile crtFile keyFile password : List Byte}
    (hctx : s.ssl.sslGlobalCtx = none)
    (hnote : ∀ s w, G s w (.note (.createContext caFile crtFile keyFile)))
    (hnew : ∀ s w, G s w .sslCtxNew) (hload : ∀ s w what name, G s w (.sslLoad what name))
    (herror : ∀ s w, G s w .errGetError) :
    Sat K H G (createContext caFile crtFile keyFile password)
      (fun s' _ _ => ContextIs s' (loadedCtx caFile crtFile keyFile)) s w := by
  have hask : ∀ {c : Call} {s : Memory} {w : W} {Q : Memory → W → Reply → Prop},
      (∀ s w, G s w c) → (∀ w r, Q s w r) → Sat K H G (Program.ask c) Q s w := by
    intro c s w Q hG hQ
    rw [sat_ask]
    exact fun w₁ _ => ⟨hG s w₁, fun r w₂ _ _ => hQ w₂ r⟩
  have hreturn : ∀ {s : Memory} {w : W} {ctx : SslCtx}, ContextIs s ctx →
      Sat K H G returnSslError (fun s' _ _ => ContextIs s' ctx) s w := by
    intro s w ctx h
    rw [returnSslError, sat_bind, sat_get]
    exact h
  have hfailed : ∀ {s : Memory} {w : W} {e : Int} {ctx : SslCtx}, Sat K H G returnSslError
      (fun s' _ _ => ContextIs s' ctx) { s with ssl := s.ssl.fail e } w :=
    hreturn (contextIs_of_none rfl)
  rw [createContext, sat_bind, sat_note]
  refine hask hnote fun w _ => ?_
  rw [sat_bind, sat_get, hctx, sat_ite, if_neg (by decide), sat_bind, modifySsl, sat_modify,
    sat_bind]
  refine hask hnew fun w r => ?_
  rw [sat_bind, modifySsl, sat_modify]
  -- with a context or without one, each load fills in one more file
  let created : SslGlobals :=
    { s.ssl with
      keyFilePassword := password
      sslGlobalCtx := if r.ret = 0 then none else some {} }
  have hempty : ContextIs { s with ssl := created } {} := by
    intro ctx hctx
    dsimp only [created] at hctx
    split at hctx
    · contradiction
    · exact (Option.some.inj hctx).symm
  have hcertificate := hempty.load .certificateChain crtFile
  have hkey := hcertificate.load .privateKey keyFile
  have hca := hkey.load .verifyLocations caFile
  rw [sat_bind]
  apply sat_sslLoad
  refine hask (fun s w => hload s w _ _) fun w r => ⟨fun _ => ?_, fun _ => ?_⟩
  · rw [sat_ite, if_pos rfl, sat_bind]
    apply sat_sslLoad
    refine hask (fun s w => hload s w _ _) fun w r => ⟨fun _ => ?_, fun _ => ?_⟩
    · rw [sat_ite, if_pos rfl, sat_bind]
      apply sat_sslLoad
      refine hask (fun s w => hload s w _ _) fun w r => ⟨fun _ => hreturn hca, fun _ => ?_⟩
      exact hask herror fun w e => hfailed
    · exact hask herror fun w e => hfailed
  · exact hask herror fun w e => hfailed

end Specs

/-! ## Nothing else writes it -/

namespace Mylsnr

section Evolves

variable {T : Memory → Memory → Prop} (hT : Enduring T)
include hT

theorem evolves_createListener (family : AddressFamily) (second : Int → Call)
    (address : SocketAddress) (queueLength : Nat)
    (listener : (socketfd : Int) → socketfd ≠ FREE_SOCKET → Socket) :
    Evolves T (createListener family second address queueLength listener) := by
  refine evolves_bind (evolves_ask _) fun socketfd => ?_
  split
  · exact evolves_pure _
  · refine evolves_bind (evolves_ask _) fun _ => ?_
    refine evolves_bind (evolves_ask _) fun bound => evolves_ite (evolves_pure _) ?_
    refine evolves_bind (evolves_ask _) fun listening => evolves_ite (evolves_pure _) ?_
    exact evolves_makeShared hT _

theorem evolves_start (iterations : Nat) : Evolves T (start iterations) := by
  have hhold : ∀ p, Evolves T (hold p) := fun p => evolves_modify fun m => hT.same _ _ rfl rfl
  refine evolves_bind (evolves_createListener hT _ _ _ _ _) fun tcpListenerSocket => ?_
  refine evolves_bind (hhold _) fun _ => ?_
  refine evolves_bind (evolves_createListener hT _ _ _ _ _) fun unixListenerSocket => ?_
  refine evolves_bind (hhold _) fun _ => ?_
  refine evolves_bind evolves_create_dispatcher fun _ => ?_
  refine evolves_bind (evolves_putSocket hT _) fun _ => ?_
  refine evolves_bind (evolves_putSocket hT _) fun _ => ?_
  refine evolves_bind (evolves_mainLoop hT iterations) fun _ => ?_
  refine evolves_bind evolves_sayGoodbyeToAllDispatchers fun _ => ?_
  exact evolves_bind evolves_wait_disp_child fun _ => evolves_pure _

theorem evolves_leaveScope
    (hclear : ∀ m : Memory, T m { m with socketsList := m.socketsList.clear }) :
    Evolves T leaveScope := by
  refine evolves_bind (evolves_clearOutput hT) fun _ => ?_
  refine evolves_bind (evolves_get_bind fun m => ?_) fun _ => evolves_get_bind fun m => ?_
  · exact evolvesFrom_set_bind (hclear m) (evolves_forEach (evolves_release hT) _)
  · refine evolves_forEach (fun p => ?_) _ m
    refine evolves_bind (evolves_modify fun m => hT.same _ _ rfl rfl) fun _ => ?_
    refine evolves_bind (evolves_get_bind fun m => ?_) fun _ => evolves_release hT p
    split
    · exact evolves_pure _ m
    · exact evolves_when (evolves_bind (evolves_ask _) fun _ => evolves_pure _) m

end Evolves

/-! ## Whole runs -/

/-- The context of a command line. -/
def contextOf (args : List Argument) : SslCtx :=
  loadedCtx (settings args).caFile (settings args).certFile (settings args).keyFile

/-- The calls of {lit}`createContext`. -/
def Creating : Call → Prop
  | .sslCtxNew | .sslLoad .. | .errGetError | .note (.createContext ..) => True
  | _ => False

/-- Every other call is made with the context of the command line. -/
def Certified {W : Type} (args : List Argument) (m : Memory) (_ : W) (c : Call) : Prop :=
  Creating c ∨ m.ssl.sslGlobalCtx = some (contextOf args)

/-- For every command line and in any surroundings: every call of the listener, every handshake
with a client among them, is made with the certificate, the key and the CA file of the command
line in the global context, or it is one of those that create the context. -/
theorem certified {W A : Type} (K : Kernel W Call Reply A)
    (H : Memory → W → Call → Reply → Prop) (w : W) (args : List Argument) (iterations : Nat) :
    Safe K H (Certified args) ⟨booted {}, w, mainProcess args iterations⟩ := by
  have hsame : Enduring fun m m' : Memory => m'.ssl = m.ssl :=
    ⟨fun m m' _ hssl => hssl, fun _ _ => rfl, fun _ _ => rfl⟩
  have hkeeps : ∀ {α : Type} {p : Proc α} {s w}, Evolves (fun m m' => m'.ssl = m.ssl) p →
      s.ssl.sslGlobalCtx = some (contextOf args) → Sat K H (Certified args) p
        (fun s' _ _ => s'.ssl.sslGlobalCtx = some (contextOf args)) s w := by
    intro α p s w hevolves hctx
    refine (hevolves s).sat ?_ (fun s w c h => Or.inr h) hctx
    exact fun s s' hssl h => hssl ▸ h
  apply Sat.safe
  apply sat_mainProcess
  apply (sat_createContext_loaded rfl (fun _ _ => Or.inl trivial) (fun _ _ => Or.inl trivial)
    (fun _ _ _ _ => Or.inl trivial) fun _ _ => Or.inl trivial).mono
  intro s w _ hcontext
  refine ⟨trivial, fun hsome => ?_⟩
  obtain ⟨ctx, hctx⟩ := Option.isSome_iff_exists.mp hsome
  have hloaded : s.ssl.sslGlobalCtx = some (contextOf args) := by
    rw [hctx, hcontext ctx hctx]
    rfl
  apply (hkeeps (evolves_start hsame iterations) hloaded).mono
  intro s w _ hloaded
  apply (hkeeps (evolves_leaveScope hsame fun _ => rfl) hloaded).mono
  exact fun _ _ _ _ _ => trivial

end Mylsnr

end SocketDispatcher
