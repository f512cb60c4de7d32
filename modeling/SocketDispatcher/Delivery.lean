import SocketDispatcher.ApplicationConfig.CommandLine
import SocketDispatcher.Mydisp.Agreement
import SocketDispatcher.Mylsnr.Connections

/-!
# Delivery of the configuration

From the command line of the listener to the OpenSSL context of a dispatcher, in the
system of both programs.

Main results:

- Theorem {lit}`carriable_settings`: ordinary command lines give file names that a
  configuration message can carry.
- Theorem {lit}`safe_system`: what is safe on the link is safe in the system.
- Theorem {lit}`delivers`: every file that the dispatcher loads into its context is the
  one of its kind on the listener's command line.

Current gaps:

- The system begins with both listening sockets created.
-/

namespace SocketDispatcher

open Interaction

/-! ## The settings of the listener -/

namespace Mylsnr

/-- A value that fits into one line of the configuration message, whatever its keyword. -/
def OneLine (value : List Byte) : Prop :=
  0 ∉ value ∧ Mydisp.newline ∉ value ∧ value.length < 256 - CERTFILE.length

instance (value : List Byte) : Decidable (OneLine value) :=
  inferInstanceAs (Decidable (_ ∧ _ ∧ _))

/-- If every value fits into one line, so do the names. -/
theorem carriable_settings {args : List Argument} (hargs : ∀ arg ∈ args, OneLine arg.value) :
    Mydisp.Carriable (settings args) := by
  have hlast : ∀ letter, OneLine (lastOption letter (ApplicationType.LISTENER.read args) []) := by
    intro letter
    exact StableReordering.lastValue_keeps (by decide) fun arg harg _ =>
      hargs arg (ApplicationConfigImpl.mem_read harg).1
  rcases settings_eq args with hsettings | hsettings
  · rw [hsettings]
    exact Mydisp.carriable_defaultSettings
  · rw [hsettings, ApplicationConfigImpl.create_listener_names]
    obtain ⟨hca, hca', hcaLength⟩ := hlast 'a'
    obtain ⟨hcert, hcert', hcertLength⟩ := hlast 'c'
    obtain ⟨hkey, hkey', hkeyLength⟩ := hlast 'k'
    have hkeywords : CAFILE.length = 7 ∧ CERTFILE.length = 9 ∧ KEYFILE.length = 8 := by decide
    refine ⟨⟨hca, hca'⟩, ⟨hcert, hcert'⟩, ⟨hkey, hkey'⟩, ?_⟩
    simp only [List.length_append]
    omega

end Mylsnr

/-! ## The system -/

/-- What is safe on the link is safe in the system of both programs. -/
theorem safe_system {tcp unix before iterations : Nat} {descriptor : Int}
    {names : ApplicationConfig} {others : List Int}
    {H : Memory → Mydisp.Link → Call → Reply → Prop} {G : Memory → Mydisp.Link → Call → Prop}
    {α : Type} {m : Memory} {p : Proc α}
    (h : Safe (Mydisp.link descriptor names) H G ⟨m, {}, p⟩) :
    Safe (Mylsnr.system unix descriptor names) (fun m listener => H m listener.world.link)
      (fun m listener => G m listener.world.link)
      ⟨m, Mylsnr.booting tcp unix names others before iterations, p⟩ :=
  Safe.simulate (Mylsnr.system_simulates unix descriptor names) h
    (Mylsnr.wired_main tcp unix iterations before descriptor names others)

/-- Every file that is loaded into a context is the one of its kind among the names. -/
def LoadsFrom (names : ApplicationConfig) (_ : Memory) (_ : Mydisp.Link) : Call → Prop
  | .sslLoad what name => name = Mydisp.fileName names what
  | _ => True

theorem loadsFrom_allows (names : ApplicationConfig) : Mydisp.Allows names (LoadsFrom names) where
  unrelated s w c hc := by
    cases c with
    | sslLoad => exact hc.elim
    | _ => trivial
  loading s w c happCfg hc := by
    cases c with
    | sslLoad => exact hc
    | _ => trivial

/-- The dispatcher on the link, as long as it receives its configuration whole. -/
theorem safe_link (descriptor fuel cycles : Nat) {names : ApplicationConfig}
    (hnames : Mydisp.Carriable names) :
    Safe (Mydisp.link descriptor names) (Mydisp.Complete names) (LoadsFrom names)
      ⟨Mydisp.started descriptor, {}, Mydisp.mainLoop Mydisp.unixSocket fuel cycles⟩ := by
  have hallows := loadsFrom_allows names
  apply Sat.safe
  apply Mydisp.sat_mainLoop_messages descriptor (Mydisp.Consistent names)
  · intro appCfg
    exact (hallows.consistent_quiet _ hnames appCfg).mono (fun _ hI => hI) fun c hc =>
      ⟨Mydisp.elsewhere_of_ordinary c hc, Mydisp.unrelated_of_ordinary c hc⟩
  · intro _ _
    trivial
  · intro s w hs hR
    apply (hallows.dispatcherProcess hnames hs hR).mono
    rintro s' w ok ⟨hs', houtput, h⟩
    have hquiet := hallows.consistent_quiet descriptor hnames s'.appCfg
    exact sat_note_quiet hquiet (by exact ⟨trivial, trivial⟩) trivial h
      fun w h _ => ⟨hs', h, houtput⟩
  · exact Mydisp.shape_started descriptor
  · exact Mydisp.consistent_started names

/-- For every command line of the listener whose values fit into one line, and for every
interleaving of the listener's calls with the dispatcher's steps: as long as the dispatcher
receives its configuration whole, every certificate, key and CA file that it loads is the
one that this command line names, or the listener's default if names are missing. -/
theorem delivers {args : List Argument} (hargs : ∀ arg ∈ args, Mylsnr.OneLine arg.value)
    (tcp unix before iterations descriptor fuel cycles : Nat) (others : List Int) :
    Safe (Mylsnr.system unix descriptor (Mylsnr.settings args))
      (fun m listener => Mydisp.Complete (Mylsnr.settings args) m listener.world.link)
      (fun m listener => LoadsFrom (Mylsnr.settings args) m listener.world.link)
      ⟨Mydisp.started descriptor,
        Mylsnr.booting tcp unix (Mylsnr.settings args) others before iterations,
        Mydisp.mainLoop Mydisp.unixSocket fuel cycles⟩ :=
  safe_system (safe_link descriptor fuel cycles (Mylsnr.carriable_settings hargs))

/-- The command of the README, and a dispatcher that is the second to connect. -/
theorem delivers_readmeOptions :
    Safe (Mylsnr.system 4 3 (Mylsnr.settings ApplicationConfigImpl.readmeOptions))
      (fun m listener => Mydisp.Complete
        (Mylsnr.settings ApplicationConfigImpl.readmeOptions) m listener.world.link)
      (fun m listener => LoadsFrom
        (Mylsnr.settings ApplicationConfigImpl.readmeOptions) m listener.world.link)
      ⟨Mydisp.started 3,
        Mylsnr.booting 3 4 (Mylsnr.settings ApplicationConfigImpl.readmeOptions) [] 1 5,
        Mydisp.mainLoop Mydisp.unixSocket 2 4⟩ :=
  delivers (by decide) 3 4 1 5 3 2 4 []

end SocketDispatcher
