import SocketDispatcher.Library.Evolution
import SocketDispatcher.Mydisp
import SocketDispatcher.Mylsnr

/-!
# How the programs write their memory

A relation between an earlier and a later memory holds between any two moments of a run
if it holds across every single write.  Outside {lit}`createContext` both programs write
few things that can matter: the sockets list changes by {lit}`putSocket` and
{lit}`delSocket` only, and the globals of OpenSSL do not change.

Main results:

- Definition {lit}`Enduring`: what a relation has to allow.
- Theorem {lit}`Mydisp.evolves_mainLoop` and theorem {lit}`Mylsnr.evolves_main`: then it
  holds along the runs of both programs.
-/

namespace SocketDispatcher

open Interaction

/-- The relation allows what the operations of both programs do to the sockets list, and
everything that changes neither that list nor the globals of OpenSSL. -/
structure Enduring (T : Memory → Memory → Prop) : Prop where
  same : ∀ m m', m'.socketsList = m.socketsList → m'.ssl = m.ssl → T m m'
  putSocket : ∀ m p, T m { m with socketsList := (m.socketsList.putSocket p).1 }
  delSocket : ∀ (m : Memory) d, T m
    { m with socketsList := (SocketsList.delSocket m.descriptorOf m.socketsList d).1 }

/-- The relation allows what {lit}`createContext` does. -/
def Creates (T : Memory → Memory → Prop) : Prop :=
  ∀ caFile crtFile keyFile password,
    Evolves T (createContext caFile crtFile keyFile password)

variable {T : Memory → Memory → Prop}

/-! ## Operations on objects -/

theorem evolves_note (n : Note) : Evolves T (note n) :=
  evolves_bind (evolves_ask _) fun _ => evolves_pure _

theorem evolves_crash {α : Type} : Evolves T (crash : Proc α) :=
  fun _ _ => trivial

theorem evolves_deref_bind {α : Type} (p : Ptr) {f : Socket → Proc α}
    (hf : ∀ socket, Evolves T (f socket)) : Evolves T (deref p >>= f) := by
  rw [deref_bind]
  intro s
  dsimp only [EvolvesFrom]
  cases s.heap p with
  | some socket => exact hf socket s
  | none => exact evolves_crash s

theorem evolves_read (p : Ptr) (buffer : List Byte) (bufferSize : Nat) :
    Evolves T (read p buffer bufferSize) :=
  evolves_deref_bind p fun _ => evolves_ite
    (evolves_bind (evolves_ask _) fun _ => evolves_pure _)
    (evolves_bind (evolves_ask _) fun _ => evolves_pure _)

theorem evolves_write (p : Ptr) (message : List Byte) : Evolves T (write p message) :=
  evolves_deref_bind p fun _ => evolves_ite
    (evolves_bind (evolves_ask _) fun _ => evolves_pure _)
    (evolves_bind (evolves_ask _) fun _ => evolves_pure _)

/-- Creating a context writes the globals of {lit}`InitSsl.cpp`. -/
theorem creates_of_ssl (hssl : ∀ (m : Memory) ssl, T m { m with ssl := ssl }) : Creates T := by
  have hmodify : ∀ f, Evolves T (modifySsl f) := fun f => evolves_modify fun m => hssl m _
  have hload : ∀ what name, Evolves T (sslLoad what name) := by
    intro what name
    refine evolves_bind (evolves_ask _) fun r => evolves_ite ?_ ?_
    · exact evolves_bind (hmodify _) fun _ => evolves_pure _
    · refine evolves_bind (evolves_ask _) fun e => ?_
      exact evolves_bind (hmodify _) fun _ => evolves_pure _
  have hreturn : Evolves T returnSslError := evolves_get_bind fun m => evolves_pure _ m
  intro ca crt key password
  refine evolves_bind (evolves_note _) fun _ => evolves_get_bind fun m => ?_
  refine evolves_ite (evolves_pure _) (evolves_bind (hmodify _) fun _ => ?_) m
  refine evolves_bind (evolves_ask _) fun r => evolves_bind (hmodify _) fun _ => ?_
  refine evolves_bind (hload _ _) fun certified => evolves_ite ?_ hreturn
  refine evolves_bind (hload _ _) fun keyed => evolves_ite ?_ hreturn
  exact evolves_bind (hload _ _) fun _ => hreturn

section Operations

variable (hT : Enduring T)
include hT

theorem evolves_modifySocket (p : Ptr) (f : Socket → Socket) :
    Evolves T (modifySocket p f) :=
  evolves_modify fun _ => hT.same _ _ rfl rfl

theorem evolves_makeShared (socket : Socket) : Evolves T (makeShared socket) :=
  evolves_get_bind fun _ => evolvesFrom_set_bind (hT.same _ _ rfl rfl) (evolves_pure _)

theorem evolves_destroy (p : Ptr) : Evolves T (destroy p) := by
  apply evolves_get_bind
  intro m
  cases m.heap p with
  | none => exact evolves_pure _ m
  | some socket =>
      refine evolvesFrom_set_bind (hT.same _ _ rfl rfl) (evolves_ite (evolves_pure _) ?_)
      exact evolves_bind (evolves_ask _) fun _ => evolves_pure _

theorem evolves_release (p : Ptr) : Evolves T (release p) :=
  evolves_get_bind fun m => evolves_ite (evolves_pure _) (evolves_destroy hT p) m

theorem evolves_putSocket (p : Ptr) : Evolves T (putSocket p) := by
  apply evolves_get_bind
  intro m
  refine evolvesFrom_set_bind (hT.putSocket m p) ?_
  exact evolves_bind (evolves_note _) fun _ => evolves_pure _

theorem evolves_delSocket (p : Ptr) : Evolves T (delSocket p) := by
  apply evolves_get_bind
  intro m
  refine evolvesFrom_set_bind (hT.delSocket m _) ?_
  refine evolves_bind (evolves_note _) fun _ => evolves_bind (evolves_when ?_) fun _ =>
    evolves_pure _
  cases m.socketsList.sockets.find? (m.descriptorOf · == m.descriptorOf p) with
  | some q => exact evolves_release hT q
  | none => exact evolves_pure _

theorem evolves_clearOutput : Evolves T clearOutput := by
  apply evolves_get_bind
  intro m
  exact evolvesFrom_set_bind (hT.same _ _ rfl rfl) (evolves_forEach (evolves_release hT) _)

theorem evolves_pollSockets : Evolves T pollSockets := by
  apply evolves_get_bind
  intro m
  dsimp only
  split
  · exact evolves_crash m
  · have hreset := m.resetAll_eq m.socketsList.sockets
    refine evolvesFrom_set_bind (hT.same _ _ (by rw [hreset]) (by rw [hreset])) ?_
    refine evolves_bind (evolves_ask _) fun r => evolves_ite ?_ (evolves_ite ?_ ?_)
    · exact evolves_ite (evolves_pure _) (evolves_pure _)
    · exact evolves_pure _
    · refine evolves_bind (evolves_modify fun m' => ?_) fun _ => evolves_pure _
      have hcollect := m'.collect_eq m.socketsList.sockets r.revents
      exact hT.same _ _ (by rw [hcollect]) (by rw [hcollect])

end Operations

/-! ## The dispatcher -/

namespace Mydisp

section Dispatcher

variable (hT : Enduring T)
include hT

theorem evolves_allocControl : Evolves T allocControl := by
  apply evolves_get_bind
  intro m
  cases m.cmptr with
  | some _ => exact evolves_pure _ m
  | none =>
      refine evolves_bind (evolves_ask _) (fun r => ?_) m
      cases r.data with
      | none => exact evolves_pure _
      | some content =>
          exact evolves_bind (evolves_modify fun m => hT.same _ _ rfl rfl) fun _ => evolves_pure _

theorem evolves_createSocketLoop (unixSocket : Ptr) (fuel : Nat) (buf : List Byte)
    (status : Int) : Evolves T (createSocketLoop unixSocket fuel buf status) := by
  induction fuel generalizing buf status with
  | zero => exact evolves_cut
  | succ fuel ih =>
      refine evolves_bind (evolves_allocControl hT) fun _ => evolves_ite ?_ (evolves_pure _)
      refine evolves_deref_bind unixSocket fun socket => ?_
      refine evolves_bind (evolves_ask _) fun r => evolves_ite (evolves_pure _) ?_
      refine evolves_bind (evolves_modify fun m => hT.same _ _ rfl rfl) fun _ => ?_
      apply evolves_get_bind
      intro m
      refine evolves_ite ?_ (ih _ _) m
      rw [makeTcpSocket]
      split
      · exact evolves_makeShared hT _
      · exact evolves_pure _

theorem evolves_createSocket (unixSocket : Ptr) (fuel : Nat) :
    Evolves T (createSocket unixSocket fuel) := by
  refine evolves_bind (evolves_ask _) fun buf => ?_
  refine evolves_bind (evolves_createSocketLoop hT unixSocket fuel _ _) fun p => ?_
  exact evolves_get_bind fun m => evolves_bind (evolves_note _) (fun _ => evolves_pure _) m

theorem evolves_acceptClient (p : Ptr) : Evolves T (acceptClient p) := by
  have hmake : Evolves T (makeSslSocket p) := by
    refine evolves_deref_bind p fun socket => evolves_get_bind fun m =>
      evolves_ite evolves_crash ?_ m
    refine evolves_bind (evolves_makeShared hT _) fun _ => ?_
    refine evolves_bind (evolves_modifySocket hT _ _) fun _ => ?_
    exact evolves_bind (evolves_release hT _) fun _ => evolves_pure _
  refine evolves_bind hmake fun q => evolves_bind (evolves_putSocket hT q) fun stored => ?_
  refine evolves_bind (evolves_when ?_) fun _ => ?_
  · exact evolves_bind (evolves_write _ _) fun _ => evolves_pure _
  · refine evolves_bind (evolves_modifySocket hT _ _) fun _ => ?_
    exact evolves_bind (evolves_modifySocket hT _ _) fun _ => evolves_release hT _

theorem evolves_processClient (p : Ptr) : Evolves T (processClient p) := by
  have hanswer : Evolves T (answerClient p) := by
    refine evolves_deref_bind p fun socket => evolves_ite ?_ (evolves_pure _)
    cases socket.clientStatus with
    | HELLO =>
        refine evolves_bind (evolves_write _ _) fun bytes => ?_
        exact evolves_bind (evolves_modifySocket hT _ _) fun _ => evolves_pure _
    | ECHO => exact evolves_bind (evolves_write _ _) fun bytes => evolves_pure _
    | BYE => exact evolves_bind (evolves_write _ _) fun bytes => evolves_pure _
    | NONE => exact evolves_pure _
  refine evolves_deref_bind p fun socket => evolves_ite (evolves_pure _) (evolves_ite ?_ hanswer)
  refine evolves_bind (evolves_ask _) fun buffer => ?_
  refine evolves_bind (evolves_read _ _ _) fun bytes => ?_
  refine evolves_ite ?_ (evolves_ite ?_ (evolves_pure _))
  · exact evolves_bind (evolves_write _ _) fun written => evolves_ite (evolves_pure _) hanswer
  · refine evolves_bind (evolves_when (evolves_modifySocket hT _ _)) fun _ => ?_
    exact evolves_bind (evolves_modifySocket hT _ _) fun _ => hanswer

section Configuration

variable (hcreate : Creates T)
include hcreate

theorem evolves_processConfig (bufferConfig : List Byte)
    (bufferSize : Nat) : Evolves T (processConfig bufferConfig bufferSize) := by
  refine evolves_bind (evolves_ask _) fun lineBuffer => ?_
  refine evolves_bind (evolves_modify fun m => hT.same _ _ rfl rfl) fun _ => ?_
  exact evolves_get_bind fun m => evolves_bind (hcreate _ _ _ _) (fun _ => evolves_pure _) m

theorem evolves_dispatcherProcess (unixSocket : Ptr) (fuel : Nat) :
    Evolves T (dispatcherProcess unixSocket fuel) := by
  refine evolves_deref_bind unixSocket fun socket => evolves_ite (evolves_pure _) ?_
  refine evolves_bind (evolves_ask _) fun message => evolves_bind (evolves_ask _) fun r => ?_
  refine evolves_ite (evolves_pure _) (evolves_ite ?_ (evolves_ite ?_ ?_))
  · refine evolves_bind (evolves_createSocket hT unixSocket fuel) fun p => ?_
    refine evolves_ite (evolves_pure _) ?_
    exact evolves_bind (evolves_acceptClient hT p) fun _ => evolves_pure _
  · refine evolves_bind (evolves_ask _) fun configBuffer => ?_
    refine evolves_bind (evolves_ask _) fun r => evolves_ite (evolves_pure _) ?_
    exact evolves_processConfig hT hcreate _ _
  · exact evolves_ite (evolves_pure _) (evolves_pure _)

theorem evolves_cycle (unixSocket : Ptr) (fuel : Nat) :
    Evolves T (cycle unixSocket fuel) := by
  have hpoll : ∀ p, Evolves T (pollClientForRead p) :=
    fun p => evolves_deref_bind p fun _ => evolves_when (evolves_modifySocket hT _ _)
  have hprocess : ∀ p, Evolves T (processReEvents unixSocket fuel p) := by
    intro p
    refine evolves_deref_bind p fun socket => evolves_ite ?_ (evolves_ite ?_ (evolves_pure _))
    · refine evolves_bind (evolves_dispatcherProcess hT hcreate unixSocket fuel) fun result => ?_
      exact evolves_bind (evolves_note _) fun _ => evolves_pure _
    · refine evolves_bind (evolves_processClient hT p) fun result => ?_
      refine evolves_bind (evolves_when ?_) fun _ => evolves_pure _
      refine evolves_bind (evolves_note _) fun _ => ?_
      exact evolves_bind (evolves_delSocket hT p) fun _ => evolves_pure _
  have hhandle : ∀ errorType, Evolves T (handlePoll unixSocket fuel errorType) := by
    intro errorType
    cases errorType with
    | NONE => exact evolves_get_bind fun m => evolves_forUntil hprocess _ m
    | _ => exact evolves_pure _
  refine evolves_bind (evolves_note _) fun _ => ?_
  refine evolves_bind (evolves_modifySocket hT _ _) fun _ => ?_
  refine evolves_bind (evolves_clearOutput hT) fun _ => evolves_get_bind fun m => ?_
  refine evolves_bind (evolves_forEach hpoll _) (fun _ => ?_) m
  refine evolves_bind (evolves_pollSockets hT) fun errorType => ?_
  refine evolves_bind (hhandle errorType) fun failed => ?_
  exact evolves_bind (evolves_note _) fun _ => evolves_pure _

theorem evolves_mainLoop (unixSocket : Ptr) (fuel cycles : Nat) :
    Evolves T (mainLoop unixSocket fuel cycles) :=
  evolves_repeatUntil (evolves_cycle hT hcreate unixSocket fuel) cycles

end Configuration

end Dispatcher

end Mydisp

/-! ## The listener -/

namespace Mylsnr

theorem evolves_create_dispatcher : Evolves T create_dispatcher := by
  refine evolves_bind (evolves_ask _) fun r => evolves_ite (evolves_pure _) ?_
  refine evolves_ite (evolves_bind (evolves_ask _) fun _ => ?_) (evolves_pure _)
  exact evolves_crash

theorem evolves_wait_disp_child : Evolves T wait_disp_child :=
  evolves_bind (evolves_ask _) fun _ =>
    evolves_ite (evolves_pure _) (evolves_ite (evolves_pure _) (evolves_pure _))

section Listener

variable (hT : Enduring T)

include hT in
theorem evolves_acceptConnection (p : Ptr) : Evolves T (acceptConnection p) := by
  have haccepted : ∀ newfd socketType, Evolves T (acceptedSocket newfd socketType) := by
    intro newfd socketType
    rw [acceptedSocket]
    split
    · exact evolves_pure _
    · exact evolves_makeShared hT _
  have hplain : ∀ d socketType, Evolves T (acceptPlainConnection d socketType) :=
    fun d socketType => evolves_bind (evolves_ask _) fun newfd => haccepted _ _
  refine evolves_deref_bind p fun socket => ?_
  cases socket.cls with
  | tcpSslListenerSocket =>
      refine evolves_bind (evolves_ask _) fun newfd => evolves_ite (evolves_pure _) ?_
      refine evolves_bind (evolves_ask _) fun r => evolves_ite (evolves_pure _) ?_
      exact haccepted _ _
  | tcpListenerSocket => exact hplain _ _
  | unixListenerSocket => exact hplain _ _
  | _ => exact evolves_crash

include hT in
theorem evolves_sendToDispatcher (c p : Ptr) : Evolves T (sendToDispatcher c p) := by
  have halloc : Evolves T allocSendControl := by
    apply evolves_get_bind
    intro m
    cases m.sendCmptr with
    | some _ => exact evolves_pure _ m
    | none =>
        refine evolves_bind (evolves_ask _) (fun r => ?_) m
        cases r.data with
        | none => exact evolves_pure _
        | some content =>
            exact evolves_bind (evolves_modify fun m => hT.same _ _ rfl rfl) fun _ => evolves_pure _
  refine evolves_deref_bind p fun socket => evolves_when (evolves_bind ?_ fun _ => evolves_pure _)
  refine evolves_deref_bind p fun sender => evolves_deref_bind c fun toSend => ?_
  refine evolves_bind (evolves_note _) fun _ => evolves_ite ?_ ?_
  · exact evolves_bind (evolves_ask _) fun _ => evolves_pure _
  · refine evolves_bind halloc fun _ => evolves_ite ?_ (evolves_pure _)
    refine evolves_bind (evolves_modify fun m => hT.same _ _ rfl rfl) fun _ => ?_
    exact evolves_bind (evolves_ask _) fun _ => evolves_pure _

section Config

-- only its length is compared, and that must not be computed
attribute [local irreducible] configText

theorem evolves_sendConfig (d : Int) : Evolves T (sendConfig d) := by
  refine evolves_bind (evolves_ask _) fun label => evolves_ite (evolves_pure _) ?_
  refine evolves_bind (evolves_ask _) fun pid => evolves_get_bind fun m => ?_
  refine evolves_ite ?_ evolves_crash m
  exact evolves_bind (evolves_ask _) fun text => evolves_pure _

end Config

include hT

theorem evolves_processSocket (p : Ptr) : Evolves T (processSocket p) := by
  have hclient : Evolves T (processClientConnection p) := by
    refine evolves_bind (evolves_acceptConnection hT p) fun c => evolves_ite (evolves_pure _) ?_
    refine evolves_get_bind fun m => ?_
    refine evolves_bind (evolves_forEach (evolves_sendToDispatcher hT c) _) (fun _ => ?_) m
    exact evolves_bind (evolves_release hT _) fun _ => evolves_pure _
  have hdispatcher : Evolves T (processDispatcherConnection p) := by
    refine evolves_bind (evolves_acceptConnection hT p) fun c => evolves_ite (evolves_pure _) ?_
    refine evolves_bind (evolves_putSocket hT c) fun _ => evolves_deref_bind c fun socket => ?_
    refine evolves_bind (evolves_sendConfig _) fun sent => ?_
    exact evolves_bind (evolves_release hT _) fun _ => evolves_pure _
  refine evolves_deref_bind p fun socket => evolves_ite ?_ (evolves_ite ?_ (evolves_ite ?_ ?_))
  · exact evolves_bind (evolves_delSocket hT p) fun _ => evolves_pure _
  · exact evolves_bind hclient fun _ => evolves_pure _
  · exact evolves_bind hdispatcher fun _ => evolves_pure _
  · exact evolves_pure _

theorem evolves_iteration : Evolves T iteration := by
  have hpoll : ∀ p, Evolves T (pollForRead p) :=
    fun p => evolves_deref_bind p fun _ => evolves_modifySocket hT _ _
  have hhandle : ∀ errorType, Evolves T (handlePoll errorType) := by
    intro errorType
    cases errorType with
    | NONE =>
        refine evolves_bind ?_ fun _ => evolves_pure _
        exact evolves_get_bind fun m => evolves_forEach (evolves_processSocket hT) _ m
    | TIMEOUT =>
        refine evolves_bind ?_ fun _ => evolves_pure _
        refine evolves_bind evolves_wait_disp_child fun pid => evolves_when ?_
        exact evolves_bind evolves_create_dispatcher fun _ => evolves_pure _
    | _ => exact evolves_pure _
  refine evolves_bind (evolves_note _) fun _ => evolves_bind (evolves_clearOutput hT) fun _ => ?_
  refine evolves_get_bind fun m => evolves_bind (evolves_forEach hpoll _) (fun _ => ?_) m
  refine evolves_bind (evolves_pollSockets hT) fun errorType => ?_
  refine evolves_bind (hhandle errorType) fun stop => ?_
  exact evolves_bind (evolves_note _) fun _ => evolves_pure _

theorem evolves_mainLoop (iterations : Nat) : Evolves T (mainLoop iterations) :=
  evolves_repeatUntil (evolves_bind (evolves_ask _) fun _ =>
    evolves_ite (evolves_pure _) (evolves_iteration hT)) iterations

omit hT in
theorem evolves_sayGoodbyeToAllDispatchers : Evolves T sayGoodbyeToAllDispatchers := by
  have hbye : ∀ p, Evolves T (sayGoodbye p) := by
    refine fun p => evolves_deref_bind p fun socket => evolves_when ?_
    exact evolves_bind (evolves_ask _) fun _ => evolves_pure _
  exact evolves_get_bind fun m => evolves_forEach hbye _ m

theorem evolves_main (iterations : Nat) : Evolves T (main iterations) := by
  refine evolves_bind evolves_create_dispatcher fun _ => ?_
  refine evolves_bind (evolves_putSocket hT _) fun _ => ?_
  refine evolves_bind (evolves_putSocket hT _) fun _ => ?_
  refine evolves_bind (evolves_mainLoop hT iterations) fun _ => ?_
  refine evolves_bind evolves_sayGoodbyeToAllDispatchers fun _ => ?_
  exact evolves_bind evolves_wait_disp_child fun _ => evolves_pure _

end Listener

end Mylsnr

end SocketDispatcher
