import SocketDispatcher.Mydisp.Shape

/-!
# Rules for the dispatcher's functions

One specification for each function of the dispatcher, for surroundings that are
only known to be quiet at the calls that do not matter.

Main results:

- Theorem {lit}`sat_acceptClient`: what becomes of a received descriptor.
- Theorem {lit}`within_processClient`: a conversation only touches its client.
- Theorem {lit}`sat_dispatcherProcess`: a message of the listener is a client, or
  changes no object.
- Theorem {lit}`sat_mainLoop`: the invariant rule of the main loop.
- Theorem {lit}`forall_ordinary` and its like: which calls a class consists of.  Whether one
  class includes another one is seen from these.
-/

namespace SocketDispatcher

open Interaction

namespace Mydisp

/-! ## Received clients -/

/-- The last two statements of a reception: let the client be greeted. -/
def greet (s : Memory) (p : Ptr) : Memory :=
  (s.modifySocket p Socket.pollForWrite).modifySocket p (Socket.setClientStatus .HELLO)

theorem greet_handOver (s : Memory) (tcp : Socket) :
    greet { handOver s tcp with socketsList := (s.socketsList.putSocket (s.next + 1)).1 }
      (s.next + 1) = join s tcp := by
  ext1
  case heap =>
    funext q
    by_cases hq : q = s.next + 1 <;> simp [greet, handOver, join, greeted, hq]
  all_goals rfl

theorem greet_handOver_heap (s : Memory) (tcp : Socket) :
    (greet (handOver s tcp) (s.next + 1)).heap (s.next + 1) = some (greeted tcp) := by
  simp [greet, handOver, greeted]

theorem greet_handOver_erase {s : Memory} (hfresh : ∀ p, s.next ≤ p → s.heap p = none)
    (tcp : Socket) :
    (greet (handOver s tcp) (s.next + 1)).erase (s.next + 1) = refuse s := by
  ext1
  case heap =>
    funext q
    by_cases hq : q = s.next + 1
    · simp [refuse, hq, hfresh (s.next + 1) (Nat.le_succ _)]
    · simp [greet, handOver, refuse, hq]
  all_goals rfl

/-- What a client is told that finds the list full. -/
def busyMessage : List Byte := ascii "FAILED BUSY TRY LATER!!!!\n"

section Specs

variable {W A : Type} {K : Kernel W Call Reply A}
variable {H : Memory → W → Call → Reply → Prop} {G : Memory → W → Call → Prop}
variable {s : Memory} {w : W}

/-- With a context the received object dies protected, its descriptor lives on in the
client.  Without one the dispatcher dies. -/
theorem sat_makeSslSocket {tcp : Socket} {max : Nat} {Q : Memory → W → Ptr → Prop}
    (hs : s.Tidy max)
    (hcrash : s.ssl.sslGlobalCtx = none → ∀ w₁, K.Acts w w₁ → G (s.alloc tcp) w₁ .crash)
    (hQ : s.ssl.sslGlobalCtx ≠ none → Q (handOver s tcp) w (s.next + 1)) :
    Sat K H G (makeSslSocket s.next) Q (s.alloc tcp) w := by
  have hread : (s.alloc tcp).heap s.next = some tcp := by simp
  have href : ¬s.Referenced s.next := hs.not_referenced (Nat.le_refl _)
  rw [makeSslSocket, sat_bind, sat_deref_of_some hread, sat_bind, sat_get, sat_ite]
  split
  next hnone => exact sat_crash (hcrash (Option.isNone_iff_eq_none.mp hnone))
  next hsome =>
    have hctx : s.ssl.sslGlobalCtx ≠ none := fun h => hsome (Option.isNone_iff_eq_none.mpr h)
    rw [sat_bind, sat_makeShared, sat_bind, sat_modifySocket, sat_bind]
    have hprotected : (((s.alloc tcp).alloc (sslSocket tcp)).modifySocket s.next
        Socket.protect).heap s.next = some tcp.protect := by
      simp
    apply sat_release_last hprotected href
    · intro _
      have hmemory : (((s.alloc tcp).alloc (sslSocket tcp)).modifySocket s.next
          Socket.protect).erase s.next = handOver s tcp := by
        ext1
        case heap =>
          funext q
          by_cases hq : q = s.next
          · simp [handOver, hq, hs.fresh s.next (Nat.le_refl _)]
          · by_cases hq' : q = s.next + 1 <;> simp [handOver, hq, hq']
        all_goals rfl
      rw [hmemory]
      exact hQ hctx
    · intro hprot
      simp [Socket.protect] at hprot

/-- A received client joins the list and is to be greeted; if the list is full it is
told so and its descriptor is closed. -/
theorem sat_acceptClient {tcp : Socket} {max : Nat} {Q : Memory → W → Unit → Prop}
    (hs : s.Tidy max)
    (hcrash : s.ssl.sslGlobalCtx = none → ∀ w₁, K.Acts w w₁ → G (s.alloc tcp) w₁ .crash)
    (hstored : s.socketsList.sockets.length < s.socketsList.maxSize →
      Sat K H G (note (.putSocket (s.next + 1) tcp.descriptor true))
        (fun _ w' _ => Q (join s tcp) w' ())
        { handOver s tcp with socketsList := (s.socketsList.putSocket (s.next + 1)).1 } w)
    (hrefused : s.socketsList.sockets.length = s.socketsList.maxSize →
      Sat K H G (note (.putSocket (s.next + 1) tcp.descriptor false))
        (fun _ w' _ => Sat K H G (Program.ask (.bioWrite (s.next + 1) busyMessage))
          (fun _ w' _ => Sat K H G (Program.ask (.close tcp.descriptor))
            (fun _ w' _ => Q (refuse s) w' ()) (refuse s) w')
          (handOver s tcp) w')
        (handOver s tcp) w) :
    Sat K H G (acceptClient s.next) Q (s.alloc tcp) w := by
  rw [acceptClient, sat_bind]
  apply sat_makeSslSocket hs hcrash
  intro _
  have hclient : (handOver s tcp).heap (s.next + 1) = some (sslSocket tcp) := by
    simp [handOver]
  have hdescriptor : (handOver s tcp).descriptorOf (s.next + 1) = tcp.descriptor := by
    simp [Memory.descriptorOf, handOver, sslSocket]
  rw [sat_bind, putSocket, sat_bind, sat_get, sat_bind, sat_set, sat_bind, hdescriptor]
  change Sat K H G
    (note (.putSocket (s.next + 1) tcp.descriptor (s.socketsList.putSocket (s.next + 1)).2))
    _ { handOver s tcp with socketsList := (s.socketsList.putSocket (s.next + 1)).1 } w
  cases hput : (s.socketsList.putSocket (s.next + 1)).2 with
  | true =>
      have hroom := (SocketsList.putSocket_eq_true_iff _ _).mp hput
      apply sat_note_mono (hstored hroom)
      intro w' hQ
      rw [sat_pure, sat_bind,
        show ((handOver s tcp).socketsList.putSocket (s.next + 1)).2 = true from hput,
        sat_when, if_neg (by decide), sat_bind, sat_modifySocket, sat_bind,
        sat_modifySocket]
      change Sat K H G (release (s.next + 1)) Q (greet { handOver s tcp with
        socketsList := (s.socketsList.putSocket (s.next + 1)).1 } (s.next + 1)) w'
      rw [greet_handOver]
      exact sat_release_referenced (Or.inl (SocketsList.mem_putSocket_self hput)) hQ
  | false =>
      have hfull : s.socketsList.sockets.length = s.socketsList.maxSize := by
        have hbounded := s.socketsList.bounded
        have hnot : ¬s.socketsList.sockets.length < s.socketsList.maxSize := by
          rw [← SocketsList.putSocket_eq_true_iff _ (s.next + 1), hput]
          decide
        omega
      have hlist : (s.socketsList.putSocket (s.next + 1)).1 = s.socketsList := by
        simp [SocketsList.putSocket, hfull]
      rw [hlist]
      change Sat K H G (note (.putSocket (s.next + 1) tcp.descriptor false)) _
        (handOver s tcp) w
      apply sat_note_mono (hrefused hfull)
      intro w' hwrite
      rw [sat_pure, sat_bind,
        show ((handOver s tcp).socketsList.putSocket (s.next + 1)).2 = false from hput,
        sat_when, if_pos (by decide), sat_bind, write, sat_bind,
        sat_deref_of_some hclient, sat_ite,
        if_pos (show (sslSocket tcp).isSslSocket = true from rfl), sat_bind]
      apply hwrite.ask_mono
      intro w' _ hclose
      rw [sat_pure, sat_pure, sat_bind, sat_modifySocket, sat_bind, sat_modifySocket]
      have href : ¬s.Referenced (s.next + 1) := hs.not_referenced (Nat.le_succ _)
      apply sat_release_last (greet_handOver_heap s tcp) href
      · intro hprot
        exact absurd hprot Bool.false_ne_true
      · intro _
        rw [← greet_handOver_erase hs.fresh tcp] at hclose
        exact hclose

end Specs

/-! ## Conversations -/

section Frames

variable {I : Memory → Prop} {P : Call → Prop}

/-- The calls of a conversation with a client. -/
def Conversation (p : Ptr) : Call → Prop
  | .automatic _ | .crash => True
  | .bioRead q .. => q = p
  | .bioWrite q _ => q = p
  | _ => False

/-- Reading from a client stays within its BIO. -/
theorem within_read {p : Ptr}
    (hssl : ∀ s socket, I s → s.heap p = some socket → socket.isSslSocket = true)
    (buffer : List Byte) (bufferSize : Nat) :
    Within I (Conversation p) (read p buffer bufferSize) := by
  apply within_deref_bind trivial
  intro s socket hs hsocket
  rw [if_pos (hssl s socket hs hsocket)]
  exact within_bind (within_ask rfl) fun r => within_pure _

/-- Writing to a client is one call on its BIO. -/
theorem within_write_call {p : Ptr} {message : List Byte} (hcrash : P .crash)
    (hwrite : P (.bioWrite p message))
    (hssl : ∀ s socket, I s → s.heap p = some socket → socket.isSslSocket = true) :
    Within I P (write p message) := by
  apply within_deref_bind hcrash
  intro s socket hs hsocket
  rw [if_pos (hssl s socket hs hsocket)]
  exact within_bind (within_ask hwrite) fun r => within_pure _

/-- Writing to a client stays within its BIO. -/
theorem within_write {p : Ptr}
    (hssl : ∀ s socket, I s → s.heap p = some socket → socket.isSslSocket = true)
    (message : List Byte) : Within I (Conversation p) (write p message) :=
  within_write_call trivial rfl hssl

/-- The changes that a conversation makes to a client. -/
inductive Talk : (Socket → Socket) → Prop where
  | bye : Talk (Socket.setClientStatus .BYE)
  | echo : Talk (Socket.setClientStatus .ECHO)
  | answer : Talk (Socket.setRevents POLLOUT)

theorem Talk.identity {f : Socket → Socket} (hf : Talk f) (socket : Socket) :
    (f socket).identity = socket.identity := by
  cases hf <;> rfl

/-- Nothing has changed but the mutable fields of one object. -/
structure Touches (p : Ptr) (s s' : Memory) : Prop where
  similar : s.Similar s'
  others : ∀ q, q ≠ p → s'.heap q = s.heap q

theorem Touches.refl (p : Ptr) (s : Memory) : Touches p s s :=
  ⟨Memory.Similar.refl s, fun _ _ => rfl⟩

theorem Touches.modifySocket {p : Ptr} {s s' : Memory} (h : Touches p s s')
    {f : Socket → Socket} (hf : Talk f) :
    Touches p s (s'.modifySocket p f) where
  similar := h.similar.trans (s'.similar_modifySocket p hf.identity)
  others q hq := by
    rw [Memory.modifySocket_heap, if_neg hq]
    exact h.others q hq

/-- Answering a client only touches its mutable fields and writes to its BIO. -/
theorem within_answerClient {p : Ptr} (hcrash : P .crash)
    (hwrite : ∀ message, P (.bioWrite p message))
    (hkeep : ∀ s f, Talk f → I s → I (s.modifySocket p f))
    (hssl : ∀ s socket, I s → s.heap p = some socket → socket.isSslSocket = true) :
    Within I P (answerClient p) := by
  have hwritten : ∀ message, Within I P (write p message) :=
    fun message => within_write_call hcrash (hwrite message) hssl
  apply within_deref_bind hcrash
  intro s socket _ _
  apply within_ite
  · cases socket.clientStatus with
    | HELLO =>
        refine within_bind (hwritten _) fun bytes => ?_
        exact within_bind (within_modify fun s hs => hkeep s _ .echo hs) fun _ => within_pure _
    | ECHO => exact within_bind (hwritten _) fun bytes => within_pure _
    | BYE => exact within_bind (hwritten _) fun bytes => within_pure _
    | NONE => exact within_pure _
  · exact within_pure _

/-- A conversation with a client only touches its mutable fields and its BIO. -/
theorem within_processClient {p : Ptr}
    (hkeep : ∀ s f, Talk f → I s → I (s.modifySocket p f))
    (hssl : ∀ s socket, I s → s.heap p = some socket → socket.isSslSocket = true) :
    Within I (Conversation p) (processClient p) := by
  have hmodify : ∀ f, Talk f → Within I (Conversation p) (modifySocket p f) :=
    fun f hf => within_modify fun s hs => hkeep s f hf hs
  have hanswer : Within I (Conversation p) (answerClient p) :=
    within_answerClient trivial (fun _ => rfl) hkeep hssl
  apply within_deref_bind trivial
  intro s socket _ _
  refine within_ite (within_pure _) (within_ite ?_ hanswer)
  refine within_bind (within_ask trivial) fun buffer => ?_
  refine within_bind (within_read hssl _ _) fun bytes => ?_
  refine within_ite ?_ (within_ite ?_ (within_pure _))
  · exact within_bind (within_write hssl _) fun written => within_ite (within_pure _) hanswer
  · refine within_bind (within_when (hmodify _ .bye)) fun _ => ?_
    exact within_bind (hmodify _ .answer) fun _ => hanswer

/-- The conversation with a client leaves the lists and the identities of all objects
alone. -/
theorem Shape.within_processClient {descriptor : Int} {s : Memory} {p : Ptr}
    (hs : Shape descriptor s) (hp : p ≠ unixSocket) :
    Within (fun s' => s.Similar s' ∧ s'.appCfg = s.appCfg) (Conversation p)
      (processClient p) := by
  apply Mydisp.within_processClient
  · intro s' f hf hs'
    exact ⟨hs'.1.trans (s'.similar_modifySocket p hf.identity), hs'.2⟩
  · intro s' socket hs' hsocket
    exact (hs.similar hs'.1).isSslSocket hp hsocket

/-! ## Messages of the listener -/

/-- The calls that follow a configuration. -/
def Configuring : Call → Prop
  | .automatic _ | .crash | .sslCtxNew | .sslLoad .. | .errGetError => True
  | .note (.createContext ..) => True
  | _ => False

/-- The calls that look at a message of the listener and follow its configuration. -/
def Background (descriptor : Int) : Call → Prop
  | .automatic _ | .crash | .sslCtxNew | .sslLoad .. | .errGetError => True
  | .note (.createContext ..) => True
  | .recv fd .. => fd = descriptor
  | _ => False

theorem forall_configuring {Q : Call → Prop} (hautomatic : ∀ size, Q (.automatic size))
    (hcrash : Q .crash) (hnew : Q .sslCtxNew) (hload : ∀ what name, Q (.sslLoad what name))
    (herror : Q .errGetError) (hnote : ∀ ca crt key, Q (.note (.createContext ca crt key))) :
    ∀ c, Configuring c → Q c := by
  intro c
  fun_cases Configuring c <;> simp [*]

theorem forall_background {descriptor : Int} {Q : Call → Prop}
    (hconfiguring : ∀ c, Configuring c → Q c)
    (hrecv : ∀ buffer size peek, Q (.recv descriptor buffer size peek)) :
    ∀ c, Background descriptor c → Q c := by
  intro c
  fun_cases Background descriptor c with
  | case7 fd buffer size peek => exact fun hfd => hfd ▸ hrecv buffer size peek
  | case8 => exact False.elim
  | _ => exact fun _ => hconfiguring _ trivial

theorem background_of_configuring (descriptor : Int) :
    ∀ c, Configuring c → Background descriptor c := by
  apply forall_configuring <;> intros <;> trivial

/-- A configuration only touches the globals, and it only calls OpenSSL. -/
theorem within_processConfig_openSsl (hautomatic : ∀ size, P (.automatic size))
    (hnote : ∀ ca crt key, P (.note (.createContext ca crt key))) (hnew : P .sslCtxNew)
    (hload : ∀ what name, P (.sslLoad what name)) (herror : P .errGetError)
    (happCfg : ∀ s appCfg, I s → I { s with appCfg := appCfg })
    (hssl : ∀ s ssl, I s → I { s with ssl := ssl })
    (bufferConfig : List Byte) (bufferSize : Nat) :
    Within I P (processConfig bufferConfig bufferSize) := by
  refine within_bind (within_ask (hautomatic _)) fun lineBuffer => ?_
  refine within_bind (within_modify fun s hs => happCfg s _ hs) fun _ => ?_
  apply within_get_bind
  intro s _
  refine within_bind ?_ fun error => within_pure _
  exact within_createContext hssl (hnote _ _ _) hnew hload herror

/-- A configuration only touches the globals. -/
theorem within_processConfig (hcall : ∀ c, Configuring c → P c)
    (happCfg : ∀ s appCfg, I s → I { s with appCfg := appCfg })
    (hssl : ∀ s ssl, I s → I { s with ssl := ssl })
    (bufferConfig : List Byte) (bufferSize : Nat) :
    Within I P (processConfig bufferConfig bufferSize) :=
  within_processConfig_openSsl (fun _ => hcall _ trivial) (fun _ _ _ => hcall _ trivial)
    (hcall _ trivial) (fun _ _ => hcall _ trivial) (hcall _ trivial) happCfg hssl
    bufferConfig bufferSize

end Frames

section Specs

variable {W A : Type} {K : Kernel W Call Reply A}
variable {H : Memory → W → Call → Reply → Prop} {G : Memory → W → Call → Prop}
variable {I : Memory → Prop} {P : Call → Prop} {J : W → Prop}
variable {descriptor : Int} {fuel : Nat} {s : Memory} {w : W}

/-- A message of the listener is looked at, and is then a client or a configuration,
or is left alone. -/
theorem sat_dispatcherProcess_live {Q : Memory → W → Bool → Prop} (descriptor : Int)
    (Inv : Memory → W → Prop)
    (hcrash : ∀ s w w₁, Inv s w → s.heap unixSocket = none → K.Acts w w₁ → G s w₁ .crash)
    (hunix : ∀ s w socket, Inv s w → s.heap unixSocket = some socket →
      socket.descriptor = descriptor)
    (hautomatic : ∀ s w size, Inv s w →
      Sat K H G (Program.ask (.automatic size)) (fun s w _ => Inv s w) s w)
    (hpeek : ∀ s w buffer, Inv s w →
      Sat K H G (Program.ask (.recv descriptor buffer 200 true)) (fun s w _ => Inv s w) s w)
    (hclient : ∀ s w, Inv s w → Sat K H G (createSocket unixSocket fuel)
      (fun s w p => if p = nullptr then Q s w false
        else Sat K H G (acceptClient p) (fun s w _ => Q s w true) s w) s w)
    (hconfig : ∀ s w buffer, Inv s w →
      Sat K H G (Program.ask (.recv descriptor buffer 4096 false)) (fun s w r =>
        (r.ret < 0 → Q s w false) ∧
        (0 ≤ r.ret →
          Sat K H G (processConfig (memcpy buffer r.bytes) r.ret.toNat) Q s w)) s w)
    (hQ : ∀ s w ok, Inv s w → Q s w ok) (hinit : Inv s w) :
    Sat K H G (dispatcherProcess unixSocket fuel) Q s w := by
  rw [dispatcherProcess, sat_bind]
  apply sat_deref
  · intro hnone w₁ hacts
    exact hcrash s w w₁ hinit hnone hacts
  · intro socket hsocket
    have hdescriptor := hunix s w socket hinit hsocket
    rw [hdescriptor, sat_ite]
    split
    next => exact hQ s w false hinit
    next =>
      refine (hautomatic s w 200 hinit).seq fun s w message hinv => ?_
      refine (hpeek s w message.bytes hinv).seq fun s w r hinv => ?_
      rw [sat_ite]
      split
      next => exact hQ s w false hinv
      next =>
        rw [sat_ite]
        split
        next =>
          refine (hclient s w hinv).seq fun s w p hp => ?_
          rw [sat_ite]
          split
          next hnull => simpa [hnull] using hp
          next hnull =>
            rw [if_neg hnull] at hp
            exact hp.seq fun s w _ h => h
        next =>
          rw [sat_ite]
          split
          next =>
            refine (hautomatic s w 4096 hinv).seq fun s w configBuffer hinv => ?_
            refine (hconfig s w configBuffer.bytes hinv).seq fun s w r hr => ?_
            rw [sat_ite]
            split
            next hneg => exact hr.1 hneg
            next hneg => exact hr.2 (by omega)
          next =>
            rw [sat_ite]
            split
            · exact hQ s w false hinv
            · exact hQ s w true hinv

/-- The same rule where a crash is harmless. -/
theorem sat_dispatcherProcess {Q : Memory → W → Bool → Prop} (descriptor : Int)
    (Inv : Memory → W → Prop)
    (hcrash : ∀ s w w₁, Inv s w → K.Acts w w₁ → G s w₁ .crash)
    (hunix : ∀ s w socket, Inv s w → s.heap unixSocket = some socket →
      socket.descriptor = descriptor)
    (hautomatic : ∀ s w size, Inv s w →
      Sat K H G (Program.ask (.automatic size)) (fun s w _ => Inv s w) s w)
    (hpeek : ∀ s w buffer, Inv s w →
      Sat K H G (Program.ask (.recv descriptor buffer 200 true)) (fun s w _ => Inv s w) s w)
    (hclient : ∀ s w, Inv s w → Sat K H G (createSocket unixSocket fuel)
      (fun s w p => if p = nullptr then Q s w false
        else Sat K H G (acceptClient p) (fun s w _ => Q s w true) s w) s w)
    (hconfig : ∀ s w buffer, Inv s w →
      Sat K H G (Program.ask (.recv descriptor buffer 4096 false)) (fun s w r =>
        (r.ret < 0 → Q s w false) ∧
        (0 ≤ r.ret →
          Sat K H G (processConfig (memcpy buffer r.bytes) r.ret.toNat) Q s w)) s w)
    (hQ : ∀ s w ok, Inv s w → Q s w ok) (hinit : Inv s w) :
    Sat K H G (dispatcherProcess unixSocket fuel) Q s w :=
  sat_dispatcherProcess_live descriptor Inv (fun s w w₁ hinv _ => hcrash s w w₁ hinv) hunix
    hautomatic hpeek hclient hconfig hQ hinit

/-- Where looking at messages and following a configuration is quiet, a message of the
listener is a client, or it touches nothing but the globals. -/
theorem sat_dispatcherProcess_background {Q : Memory → W → Bool → Prop}
    (hquiet : Quiet K H G I (Background descriptor) J)
    (hunix : ∀ s socket, I s → s.heap unixSocket = some socket →
      socket.descriptor = descriptor)
    (happCfg : ∀ s appCfg, I s → I { s with appCfg := appCfg })
    (hssl : ∀ s ssl, I s → I { s with ssl := ssl })
    (hclient : ∀ s w, I s → J w → Sat K H G (createSocket unixSocket fuel)
      (fun s w p => if p = nullptr then Q s w false
        else Sat K H G (acceptClient p) (fun s w _ => Q s w true) s w) s w)
    (hQ : ∀ s w ok, I s → J w → Q s w ok) (hI : I s) (hJ : J w) :
    Sat K H G (dispatcherProcess unixSocket fuel) Q s w := by
  apply sat_dispatcherProcess descriptor fun s w => I s ∧ J w
  · intro s w w₁ hinv hacts
    exact hquiet.guarantee s w₁ _ hinv.1 trivial (hacts.keeps hquiet.act hinv.2)
  · exact fun s w socket hinv => hunix s socket hinv.1
  · intro s w size hinv
    exact sat_ask_quiet hquiet (by trivial) hinv.1 hinv.2 fun _ w hJ => ⟨hinv.1, hJ⟩
  · intro s w buffer hinv
    exact sat_ask_quiet hquiet (by exact rfl) hinv.1 hinv.2 fun _ w hJ => ⟨hinv.1, hJ⟩
  · exact fun s w hinv => hclient s w hinv.1 hinv.2
  · intro s w buffer hinv
    refine sat_ask_quiet hquiet (by exact rfl) hinv.1 hinv.2 fun r w hJ => ?_
    refine ⟨fun _ => ?_, fun _ => ?_⟩
    · exact hQ s w false hinv.1 hJ
    · have hconfig := (within_processConfig (background_of_configuring _) happCfg hssl
        (memcpy buffer r.bytes) r.ret.toNat).sat hquiet hinv.1 hJ
      exact hconfig.mono fun s w ok h => hQ s w ok h.1 h.2
  · exact fun s w ok hinv => hQ s w ok hinv.1 hinv.2
  · exact ⟨hI, hJ⟩

/-- The calls that receive a descriptor. -/
def Receiving : Call → Prop
  | .automatic _ | .crash | .malloc | .recvmsg .. => True
  | .note (.createSocket _) => True
  | _ => False

theorem forall_receiving {Q : Call → Prop} (hautomatic : ∀ size, Q (.automatic size))
    (hcrash : Q .crash) (hmalloc : Q .malloc)
    (hrecvmsg : ∀ fd buffer size, Q (.recvmsg fd buffer size))
    (hnote : ∀ o, Q (.note (.createSocket o))) : ∀ c, Receiving c → Q c := by
  intro c
  fun_cases Receiving c <;> simp [*]

/-- What {lit}`createSocket` returns: the empty pointer, or a new object in a memory of
{lit}`I`. -/
def Created (I : Memory → Prop) (s' : Memory) (p : Ptr) : Prop :=
  (p = nullptr ∧ I s') ∨ ∃ s₀ newfd, ∃ hpos : 0 < newfd,
    I s₀ ∧ s' = s₀.alloc (tcpSocket newfd hpos) ∧ p = s₀.next

/-- The descriptor of what {lit}`createSocket` returns. -/
def createdDescriptor (s' : Memory) (p : Ptr) : Option Int :=
  if p = nullptr then none else some (s'.descriptorOf p)

/-- Where its calls are quiet, {lit}`createSocket` returns the empty pointer or a new
object, and touches nothing but the control buffer besides.  What the surroundings make of
the result is {lit}`J'`. -/
theorem sat_createSocket_live (J' : Option Int → W → Prop) (hquiet : Quiet K H G I P J)
    (hautomatic : P (.automatic MAXLINE)) (hmalloc : P .malloc)
    (hrecvmsg : ∀ s socket buf, I s → s.heap unixSocket = some socket →
      P (.recvmsg socket.descriptor buf MAXLINE))
    (hcrash : ∀ s w w₁, I s → J w → s.heap unixSocket = none → K.Acts w w₁ → G s w₁ .crash)
    (hnote : ∀ s w o, J w →
      Sat K H G (note (.createSocket o)) (fun s' w _ => s' = s ∧ J' o w) s w)
    (hcmptr : ∀ s cmptr, I s → I { s with cmptr := cmptr }) (hI : I s) (hJ : J w) :
    Sat K H G (createSocket unixSocket fuel)
      (fun s' w' p => J' (createdDescriptor s' p) w' ∧ Created I s' p) s w := by
  rw [createSocket, sat_bind]
  refine sat_ask_quiet hquiet hautomatic hI hJ fun buf w hJ => ?_
  have hloop : Sat K H G (createSocketLoop unixSocket fuel buf.bytes (-1)) (fun s' w' p =>
      J w' ∧ Created I s' p) s w := by
    apply sat_createSocketLoop fun s w => I s ∧ J w
    · exact fun s w w₁ hinv hnone hacts => hcrash s w w₁ hinv.1 hinv.2 hnone hacts
    · intro s w hinv
      apply sat_allocControl
      · intro _
        simpa using hinv
      · intro _
        refine sat_ask_quiet hquiet hmalloc hinv.1 hinv.2 fun r w hJ => ⟨fun _ => ?_, ?_⟩
        · exact ⟨hJ, Or.inl ⟨rfl, hinv.1⟩⟩
        · intro content _
          exact ⟨hcmptr s _ hinv.1, hJ⟩
    · intro s w socket buf hinv hsocket
      refine sat_ask_quiet hquiet (hrecvmsg s socket buf hinv.1 hsocket) hinv.1 hinv.2
        fun r w hJ => ⟨fun _ => ?_, ?_⟩
      · exact ⟨hJ, Or.inl ⟨rfl, hinv.1⟩⟩
      · intro _
        have hstored : I (s.storeControl r.data) := hcmptr s _ hinv.1
        refine ⟨fun _ => ⟨hstored, hJ⟩, fun _ => ?_, fun _ => ⟨hJ, Or.inl ⟨rfl, hstored⟩⟩⟩
        rw [makeTcpSocket, sat_dite]
        split
        next hpos => exact ⟨hJ, Or.inr ⟨_, _, hpos, hstored, rfl, rfl⟩⟩
        next => exact ⟨hJ, Or.inl ⟨rfl, hstored⟩⟩
    · exact ⟨hI, hJ⟩
  refine hloop.seq ?_
  intro s w p hp
  rw [sat_bind, sat_get, sat_bind]
  apply (hnote s w _ hp.1).mono
  rintro _ w _ ⟨rfl, hJ⟩
  exact ⟨hJ, hp.2⟩

/-- Where receiving is quiet, whether it crashes or not. -/
theorem sat_createSocket_quiet (hquiet : Quiet K H G (fun _ => True) Receiving J)
    (hcmptr : ∀ s cmptr, I s → I { s with cmptr := cmptr }) (hI : I s) (hJ : J w) :
    Sat K H G (createSocket unixSocket fuel) (fun s' w' p => J w' ∧ Created I s' p) s w := by
  have hquiet' : Quiet K H G I Receiving J := hquiet.mono (fun _ _ => trivial) fun _ hc => hc
  apply sat_createSocket_live (fun _ => J) hquiet' trivial trivial
    (fun _ _ _ _ _ => trivial) _ _ hcmptr hI hJ
  · intro s w w₁ _ hJ _ hacts
    exact hquiet.guarantee s w₁ _ trivial trivial (hacts.keeps hquiet.act hJ)
  · intro s w o hJ
    exact sat_note_quiet hquiet (by trivial) trivial hJ fun w hJ => ⟨rfl, hJ⟩

/-- The calls that offer a client to the list and turn it away if that is full. -/
def Admitting (next : Ptr) : Call → Prop
  | .crash | .close _ | .note (.putSocket ..) => True
  | .bioWrite p _ => next ≤ p
  | _ => False

theorem forall_admitting {next : Ptr} {Q : Call → Prop} (hcrash : Q .crash)
    (hclose : ∀ d, Q (.close d))
    (hnote : ∀ p d stored, Q (.note (.putSocket p d stored)))
    (hwrite : ∀ p message, next ≤ p → Q (.bioWrite p message)) :
    ∀ c, Admitting next c → Q c := by
  intro c
  fun_cases Admitting next c <;> simp +contextual [*]

/-- The calls that receive a client, too. -/
def Accepting (next : Ptr) (c : Call) : Prop :=
  Receiving c ∨ Admitting next c

theorem forall_accepting {next : Ptr} {Q : Call → Prop} (hreceiving : ∀ c, Receiving c → Q c)
    (hadmitting : ∀ c, Admitting next c → Q c) : ∀ c, Accepting next c → Q c :=
  fun c hc => hc.elim (hreceiving c) (hadmitting c)

/-- Where receiving is quiet, it ends without a client, or a received client is
accepted, and nothing but the control buffer is touched besides. -/
theorem sat_reception {Q : Memory → W → Bool → Prop}
    (hquiet : Quiet K H G (fun _ => True) Receiving J)
    (hshape : ∀ s, I s → Shape descriptor s)
    (hcmptr : ∀ s cmptr, I s → I { s with cmptr := cmptr })
    (haccept : ∀ s w tcp, I s → J w →
      Sat K H G (acceptClient s.next) (fun s w _ => Q s w true) (s.alloc tcp) w)
    (hnull : ∀ s w, I s → J w → Q s w false) (hI : I s) (hJ : J w) :
    Sat K H G (createSocket unixSocket fuel) (fun s w p => if p = nullptr then Q s w false
      else Sat K H G (acceptClient p) (fun s w _ => Q s w true) s w) s w := by
  apply (sat_createSocket_quiet hquiet hcmptr hI hJ).mono
  rintro s w p ⟨hJ, ⟨rfl, hI⟩ | ⟨s₀, newfd, hpos, hI, rfl, rfl⟩⟩
  · simpa using hnull s w hI hJ
  · rw [if_neg (hshape s₀ hI).next_ne_nullptr]
    exact haccept s₀ w _ hI hJ

/-- Where its calls are quiet, a received client joins or is turned away. -/
theorem sat_acceptClient_quiet {next : Ptr} {tcp : Socket} {Q : Memory → W → Unit → Prop}
    (hquiet : Quiet K H G (fun _ => True) (Admitting next) J) (hs : Shape descriptor s)
    (hnext : next ≤ s.next)
    (hjoin : ∀ w, J w → s.socketsList.sockets.length < s.socketsList.maxSize →
      Q (join s tcp) w ())
    (hrefuse : ∀ w, J w → Q (refuse s) w ()) (hJ : J w) :
    Sat K H G (acceptClient s.next) Q (s.alloc tcp) w := by
  apply sat_acceptClient hs.toTidy
  · intro _ w₁ hacts
    exact hquiet.guarantee _ w₁ _ trivial trivial (hacts.keeps hquiet.act hJ)
  · intro hroom
    exact sat_note_quiet hquiet (by trivial) trivial hJ fun w hJ => hjoin w hJ hroom
  · intro _
    refine sat_note_quiet hquiet (by trivial) trivial hJ fun w hJ => ?_
    have hle : next ≤ s.next + 1 := Nat.le_succ_of_le hnext
    refine sat_ask_quiet hquiet (by exact hle) trivial hJ fun _ w hJ => ?_
    exact sat_ask_quiet hquiet (by trivial) trivial hJ fun _ w hJ => hrefuse w hJ

/-- Where receiving is quiet, a received client joins or is turned away, and nothing but
the control buffer is touched besides. -/
theorem sat_reception_quiet {next : Ptr} {Q : Memory → W → Bool → Prop}
    (hquiet : Quiet K H G (fun _ => True) (Accepting next) J)
    (hshape : ∀ s, I s → Shape descriptor s) (hnext : ∀ s, I s → next ≤ s.next)
    (hcmptr : ∀ s cmptr, I s → I { s with cmptr := cmptr })
    (hjoin : ∀ s w tcp, I s → J w →
      s.socketsList.sockets.length < s.socketsList.maxSize → Q (join s tcp) w true)
    (hrefuse : ∀ s w, I s → J w → Q (refuse s) w true)
    (hnull : ∀ s w, I s → J w → Q s w false) (hI : I s) (hJ : J w) :
    Sat K H G (createSocket unixSocket fuel) (fun s w p => if p = nullptr then Q s w false
      else Sat K H G (acceptClient p) (fun s w _ => Q s w true) s w) s w := by
  have hreceiving : Quiet K H G (fun _ => True) Receiving J :=
    hquiet.mono (fun _ _ => trivial) fun _ hc => Or.inl hc
  apply sat_reception hreceiving hshape hcmptr _ hnull hI hJ
  intro s w tcp hI hJ
  have hadmitting : Quiet K H G (fun _ => True) (Admitting next) J :=
    hquiet.mono (fun _ _ => trivial) fun _ hc => Or.inr hc
  exact sat_acceptClient_quiet hadmitting (hshape s hI) (hnext s hI)
    (fun w hJ hroom => hjoin s w tcp hI hJ hroom) (fun w hJ => hrefuse s w hI hJ) hJ

/-- Where all its calls are quiet, a message of the listener lets a new client join
or turns it away, and touches nothing but the globals besides. -/
theorem sat_dispatcherProcess_quiet {next : Ptr} {Q : Memory → W → Bool → Prop}
    (hbackground : Quiet K H G I (Background descriptor) J)
    (haccepting : Quiet K H G (fun _ => True) (Accepting next) J)
    (hshape : ∀ s, I s → Shape descriptor s) (hnext : ∀ s, I s → next ≤ s.next)
    (hglobals : ∀ s appCfg ssl cmptr, I s →
      I { s with appCfg := appCfg, ssl := ssl, cmptr := cmptr })
    (hjoin : ∀ s w tcp, I s → J w →
      s.socketsList.sockets.length < s.socketsList.maxSize → Q (join s tcp) w true)
    (hrefuse : ∀ s w, I s → J w → Q (refuse s) w true)
    (hQ : ∀ s w ok, I s → J w → Q s w ok) (hI : I s) (hJ : J w) :
    Sat K H G (dispatcherProcess unixSocket fuel) Q s w := by
  apply sat_dispatcherProcess_background hbackground _
    (fun s appCfg => hglobals s appCfg s.ssl s.cmptr)
    (fun s ssl => hglobals s s.appCfg ssl s.cmptr) _ hQ hI hJ
  · intro s socket hI hsocket
    exact (hshape s hI).descriptor_unix hsocket
  · intro s w hI hJ
    exact sat_reception_quiet haccepting hshape hnext
      (fun s cmptr => hglobals s s.appCfg s.ssl cmptr) hjoin hrefuse
      (fun s w => hQ s w false) hI hJ

/-! ## The main loop -/

/-- The part of a cycle before the poll. -/
def prepare : Proc Unit := do
  note .loopHead
  modifySocket unixSocket Socket.pollForRead
  clearOutput
  let m ← get
  Program.forEach m.socketsList.sockets pollClientForRead

/-- The calls of that part. -/
def Preparing : Call → Prop
  | .close _ | .crash | .note .loopHead => True
  | _ => False

theorem forall_preparing {Q : Call → Prop} (hclose : ∀ d, Q (.close d)) (hcrash : Q .crash)
    (hnote : Q (.note .loopHead)) : ∀ c, Preparing c → Q c := by
  intro c
  fun_cases Preparing c <;> simp [*]

/-- Before the poll read events are requested and the output list is cleared. -/
theorem within_prepare
    (hread : ∀ s p, I s → I (s.modifySocket p Socket.pollForRead))
    (hclear : ∀ s, I s → I { s with outputSocketsList := s.outputSocketsList.clear })
    (herase : ∀ s p, I s → I (s.erase p)) : Within I Preparing prepare := by
  have hpoll : ∀ p, Within I Preparing (modifySocket p Socket.pollForRead) :=
    fun p => within_modify fun s hs => hread s p hs
  refine within_bind (within_note trivial) fun _ => within_bind (hpoll unixSocket) fun _ => ?_
  refine within_bind (within_clearOutput hclear herase fun _ => trivial) fun _ => ?_
  apply within_get_bind
  intro s _
  apply within_forEach
  intro p
  apply within_deref_bind trivial
  intro s socket _ _
  exact within_when (hpoll p)

theorem sat_prepare_quiet (hquiet : Quiet K H G (fun _ => True) Preparing J) (hJ : J w) :
    Sat K H G prepare (fun s' w' _ => Prepared s s' ∧ J w') s w := by
  rw [prepare, sat_bind]
  refine sat_note_quiet hquiet (by trivial) trivial hJ fun w hJ => ?_
  rw [sat_bind, sat_modifySocket, sat_bind]
  have hask : s.Asks (s.modifySocket unixSocket Socket.pollForRead) :=
    s.asks_modifySocket unixSocket POLLIN
  refine (sat_clearOutput_quiet hquiet (fun _ => trivial) hJ).mono ?_
  rintro s₂ w _ ⟨hpruned, hJ⟩
  rw [sat_bind, sat_get]
  have hreads : Within (fun s' => s₂.Asks s') Preparing
      (Program.forEach s₂.socketsList.sockets pollClientForRead) := by
    refine within_forEach fun p => within_deref_bind trivial ?_
    intro s' socket _ _
    exact within_when <| within_modify fun s' hs' =>
      hs'.trans (s'.asks_modifySocket p POLLIN)
  have hquiet' : Quiet K H G (fun s' => s₂.Asks s') Preparing J :=
    hquiet.mono (fun _ _ => trivial) fun _ hc => hc
  apply (hreads.sat hquiet' (Memory.Asks.refl s₂) hJ).mono
  rintro s' w _ ⟨hreads, hJ⟩
  exact ⟨⟨_, s₂, hask, hpruned, hreads⟩, hJ⟩

/-- Read events are requested of the client at {lit}`p`. -/
def Heeded (s : Memory) (p : Ptr) : Prop :=
  ∀ socket, s.heap p = some socket → socket.socketType ≠ .UNIX →
    hasBit socket.events POLLIN = true

theorem Heeded.modifySocket {p : Ptr} (h : Heeded s p) (q : Ptr) :
    Heeded (s.modifySocket q Socket.pollForRead) p := by
  intro socket hsocket htype
  rw [Memory.modifySocket_heap] at hsocket
  split at hsocket
  next =>
    obtain ⟨socket₀, hsocket₀, rfl⟩ := Option.map_eq_some_iff.mp hsocket
    exact hasBit_or_of_hasBit (h socket₀ hsocket₀ htype) POLLIN
  next => exact h socket hsocket htype

theorem heeded_modifySocket (s : Memory) (p : Ptr) :
    Heeded (s.modifySocket p Socket.pollForRead) p := by
  intro socket hsocket _
  rw [Memory.modifySocket_heap, if_pos rfl] at hsocket
  obtain ⟨socket₀, -, rfl⟩ := Option.map_eq_some_iff.mp hsocket
  exact hasBit_or_self (by decide) socket₀.events

/-- The same where the listed pointers are known to be objects: every listed client is
heeded afterwards. -/
theorem sat_prepare_heeded (hs : Shape descriptor s)
    (hquiet : Quiet K H G (fun _ => True) P J)
    (hhead : P (.note .loopHead)) (hclose : ∀ d, P (.close d)) (hJ : J w) :
    Sat K H G prepare (fun s' w' _ => (Prepared s s' ∧
      ∀ p ∈ s'.socketsList.sockets, Heeded s' p) ∧ J w') s w := by
  rw [prepare, sat_bind]
  refine sat_note_quiet hquiet hhead trivial hJ fun w hJ => ?_
  rw [sat_bind, sat_modifySocket, sat_bind]
  have hask : s.Asks (s.modifySocket unixSocket Socket.pollForRead) :=
    s.asks_modifySocket unixSocket POLLIN
  refine (sat_clearOutput_quiet hquiet hclose hJ).mono ?_
  rintro s₂ w _ ⟨hpruned, hJ⟩
  rw [sat_bind, sat_get]
  have hs₂ := (hs.similar hask.similar).clearOutput.pruned hpruned
  apply (sat_forEach (fun ps s' w' => (∀ p ∈ ps, s₂.heap p ≠ none) ∧
    (∀ p ∈ s₂.socketsList.sockets, p ∈ ps ∨ Heeded s' p) ∧ s₂.Asks s' ∧ J w') _
    s₂.socketsList.sockets
    ⟨fun p hp => hs₂.live p (Or.inl hp), fun p hp => Or.inl hp, Memory.Asks.refl s₂, hJ⟩).mono
  · rintro s' w' _ ⟨-, hheeded, hreads, hJ⟩
    refine ⟨⟨⟨_, s₂, hask, hpruned, hreads⟩, fun p hp => ?_⟩, hJ⟩
    rw [hreads.similar.socketsList] at hp
    exact (hheeded p hp).resolve_left List.not_mem_nil
  · rintro p ps s' w' ⟨hlive, hheeded, hreads, hJ⟩
    have htail : ∀ q ∈ ps, s₂.heap q ≠ none := fun q hq => hlive q (List.mem_cons_of_mem p hq)
    rw [pollClientForRead, sat_bind]
    apply sat_deref
    · intro hnone
      exact absurd ((hreads.similar.heap_eq_none_iff p).mp hnone) (hlive p (List.mem_cons_self ..))
    · intro socket hsocket
      rw [sat_when]
      split
      next =>
        refine ⟨htail, fun q hq => ?_, hreads.trans (s'.asks_modifySocket p POLLIN), hJ⟩
        rcases hheeded q hq with hmem | hq
        · rcases List.mem_cons.mp hmem with rfl | hmem
          · exact Or.inr (heeded_modifySocket s' q)
          · exact Or.inl hmem
        · exact Or.inr (hq.modifySocket p)
      next htype =>
        refine ⟨htail, fun q hq => ?_, hreads, hJ⟩
        rcases hheeded q hq with hmem | hq
        · rcases List.mem_cons.mp hmem with rfl | hmem
          · right
            intro socket' hsocket' htype'
            obtain rfl := Option.some.inj (hsocket.symm.trans hsocket')
            exact absurd htype' (by simpa using htype)
          · exact Or.inl hmem
        · exact Or.inr hq

/-- The same without the requests. -/
theorem sat_prepare_live (hs : Shape descriptor s) (hquiet : Quiet K H G (fun _ => True) P J)
    (hhead : P (.note .loopHead)) (hclose : ∀ d, P (.close d)) (hJ : J w) :
    Sat K H G prepare (fun s' w' _ => Prepared s s' ∧ J w') s w :=
  (sat_prepare_heeded hs hquiet hhead hclose hJ).mono fun _ _ _ h => ⟨h.1.1, h.2⟩

/-- One entry of the output list: a message of the listener, or a conversation. -/
theorem sat_processReEvents {p : Ptr} {Q : Memory → W → Bool → Prop}
    (hshape : Shape descriptor s) (hlive : s.heap p ≠ none)
    (hunix : p = unixSocket → Sat K H G (dispatcherProcess unixSocket fuel)
      (fun s w ok => Sat K H G (note (.dispatcherProcess ok))
        (fun s w _ => Q s w (!ok)) s w) s w)
    (hclient : p ≠ unixSocket → Sat K H G (processClient p)
      (fun s w ok => if ok then Q s w false
        else Sat K H G (note (.clientDropped p))
          (fun s w _ => Sat K H G (delSocket p) (fun s w _ => Q s w false) s w) s w)
      s w) :
    Sat K H G (processReEvents unixSocket fuel p) Q s w := by
  cases hp : s.heap p with
  | none => exact absurd hp hlive
  | some socket =>
      rw [processReEvents, sat_bind, sat_deref_of_some hp, sat_ite]
      by_cases hpu : p = unixSocket
      · have htype : socket.socketType = .UNIX := by
          rcases hshape.unix with ⟨socket', hsocket', hid⟩
          rw [hpu, hsocket', Option.some.injEq] at hp
          rw [← hp]
          exact congrArg (·.2.2.2.1) hid
        rw [if_pos htype, sat_bind]
        refine (hunix hpu).mono ?_
        intro s w ok h
        rw [sat_bind]
        exact h
      · have htype : socket.socketType = .SSL :=
          congrArg (·.2.2.2.1) (hshape.client p socket hpu hp)
        rw [if_neg (by simp [htype]), sat_ite, if_pos (Or.inr htype), sat_bind]
        refine (hclient hpu).mono ?_
        intro s w ok h
        rw [sat_bind, sat_when]
        cases ok with
        | true => simpa using h
        | false =>
            rw [if_pos (by decide), sat_bind]
            rw [if_neg (by decide)] at h
            refine h.mono ?_
            intro s w _ h
            rw [sat_bind]
            exact h

/-- Invariant rule of the main loop.  {lit}`Head` holds at the loop head,
{lit}`Ready` before the poll, {lit}`Todo` while the given entries of the output list
are still to be handled, {lit}`Tail` after the last of them, and {lit}`Left` once the
loop has been left. -/
theorem sat_mainLoop_left {cycles : Nat} (Head Ready Tail Failed Left : Memory → W → Prop)
    (Todo : List Ptr → Memory → W → Prop)
    (hprepare : ∀ s w, Head s w → Sat K H G prepare (fun s w _ => Ready s w) s w)
    (hpoll : ∀ s w, Ready s w → Sat K H G pollSockets (fun s w errorType =>
      match errorType with
      | .NONE => Todo s.outputSocketsList.sockets s w
      | .ERROR => Failed s w
      | _ => Tail s w) s w)
    (hprocess : ∀ p ps s w, Todo (p :: ps) s w →
      Sat K H G (processReEvents unixSocket fuel p)
        (fun s w failed => if failed then Failed s w else Todo ps s w) s w)
    (hdone : ∀ s w, Todo [] s w → Tail s w)
    (htail : ∀ s w, Tail s w →
      Sat K H G (note .loopEnd) (fun s w _ => Head s w) s w)
    (hfailed : ∀ s w, Failed s w →
      Sat K H G (note .loopEnd) (fun s w _ => Left s w) s w)
    (hinit : Head s w) :
    Sat K H G (mainLoop unixSocket fuel cycles) (fun s w _ => Left s w) s w := by
  apply sat_repeatUntil Head Left _ cycles hinit
  intro s w hhead
  have hleave : ∀ s w failed, (if failed = true then Failed s w else Tail s w) →
      Sat K H G (do note .loopEnd; pure failed)
        (fun s w stop => if stop = true then Left s w else Head s w) s w := by
    intro s w failed h
    rw [sat_bind]
    cases failed with
    | true => exact (hfailed s w h).mono fun _ _ _ h => h
    | false => exact (htail s w h).mono fun _ _ _ h => h
  have hrest : ∀ s w, Ready s w → Sat K H G
      (do
        let errorType ← pollSockets
        let failed ← handlePoll unixSocket fuel errorType
        note .loopEnd
        pure failed)
      (fun s w stop => if stop = true then Left s w else Head s w) s w := by
    intro s w hready
    refine (hpoll s w hready).seq ?_
    intro s w errorType h
    rw [sat_bind]
    cases errorType with
    | NONE =>
        rw [handlePoll, sat_bind, sat_get]
        refine (sat_forUntil Todo Failed hprocess _ h).mono ?_
        intro s w failed h
        apply hleave
        cases failed with
        | true => exact h
        | false => exact hdone s w h
    | TIMEOUT => exact hleave s w false h
    | INTERRUPTED => exact hleave s w false h
    | ERROR => exact hleave s w true h
  have hcycle := (hprepare s w hhead).mono fun s w _ h => hrest s w h
  simpa only [prepare, cycle, sat_bind] using hcycle

/-- The rule without the memory after the loop. -/
theorem sat_mainLoop {cycles : Nat} (Head Ready Tail Failed : Memory → W → Prop)
    (Todo : List Ptr → Memory → W → Prop)
    (hprepare : ∀ s w, Head s w → Sat K H G prepare (fun s w _ => Ready s w) s w)
    (hpoll : ∀ s w, Ready s w → Sat K H G pollSockets (fun s w errorType =>
      match errorType with
      | .NONE => Todo s.outputSocketsList.sockets s w
      | .ERROR => Failed s w
      | _ => Tail s w) s w)
    (hprocess : ∀ p ps s w, Todo (p :: ps) s w →
      Sat K H G (processReEvents unixSocket fuel p)
        (fun s w failed => if failed then Failed s w else Todo ps s w) s w)
    (hdone : ∀ s w, Todo [] s w → Tail s w)
    (htail : ∀ s w, Tail s w →
      Sat K H G (note .loopEnd) (fun s w _ => Head s w) s w)
    (hfailed : ∀ s w, Failed s w →
      Sat K H G (note .loopEnd) (fun _ _ _ => True) s w)
    (hinit : Head s w) :
    Sat K H G (mainLoop unixSocket fuel cycles) (fun _ _ _ => True) s w :=
  sat_mainLoop_left Head Ready Tail Failed (fun _ _ => True) Todo hprepare hpoll hprocess
    hdone htail hfailed hinit

/-- The calls of a cycle outside the messages of the listener. -/
def Ordinary : Call → Prop
  | .automatic _ | .crash | .close _ | .poll .. | .bioRead .. | .bioWrite .. => True
  | .note .loopHead | .note .loopEnd | .note (.clientDropped _) | .note (.delSocket ..) => True
  | _ => False

theorem forall_ordinary {Q : Call → Prop} (hautomatic : ∀ size, Q (.automatic size))
    (hcrash : Q .crash) (hclose : ∀ d, Q (.close d))
    (hpoll : ∀ pollInfo timeout, Q (.poll pollInfo timeout))
    (hread : ∀ p buffer size, Q (.bioRead p buffer size))
    (hwrite : ∀ p message, Q (.bioWrite p message)) (hhead : Q (.note .loopHead))
    (hend : Q (.note .loopEnd)) (hdropped : ∀ p, Q (.note (.clientDropped p)))
    (hdel : ∀ p before deleted, Q (.note (.delSocket p before deleted))) :
    ∀ c, Ordinary c → Q c := by
  intro c
  fun_cases Ordinary c <;> simp [*]

theorem ordinary_of_preparing : ∀ c, Preparing c → Ordinary c := by
  apply forall_preparing <;> intros <;> trivial

/-- Where everything but the messages of the listener is quiet, the main loop is
specified by what a message does.  The relation {lit}`R` ties the surroundings to the
configuration that the dispatcher holds. -/
theorem sat_mainLoop_messages (descriptor : Int) {cycles : Nat} (R : ApplicationConfig → W → Prop)
    (hquiet : ∀ appCfg, Quiet K H G (fun _ => True) Ordinary (R appCfg))
    (hend : ∀ s w, G s w (.note .loopEnd))
    (hmessage : ∀ s w, Shape descriptor s → R s.appCfg w →
      Sat K H G (dispatcherProcess unixSocket fuel) (fun s' w ok =>
        Sat K H G (note (.dispatcherProcess ok)) (fun s' w _ => ok = true →
          Shape descriptor s' ∧ R s'.appCfg w ∧
            s'.outputSocketsList = s.outputSocketsList) s' w) s w)
    (hshape : Shape descriptor s) (hR : R s.appCfg w) :
    Sat K H G (mainLoop unixSocket fuel cycles) (fun _ _ _ => True) s w := by
  apply sat_mainLoop (fun s w => Shape descriptor s ∧ R s.appCfg w)
    (fun s w => Shape descriptor s ∧ R s.appCfg w ∧ s.outputSocketsList.sockets = [])
    (fun s w => Shape descriptor s ∧ R s.appCfg w) (fun _ _ => True)
    (fun ps s w => Shape descriptor s ∧ R s.appCfg w ∧
      ∀ p ∈ ps, p ∈ s.outputSocketsList.sockets)
  · intro s w h
    have hpreparing : Quiet K H G (fun _ => True) Preparing (R s.appCfg) :=
      (hquiet s.appCfg).mono (fun _ hI => hI) ordinary_of_preparing
    apply (sat_prepare_quiet hpreparing h.2).mono
    rintro s' w _ ⟨hprepared, hR⟩
    exact ⟨h.1.prepared hprepared, hprepared.appCfg ▸ hR, hprepared.output⟩
  · rintro s w ⟨hs, hR, hempty⟩
    have hquiet' := hquiet s.appCfg
    apply sat_pollSockets
    · intro _ w₁ hacts
      exact hquiet'.guarantee s w₁ _ trivial trivial (hacts.keeps hquiet'.act hR)
    · refine sat_ask_quiet hquiet' (by trivial) trivial hR fun r w hR => ?_
      have hreset : Shape descriptor s.reset ∧ R s.reset.appCfg w :=
        ⟨hs.similar s.similar_reset, s.reset_appCfg ▸ hR⟩
      refine ⟨fun _ _ => hreset, fun _ _ => trivial, fun _ => hreset, fun _ _ => ?_⟩
      exact ⟨hs.polled hempty r.revents, (s.polled_appCfg r.revents) ▸ hR, fun p hp => hp⟩
  · rintro p ps s w ⟨hs, hR, hcollected⟩
    have hlive : s.heap p ≠ none :=
      hs.live p (Or.inr (Or.inl (hcollected p (List.mem_cons_self ..))))
    have htail : ∀ q ∈ ps, q ∈ s.outputSocketsList.sockets :=
      fun q hq => hcollected q (List.mem_cons_of_mem p hq)
    apply sat_processReEvents hs hlive
    · intro _
      apply (hmessage s w hs hR).mono
      intro s' w ok hnote
      apply sat_note_mono hnote
      intro w h
      cases ok with
      | true =>
          obtain ⟨hs', hR', houtput⟩ := h rfl
          exact ⟨hs', hR', houtput ▸ htail⟩
      | false => trivial
    · intro hp
      have hquiet' := hquiet s.appCfg
      have hconversation : Quiet K H G (fun s' => s.Similar s' ∧ s'.appCfg = s.appCfg)
          (Conversation p) (R s.appCfg) := by
        apply hquiet'.mono fun _ _ => trivial
        intro c hc
        cases c <;> trivial
      have hwithin := hs.within_processClient hp
      apply (hwithin.sat hconversation ⟨Memory.Similar.refl s, rfl⟩ hR).mono
      rintro s' w ok ⟨⟨hsim, happCfg⟩, hR⟩
      cases ok with
      | true =>
          exact ⟨hs.similar hsim, happCfg.symm ▸ hR, hsim.outputSocketsList ▸ htail⟩
      | false =>
          refine sat_note_quiet hquiet' (by trivial) trivial hR fun w hR => ?_
          apply (sat_delSocket_quiet hquiet' (fun _ => trivial) rfl rfl ?_).mono
          · rintro s'' w _ ⟨hpruned, hR⟩
            refine ⟨((hs.similar hsim).delSocket _).pruned hpruned, ?_, ?_⟩
            · rw [hpruned.rest]
              exact happCfg.symm ▸ hR
            · rw [hpruned.outputSocketsList]
              exact hsim.outputSocketsList ▸ htail
          · exact sat_note_quiet hquiet' (by trivial) trivial hR fun w hR => ⟨rfl, hR⟩
  · exact fun s w h => ⟨h.1, h.2.1⟩
  · intro s w h
    exact sat_note_quiet (hquiet s.appCfg) (by trivial) trivial h.2 fun w hR => ⟨h.1, hR⟩
  · intro s w _ w₁ _
    exact ⟨hend s w₁, fun _ _ _ _ => trivial⟩
  · exact ⟨hshape, hR⟩

end Specs

/-! ## Scripts -/

/-- What the listener sends a dispatcher first. -/
def configuration : List Byte := ascii "CONFIGPPID=1\nCAFILE=a\nCERTFILE=c\nKEYFILE=k\n"

/-- The replies of a cycle in which a configuration arrives and nothing else happens.
The first one of a run creates the context, and its files can be loaded. -/
def configured {A : Type} (first : Bool) (message : List Byte) : List (A ⊕ Reply) :=
  [.inr {}, .inr { ret := 1, revents := [POLLIN] }, .inr {},
    .inr { ret := message.length, bytes := message }, .inr {},
    .inr { ret := message.length, bytes := message }, .inr {}, .inr {}] ++
  (if first then List.replicate 4 (.inr { ret := 1 }) else []) ++ [.inr {}, .inr {}]

/-- The replies of a cycle in which a descriptor arrives and nothing else happens.
The first one of a run allocates the control buffer. -/
def arrival {A : Type} (first : Bool) (d : Int) : List (A ⊕ Reply) :=
  [.inr {}, .inr { ret := 1, revents := [POLLIN] }, .inr {},
    .inr { ret := 2, bytes := [0, 0] }, .inr {}] ++
  (if first then [.inr { data := some 0 }] else []) ++
  [.inr { ret := 2, bytes := [0, 0], data := some d }, .inr {}, .inr {}, .inr {}, .inr {}]

end Mydisp

end SocketDispatcher
