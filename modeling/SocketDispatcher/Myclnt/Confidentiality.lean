import SocketDispatcher.Library.Exchange
import SocketDispatcher.Mydisp.Rules
import SocketDispatcher.Myclnt
import SocketDispatcher.SslSocket

/-!
# What the wire shows of a conversation

A client and a dispatcher run side by side.  What one of them writes to the TCP
connection is queued and read by the other one.  Two conversations are alike when
nothing but the contents of the lines that the client sends tells them apart, and an
observer of the wire sees what both ends write.

Main results:

- Theorem {lit}`wire_eq_iff`: alike conversations show the same trace exactly if the
  same bytes of each line were accepted.
- Theorem {lit}`trace_ssl`: they would show the same trace through SSL objects.

Current gaps:

- The bytes of the TLS handshake are not part of the trace.
-/

namespace SocketDispatcher

open Interaction

namespace Myclnt

/-- An answered call: those of the client are on the left, those of the dispatcher on
the right. -/
abbrev Event := (Call × Reply) ⊕ (Call × Reply)

/-- What a conversation is about. -/
structure Setup where
  /-- The descriptor of the socket that the client connects. -/
  sockfd : Int
  /-- The object that the dispatcher receives, and the pointer to the
  {lit}`SslSocket` that it makes of it. -/
  clientSocket : Socket
  clientSslSocket : Ptr
  /-- The descriptor of the UNIX socket of the dispatcher. -/
  unixDescriptor : Nat
  fuel : Nat
  cycles : Nat
  iterations : Nat

/-! ## Conversations -/

/-- Bytes on their way. -/
structure InFlight where
  toDispatcher : List Byte := []
  toClient : List Byte := []

/-- The queue after a read, if it can give this reply. -/
def takeFrom (queue : List Byte) (size : Nat) (r : Reply) : Option (List Byte) :=
  if r.ret.toNat = r.bytes.length ∧ r.bytes.length ≤ size ∧ r.bytes <+: queue then
    some (queue.drop r.bytes.length)
  else
    none

/-- The queue after a write, if it can accept that many bytes. -/
def appendTo (queue message : List Byte) (r : Reply) : Option (List Byte) :=
  if r.ret ≤ message.length then some (queue ++ message.take r.ret.toNat) else none

/-- What an answered call does to the bytes on their way.  The result is
{lean}`none` when the two processes cannot be connected and give that answer. -/
def InFlight.step (setup : Setup) (inFlight : InFlight) : Event → Option InFlight
  | .inl (.socket _, r) => if r.ret = setup.sockfd then some inFlight else none
  | .inl (.bioWrite _ message, r) =>
      (appendTo inFlight.toDispatcher message r).map fun queue =>
        { inFlight with toDispatcher := queue }
  | .inl (.bioRead _ _ size, r) =>
      (takeFrom inFlight.toClient size r).map fun queue =>
        { inFlight with toClient := queue }
  | .inr (.note (.putSocket p descriptor _), _) =>
      if p = setup.clientSslSocket ∧ descriptor ≠ setup.clientSocket.descriptor then none
      else some inFlight
  | .inr (.bioWrite p message, r) =>
      if p = setup.clientSslSocket then
        (appendTo inFlight.toClient message r).map fun queue =>
          { inFlight with toClient := queue }
      else
        some inFlight
  | .inr (.bioRead p _ size, r) =>
      if p = setup.clientSslSocket then
        (takeFrom inFlight.toDispatcher size r).map fun queue =>
          { inFlight with toDispatcher := queue }
      else
        some inFlight
  | _ => some inFlight

/-- The answered calls of a client and a dispatcher. -/
def conversation (setup : Setup) (schedule : List (Reply ⊕ Reply)) : List Event :=
  interleave booted (main setup.iterations) (Mydisp.started setup.unixDescriptor)
    (Mydisp.mainLoop Mydisp.unixSocket setup.fuel setup.cycles) schedule

/-- A run of the client with the dispatcher. -/
structure Exchange (setup : Setup) where
  schedule : List (Reply ⊕ Reply)
  /-- What is read is what the other side has written. -/
  coupled :
    ((conversation setup schedule).foldlM (InFlight.step setup) {}).isSome = true

namespace Exchange

variable {setup : Setup}

/-- The answered calls of both processes. -/
def events (e : Exchange setup) : List Event :=
  conversation setup e.schedule

/-- The answered calls of the client. -/
def ofClient (e : Exchange setup) : List (Call × Reply) :=
  e.events.filterMap Sum.getLeft?

end Exchange

/-! ## Conversations that differ in the contents of the lines -/

/-- As many zeros. -/
def zeros (bytes : List Byte) : List Byte :=
  List.replicate bytes.length 0

/-- Forget which bytes a reply has stored. -/
def zeroBytes (r : Reply) : Reply :=
  { r with bytes := zeros r.bytes }

/-- An answered call of the client without the contents of the lines.  A buffer on the
stack may hold what is left of one. -/
def outlineClient : Call × Reply → Call × Reply
  | (.automatic size, r) => (.automatic size, zeroBytes r)
  | (.bioRead p buffer size, r) => (.bioRead p (zeros buffer) size, r)
  | (.cin, r) => (.cin, zeroBytes r)
  | (.bioWrite p message, r) => (.bioWrite p (zeros message), r)
  | (.write fd message, r) => (.write fd (zeros message), r)
  | answered => answered

/-- An answered call of the dispatcher without the contents of the lines.  What it
writes is kept. -/
def outlineDispatcher (clientSslSocket : Ptr) : Call × Reply → Call × Reply
  | (.automatic size, r) => (.automatic size, zeroBytes r)
  | (.recv fd buffer size peek, r) => (.recv fd (zeros buffer) size peek, r)
  | (.recvmsg fd buffer size, r) => (.recvmsg fd (zeros buffer) size, r)
  | (.bioRead p buffer size, r) =>
      (.bioRead p (zeros buffer) size, if p = clientSslSocket then zeroBytes r else r)
  | answered => answered

/-- An answered call without the contents of the lines. -/
def outline (setup : Setup) : Event → Event :=
  Sum.map outlineClient (outlineDispatcher setup.clientSslSocket)

/-- Two runs with the same events, lengths and reply decisions. -/
def Alike {setup : Setup} (e₁ e₂ : Exchange setup) : Prop :=
  e₁.events.map (outline setup) = e₂.events.map (outline setup)

instance {setup : Setup} (e₁ e₂ : Exchange setup) : Decidable (Alike e₁ e₂) :=
  inferInstanceAs (Decidable (_ = _))

/-! ## The observer -/

/-- What the wire shows of a write of which some bytes were accepted. -/
def showsWrite (shows : List Byte → Shown) (message : List Byte) (ret : Int) : Option Shown :=
  if 0 < ret then some (shows (message.take ret.toNat)) else none

/-- What the wire shows of an answered call of the client.  Bytes that are written to a
plain socket are shown. -/
def observeClient (channel : Channel) : Call × Reply → Option Shown
  | (.bioWrite _ message, r) => showsWrite channel.shows message r.ret
  | (.write _ message, r) => showsWrite .bytes message r.ret
  | _ => none

/-- What the wire shows of an answered call of the dispatcher. -/
def observeDispatcher (setup : Setup) (channel : Channel) : Call × Reply → Option Shown
  | (.bioWrite p message, r) =>
      if p = setup.clientSslSocket then showsWrite channel.shows message r.ret else none
  | (.write fd message, r) =>
      if fd = setup.clientSocket.descriptor then showsWrite .bytes message r.ret else none
  | _ => none

/-- The trace of the observer when both ends write to these channels. -/
def trace (setup : Setup) (client dispatcher : Channel) (events : List Event) :
    List (Shown ⊕ Shown) :=
  events.filterMap (seen (observeClient client) (observeDispatcher setup dispatcher))

/-- The trace of the observer. -/
def Exchange.wire {setup : Setup} (e : Exchange setup) : List (Shown ⊕ Shown) :=
  trace setup (writeChannel (.sslClientSocket setup.sockfd))
    (writeChannel (.ofSocket setup.clientSocket)) e.events

/-! ## Rounds of the client -/

/-- A line that was typed. -/
def typed : Call × Reply → Option (List Byte)
  | (.cin, r) => some r.bytes
  | _ => none

/-- The result of a write. -/
def written : Call × Reply → Option Int
  | (.bioWrite _ _, r) => some r.ret
  | (.write _ _, r) => some r.ret
  | _ => none

/-- The lines that were typed, each with the result of the write that followed. -/
def rounds (answered : List (Call × Reply)) : List (List Byte × Int) :=
  (answered.filterMap typed).zip (answered.filterMap written)

/-- What is sent for a line. -/
def line (word : List Byte) : List Byte :=
  if word = [] then exitMessage else word

/-- What the wire shows of a round. -/
def observeRound (channel : Channel) (round : List Byte × Int) : Option Shown :=
  showsWrite channel.shows (line round.1) round.2

/-- The bytes of a line that the write accepted. -/
def acceptedBytes (round : List Byte × Int) : List Byte :=
  round.1.take round.2.toNat

/-- The bytes that the writes accepted of each line. -/
def Exchange.acceptedLines {setup : Setup} (e : Exchange setup) : List (List Byte) :=
  (rounds e.ofClient).map acceptedBytes

/-! ## Runs of the client -/

/-- What the observer sees of these answered calls are their rounds. -/
def ShowsRounds (channel : Channel) (answered : List (Call × Reply)) : Prop :=
  answered.filterMap (observeClient channel) =
    (rounds answered).filterMap (observeRound channel)

/-- Calls that neither read a line nor write. -/
def silent : Call → Bool
  | .cin => false
  | .bioWrite _ _ => false
  | .write _ _ => false
  | _ => true

theorem showsRounds_nil (channel : Channel) : ShowsRounds channel [] :=
  rfl

theorem ShowsRounds.cons_silent {channel : Channel} {answered : List (Call × Reply)}
    (h : ShowsRounds channel answered) {c : Call} (hc : silent c = true) (r : Reply) :
    ShowsRounds channel ((c, r) :: answered) := by
  cases c <;> first | exact h | contradiction

/-- A line is read and sent. -/
theorem ShowsRounds.cons_round {channel : Channel} {answered : List (Call × Reply)}
    (h : ShowsRounds channel answered) (p : Ptr) (word r : Reply) :
    ShowsRounds channel
      ((.cin, word) :: (.bioWrite p (line word.bytes), r) :: answered) := by
  have hrounds : rounds ((.cin, word) :: (.bioWrite p (line word.bytes), r) :: answered) =
      (word.bytes, r.ret) :: rounds answered := rfl
  have hwrite : observeClient channel (.bioWrite p (line word.bytes), r) =
      observeRound channel (word.bytes, r.ret) := rfl
  rw [ShowsRounds, hrounds, List.filterMap_cons_none rfl]
  rw [ShowsRounds] at h
  rw [List.filterMap_cons, List.filterMap_cons, hwrite, h]

section Runs

variable {m : Memory} {p : Ptr} {socket : Socket} {α : Type} {channel : Channel}
variable {rs : List Reply}

theorem transcript_deref_bind (hp : m.heap p = some socket) (f : Socket → Proc α) :
    transcript m (deref p >>= f) rs = transcript m (f socket) rs := by
  rw [deref_bind, transcript_get, hp]

theorem transcript_makeShared_bind (socket : Socket) (f : Ptr → Proc α) :
    transcript m (makeShared socket >>= f) rs =
      transcript (m.alloc socket) (f m.next) rs := by
  have hset : makeShared socket >>= f =
      .get fun m => .set (m.alloc socket) (f m.next) := rfl
  rw [hset, transcript_get, transcript_set]

/-- Writing to a TLS socket is a call to {lit}`BIO_write`. -/
theorem transcript_write_bind (hp : m.heap p = some socket)
    (hssl : socket.isSslSocket = true) (message : List Byte) (f : Int → Proc α) :
    transcript m (write p message >>= f) rs =
      transcript m (Program.ask (.bioWrite p message) >>= fun r => f r.ret) rs := by
  rw [write, bind_assoc, transcript_deref_bind hp, if_pos hssl, bind_assoc]
  rfl

theorem showsRounds_ask_bind {c : Call} {k : Reply → Proc α} (hc : silent c = true)
    (hk : ∀ r rs, ShowsRounds channel (transcript m (k r) rs)) :
    ShowsRounds channel (transcript m (Program.ask c >>= k) rs) := by
  cases rs with
  | nil =>
      rw [transcript_nil]
      exact showsRounds_nil channel
  | cons r rs =>
      rw [transcript_ask_bind]
      exact (hk r rs).cons_silent hc r

theorem showsRounds_pure (a : α) :
    ShowsRounds channel (transcript m (pure a : Proc α) rs) := by
  rw [transcript_pure]
  exact showsRounds_nil channel

theorem showsRounds_read_bind (hp : m.heap p = some socket)
    (hssl : socket.isSslSocket = true) {buffer : List Byte} {size : Nat}
    {f : Int × List Byte → Proc α}
    (hf : ∀ a rs, ShowsRounds channel (transcript m (f a) rs)) :
    ShowsRounds channel (transcript m (read p buffer size >>= f) rs) := by
  rw [read, bind_assoc, transcript_deref_bind hp, if_pos hssl, bind_assoc]
  apply showsRounds_ask_bind rfl
  intro r rs
  exact hf _ rs

/-- The result of a write is ignored: an empty line ends the loop, any other line is
sent as it is. -/
theorem converse_eq (p : Ptr) :
    converse p = (do
      let recvBuffer ← Program.ask (.automatic 1024)
      let _ ← read p recvBuffer.bytes 1024
      let userInputLine ← Program.ask .cin
      let _ ← write p (line userInputLine.bytes)
      pure (decide (userInputLine.bytes = []))) := by
  unfold converse line
  congr 1
  ext recvBuffer
  congr 1
  ext a
  congr 1
  ext userInputLine
  by_cases hword : userInputLine.bytes = [] <;> simp [hword]

theorem showsRounds_converse_bind (hp : m.heap p = some socket)
    (hssl : socket.isSslSocket = true) {f : Bool → Proc α}
    (hf : ∀ stop rs, ShowsRounds channel (transcript m (f stop) rs)) :
    ShowsRounds channel (transcript m (converse p >>= f) rs) := by
  rw [converse_eq, bind_assoc]
  apply showsRounds_ask_bind rfl
  intro recvBuffer rs
  rw [bind_assoc]
  apply showsRounds_read_bind hp hssl
  intro _ rs
  rw [bind_assoc]
  match rs with
  | [] =>
      rw [transcript_nil]
      exact showsRounds_nil channel
  | [word] =>
      -- the line has been read and not been sent yet
      rw [transcript_ask_bind, transcript_nil]
      rfl
  | word :: r :: rs =>
      rw [transcript_ask_bind, bind_assoc, transcript_write_bind hp hssl,
        transcript_ask_bind, pure_bind]
      exact (hf _ rs).cons_round p word r

/-- The loop of the client. -/
theorem showsRounds_repeatUntil (hp : m.heap p = some socket)
    (hssl : socket.isSslSocket = true) {f : Unit → Proc α}
    (hf : ∀ rs, ShowsRounds channel (transcript m (f ()) rs)) (iterations : Nat) :
    ShowsRounds channel
      (transcript m (Program.repeatUntil (converse p) iterations >>= f) rs) := by
  induction iterations generalizing rs with
  | zero =>
      have hcut : Program.repeatUntil (converse p) 0 >>= f = .cut := rfl
      rw [hcut, transcript_cut]
      exact showsRounds_nil channel
  | succ iterations ih =>
      rw [Program.repeatUntil, bind_assoc]
      apply showsRounds_converse_bind hp hssl
      intro stop rs
      cases stop with
      | true => exact hf rs
      | false => exact ih

/-- The empty pointer, or a new TLS socket: nothing has been sent through it. -/
theorem showsRounds_createSocket_bind {host : List Byte} {port : Nat} {f : Ptr → Proc α}
    (hfail : ∀ rs, ShowsRounds channel (transcript m (f nullptr) rs))
    (hok : ∀ (m' : Memory) p socket rs, m'.heap p = some socket → socket.isSslSocket = true →
      ShowsRounds channel (transcript m' (f p) rs)) :
    ShowsRounds channel
      (transcript m (TcpSslConnectSocketFactory.createSocket host port >>= f) rs) := by
  have hclosed (d : Int) (rs : List Reply) : ShowsRounds channel (transcript m
      ((Program.ask (.close d) >>= fun _ => pure nullptr) >>= f) rs) := by
    rw [bind_assoc]
    apply showsRounds_ask_bind rfl
    intro _ rs
    exact hfail rs
  rw [TcpSslConnectSocketFactory.createSocket, bind_assoc]
  apply showsRounds_ask_bind rfl
  intro hostEntry rs
  split
  next => exact hfail rs
  next h_length hdata =>
    split
    next => exact hfail rs
    next hlength =>
      rw [bind_assoc]
      apply showsRounds_ask_bind rfl
      intro sockfd rs
      split
      next => exact hfail rs
      next hsockfd =>
        rw [bind_assoc]
        apply showsRounds_ask_bind rfl
        intro connected rs
        split
        next => exact hclosed sockfd.ret rs
        next =>
          rw [bind_assoc]
          apply showsRounds_ask_bind rfl
          intro r rs
          split
          next => exact hclosed sockfd.ret rs
          next =>
            rw [transcript_makeShared_bind]
            apply hok _ _ _ rs
            · rw [Memory.alloc_heap, if_pos rfl]
            · rfl

/-- Nothing is sent when the socket is destroyed. -/
theorem showsRounds_release_bind {f : Unit → Proc α}
    (hf : ∀ m rs, ShowsRounds channel (transcript m (f ()) rs)) :
    ShowsRounds channel (transcript m (release p >>= f) rs) := by
  rw [release, bind_assoc, transcript_get_bind]
  split
  next => exact hf m rs
  next =>
    rw [destroy, bind_assoc, transcript_get_bind]
    split
    next => exact hf m rs
    next socket hsocket =>
      rw [bind_assoc, transcript_set_bind]
      split
      next => exact hf _ rs
      next =>
        rw [bind_assoc]
        exact showsRounds_ask_bind rfl fun _ rs => hf _ rs

/-- In every run of the client the observer sees its rounds. -/
theorem showsRounds_main (iterations : Nat) :
    ShowsRounds channel (transcript booted (main iterations) rs) := by
  rw [main]
  apply showsRounds_createSocket_bind
  · intro rs
    rw [if_pos rfl]
    exact showsRounds_pure (1 : Int)
  · intro m' p socket rs hp hssl
    split
    next => exact showsRounds_pure (1 : Int)
    next =>
      apply showsRounds_repeatUntil hp hssl
      intro rs
      apply showsRounds_release_bind
      exact fun _ _ => showsRounds_pure (0 : Int)

end Runs

/-! ## What the contents of the lines do not change -/

theorem length_zeros (bytes : List Byte) : (zeros bytes).length = bytes.length :=
  List.length_replicate

theorem zeros_eq_iff (bytes bytes' : List Byte) :
    zeros bytes = zeros bytes' ↔ bytes.length = bytes'.length := by
  constructor
  · intro h
    rw [← length_zeros bytes, h, length_zeros]
  · intro h
    rw [zeros, zeros, h]

/-- A write is seen or not, whatever it contains. -/
theorem isSome_showsWrite (shows : List Byte → Shown) (message : List Byte) (ret : Int) :
    (showsWrite shows message ret).isSome = decide (0 < ret) := by
  unfold showsWrite
  split <;> simp_all

theorem isSome_observeClient_outline (channel : Channel) (answered : Call × Reply) :
    (observeClient channel (outlineClient answered)).isSome =
      (observeClient channel answered).isSome := by
  obtain ⟨c, r⟩ := answered
  cases c <;> simp [outlineClient, observeClient, isSome_showsWrite]

/-- What the dispatcher writes does not change. -/
theorem observeDispatcher_outline (setup : Setup) (channel : Channel)
    (answered : Call × Reply) :
    observeDispatcher setup channel (outlineDispatcher setup.clientSslSocket answered) =
      observeDispatcher setup channel answered := by
  obtain ⟨c, r⟩ := answered
  cases c <;> rfl

theorem typed_outlineClient (answered : Call × Reply) :
    typed (outlineClient answered) = (typed answered).map zeros := by
  obtain ⟨c, r⟩ := answered
  cases c <;> rfl

theorem written_outlineClient (answered : Call × Reply) :
    written (outlineClient answered) = written answered := by
  obtain ⟨c, r⟩ := answered
  cases c <;> rfl

/-- The rounds without the contents of the lines. -/
theorem rounds_outlineClient (answered : List (Call × Reply)) :
    rounds (answered.map outlineClient) =
      (rounds answered).map (Prod.map zeros id) := by
  have htyped : (answered.map outlineClient).filterMap typed =
      (answered.filterMap typed).map zeros := by
    rw [List.filterMap_map, List.map_filterMap]
    exact congrFun (congrArg List.filterMap (funext typed_outlineClient)) answered
  have hwritten : (answered.map outlineClient).filterMap written =
      answered.filterMap written := by
    rw [List.filterMap_map]
    exact congrFun (congrArg List.filterMap (funext written_outlineClient)) answered
  rw [rounds, htyped, hwritten, rounds, List.zip_map_left]

namespace Alike

variable {setup : Setup} {e₁ e₂ : Exchange setup}

/-- Where an answered call looks the same, the observer sees the same of the
dispatcher, and sees the client write in both or in neither. -/
theorem liftRel (halike : Alike e₁ e₂) (client dispatcher : Channel) :
    List.Forall₂ (Sum.LiftRel
      (fun a b => (observeClient client a).isSome = (observeClient client b).isSome)
      (fun a b => observeDispatcher setup dispatcher a = observeDispatcher setup dispatcher b))
      e₁.events e₂.events := by
  apply (map_eq_iff_forall₂.mp halike).imp
  intro a b hab
  cases a with
  | inl a =>
      cases b with
      | inl b =>
          have houtline : outlineClient a = outlineClient b := Sum.inl.inj hab
          constructor
          rw [← isSome_observeClient_outline, houtline, isSome_observeClient_outline]
      | inr b => contradiction
  | inr a =>
      cases b with
      | inl b => contradiction
      | inr b =>
          have houtline := Sum.inr.inj hab
          constructor
          rw [← observeDispatcher_outline, houtline, observeDispatcher_outline]

/-- The answered calls of the client without the contents of the lines. -/
theorem ofClient (halike : Alike e₁ e₂) :
    e₁.ofClient.map outlineClient = e₂.ofClient.map outlineClient := by
  have hleft (e : Exchange setup) :
      (e.events.map (outline setup)).filterMap Sum.getLeft? =
        e.ofClient.map outlineClient := by
    rw [Exchange.ofClient, List.filterMap_map, List.map_filterMap]
    congr 1
    ext event : 1
    cases event <;> rfl
  rw [← hleft, halike, hleft]

/-- The rounds of alike runs have lines of the same lengths and the same results. -/
theorem rounds (halike : Alike e₁ e₂) :
    List.Forall₂ (fun a b => a.1.length = b.1.length ∧ a.2 = b.2)
      (Myclnt.rounds e₁.ofClient) (Myclnt.rounds e₂.ofClient) := by
  have hmap : (Myclnt.rounds e₁.ofClient).map (Prod.map zeros id) =
      (Myclnt.rounds e₂.ofClient).map (Prod.map zeros id) := by
    rw [← rounds_outlineClient, halike.ofClient, rounds_outlineClient]
  apply (map_eq_iff_forall₂.mp hmap).imp
  intro a b hab
  rw [Prod.ext_iff] at hab
  exact ⟨(zeros_eq_iff _ _).mp hab.1, hab.2⟩

/-- The observer tells alike runs apart exactly by what is seen of their rounds. -/
theorem trace_iff (halike : Alike e₁ e₂) (client dispatcher : Channel) :
    trace setup client dispatcher e₁.events = trace setup client dispatcher e₂.events ↔
      (Myclnt.rounds e₁.ofClient).filterMap (observeRound client) =
        (Myclnt.rounds e₂.ofClient).filterMap (observeRound client) := by
  have hshows (e : Exchange setup) : ShowsRounds client e.ofClient := by
    rw [Exchange.ofClient, Exchange.events, conversation, getLeft_interleave]
    exact showsRounds_main setup.iterations
  rw [trace, trace, filterMap_elim_iff (halike.liftRel client dispatcher)]
  rw [← hshows e₁, ← hshows e₂]
  rfl

end Alike

/-! ## Channels -/

/-- Lines of the same length are sent as messages of the same length. -/
theorem length_line {word word' : List Byte} (h : word.length = word'.length) :
    (line word).length = (line word').length := by
  have hnil : word = [] ↔ word' = [] := by
    rw [← List.length_eq_zero_iff, h, List.length_eq_zero_iff]
  unfold line
  split <;> simp_all

section Rounds

variable {a b : List Byte × Int}

/-- Through an SSL object, rounds of the same lengths look the same. -/
theorem observeRound_ssl (hlength : a.1.length = b.1.length) (hret : a.2 = b.2) (ssl : Ssl) :
    observeRound (.ssl ssl) a = observeRound (.ssl ssl) b := by
  simp only [observeRound, showsWrite, Channel.shows, List.length_take,
    length_line hlength, hret]

/-- Through a BIO, they look the same exactly if the same bytes were accepted. -/
theorem observeRound_bio_iff (hlength : a.1.length = b.1.length) (hret : a.2 = b.2)
    (bio : Bio) :
    observeRound (.bio bio) a = observeRound (.bio bio) b ↔
      acceptedBytes a = acceptedBytes b := by
  unfold observeRound showsWrite Channel.shows acceptedBytes
  rw [hret]
  by_cases hpos : 0 < b.2
  · rw [if_pos hpos, if_pos hpos, Option.some_inj, Shown.bytes.injEq]
    by_cases hword : b.1 = []
    · have hword' : a.1 = [] := by
        rw [← List.length_eq_zero_iff, hlength, hword, List.length_nil]
      rw [hword, hword']
      simp
    · have hword' : a.1 ≠ [] := by
        rw [← List.length_pos_iff, hlength, List.length_pos_iff]
        exact hword
      rw [line, if_neg hword', line, if_neg hword]
  · rw [if_neg hpos, if_neg hpos, Int.toNat_of_nonpos (by omega)]
    simp

end Rounds

/-- If both ends wrote to their SSL objects, alike runs would show the same trace. -/
theorem trace_ssl {setup : Setup} {e₁ e₂ : Exchange setup} (halike : Alike e₁ e₂)
    (client dispatcher : Ssl) :
    trace setup (.ssl client) (.ssl dispatcher) e₁.events =
      trace setup (.ssl client) (.ssl dispatcher) e₂.events := by
  have hrounds := halike.rounds.imp fun a b hround =>
    observeRound_ssl (a := a) (b := b) hround.1 hround.2 client
  rw [halike.trace_iff, filterMap_eq_iff (hrounds.imp fun a b h => ⟨by rw [h], Iff.rfl⟩),
    map_eq_iff_forall₂]
  exact hrounds

/-! ## The trace of the observer -/

/-- Alike runs show the same trace exactly if the same bytes of each line were
accepted. -/
theorem wire_eq_iff {setup : Setup} {e₁ e₂ : Exchange setup} (halike : Alike e₁ e₂) :
    e₁.wire = e₂.wire ↔ e₁.acceptedLines = e₂.acceptedLines := by
  unfold Exchange.wire Exchange.acceptedLines writeChannel
  rw [halike.trace_iff]
  apply filterMap_eq_iff
  apply halike.rounds.imp
  intro a b hround
  constructor
  · unfold observeRound
    rw [isSome_showsWrite, isSome_showsWrite, hround.2]
  · exact observeRound_bio_iff hround.1 hround.2 _

/-! ## Two conversations -/

/-- The client connects as 3 and arrives at the dispatcher as 4. -/
def talk : Setup where
  sockfd := 3
  clientSocket :=
    { cls := .tcpSocket, descriptor := 4, socketType := .TCP, descriptor_ne := natCast_ne_FREE_SOCKET 4 }
  clientSslSocket := 3
  unixDescriptor := 0
  fuel := 1
  cycles := 4
  iterations := 1

/-- The client connects, is received by a configured dispatcher and greeted; then it sends a
word of one letter, which is answered. -/
def saying (word : List Byte) : List (Reply ⊕ Reply) :=
  let connects : List Reply :=
    [{ data := some 4, bytes := [127, 0, 0, 1] }, { ret := 3 }, {}, { ret := 1 }]
  let greets : List Reply :=
    [{}, { ret := 1, revents := [NO_EVENTS, POLLOUT] }, { ret := 10 }, {}]
  let sends : List Reply :=
    [{}, { ret := 10, bytes := ascii "HELLO!!!!\n" }, { bytes := word }, { ret := 1 }]
  let answers : List Reply :=
    [{}, { ret := 1, revents := [NO_EVENTS, POLLIN] }, {}, { ret := 1, bytes := word },
      { ret := 10 }, {}]
  connects.map .inl ++ Mydisp.configured true Mydisp.configuration ++
    Mydisp.arrival true 4 ++ greets.map .inr ++ sends.map .inl ++ answers.map .inr

def sayingA : Exchange talk :=
  ⟨saying (ascii "A"), by decide⟩

def sayingB : Exchange talk :=
  ⟨saying (ascii "B"), by decide⟩

/-- The two runs are alike and the wire tells them apart. -/
theorem discloses_line :
    ¬∀ (setup : Setup) (e₁ e₂ : Exchange setup), Alike e₁ e₂ → e₁.wire = e₂.wire := by
  intro h
  have halike : Alike sayingA sayingB := by decide
  have hwire : sayingA.wire ≠ sayingB.wire := by decide
  exact hwire (h talk sayingA sayingB halike)

theorem wire_eq_iff_saying :
    Alike sayingA sayingB ∧
      (sayingA.wire = sayingB.wire ↔ sayingA.acceptedLines = sayingB.acceptedLines) := by
  have halike : Alike sayingA sayingB := by decide
  exact ⟨halike, wire_eq_iff halike⟩

end Myclnt

end SocketDispatcher
