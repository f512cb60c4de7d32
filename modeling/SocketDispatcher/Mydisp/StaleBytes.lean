import SocketDispatcher.Mydisp

/-!
# Decisions on received bytes

Both {lit}`dispatcherProcess` and {lit}`processClient` compare the front of an
uninitialised buffer with a keyword, whatever the count of received bytes is.  Two
runs that differ only in what the stack held there before may therefore part.

Main results:

- Theorem {lit}`memcmp_of_decided`: enough received bytes, or a wrong one among
  them, settle a comparison.
- Theorem {lit}`decides_iff`: the results after which the stale bytes do not matter,
  for both functions.
-/

namespace SocketDispatcher

open Interaction

/-! ## Keywords in stale buffers -/

/-- Received bytes that may be the beginning of a keyword. -/
def Undecided (keyword bytes : List Byte) : Prop :=
  bytes <+: keyword ∧ bytes.length < keyword.length

/-- Unless the received bytes are the beginning of the keyword, they alone settle the
comparison. -/
theorem memcmp_of_decided {keyword bytes : List Byte} (h : ¬Undecided keyword bytes)
    (stale : List Byte) :
    memcmp (memcpy stale bytes) keyword = memcmp bytes keyword := by
  rw [Bool.eq_iff_iff, memcmp_iff, memcmp_iff, memcpy]
  constructor
  · intro hstart
    rcases List.prefix_or_prefix_of_prefix hstart (List.prefix_append bytes _) with
      hbytes | hkeyword
    · exact hbytes
    · -- otherwise the keyword would go on behind the received bytes
      by_cases hlength : bytes.length < keyword.length
      · exact absurd ⟨hkeyword, hlength⟩ h
      · have heq : bytes = keyword := hkeyword.eq_of_length_le (by omega)
        exact heq ▸ List.prefix_rfl
  · intro hbytes
    exact hbytes.trans (List.prefix_append bytes _)

/-- A stale keyword completes the beginning of itself. -/
theorem memcmp_completed {keyword bytes : List Byte} (h : bytes <+: keyword)
    (rest : List Byte) : memcmp (memcpy (keyword ++ rest) bytes) keyword = true := by
  rcases h with ⟨tail, rfl⟩
  rw [memcmp_iff, memcpy, List.append_assoc, List.drop_left]
  exact ⟨rest, by simp⟩

/-- Stale zero bytes complete no keyword. -/
theorem memcmp_blank {keyword bytes : List Byte} (hzero : 0 ∉ keyword)
    (h : bytes.length < keyword.length) {n : Nat} (hn : bytes.length < n) :
    memcmp (memcpy (List.replicate n 0) bytes) keyword = false := by
  rw [Bool.eq_false_iff]
  intro hstart
  have hblank : memcpy (List.replicate n 0) bytes =
      bytes ++ 0 :: List.replicate (n - bytes.length - 1) 0 := by
    rw [memcpy, List.drop_replicate, ← List.replicate_succ]
    congr 2
    omega
  rw [hblank, memcmp_terminated keyword hzero] at hstart
  have hlength := hstart.length_le
  omega

namespace Mydisp

/-- Where a program stands after the steps that need no reply. -/
def settled {α : Type} (s : Memory) (p : Proc α) : Config Memory Unit Call Reply α :=
  ⟨(p.settle s).1, (), (p.settle s).2⟩

/-- Dereferencing an object needs no reply. -/
theorem settle_deref_bind {α : Type} {s : Memory} {p : Ptr} {socket : Socket}
    (hp : s.heap p = some socket) (f : Socket → Proc α) :
    (deref p >>= f).settle s = (f socket).settle s := by
  rw [deref_bind, Program.settle, hp]

/-- A dead pointer crashes, whatever would have followed. -/
theorem settle_deref_dead {α : Type} {s : Memory} {p : Ptr} (hp : s.heap p = none)
    (f : Socket → Proc α) :
    (deref p >>= f).settle s = (s, .call .crash fun _ => .cut) := by
  rw [deref_bind, Program.settle, hp]
  rfl

/-! ## Messages of the listener -/

/-- The part of {lit}`dispatcherProcess` behind the look at the queue. -/
def followMessage (unixSocket : Ptr) (fuel : Nat) (descriptor ret : Int)
    (message : List Byte) : Proc Bool :=
  if ret = 0 then
    pure false
  else if ret = 2 then do
    let clientSocket ← createSocket unixSocket fuel
    if clientSocket = nullptr then
      pure false
    else do
      acceptClient clientSocket
      pure true
  else if memcmp message (ascii "CONFIG") then do
    let configBuffer ← Program.ask (.automatic 4096)
    let r ← Program.ask (.recv descriptor configBuffer.bytes 4096 false)
    if r.ret < 0 then
      pure false
    else
      processConfig (memcpy configBuffer.bytes r.bytes) r.ret.toNat
  else if memcmp message (ascii "EXIT") then
    pure false
  else
    pure true

theorem dispatcherProcess_eq (unixSocket : Ptr) (fuel : Nat) :
    dispatcherProcess unixSocket fuel = (do
      let socket ← deref unixSocket
      if socket.isDropped then
        pure false
      else do
        let message ← Program.ask (.automatic 200)
        let r ← Program.ask (.recv socket.descriptor message.bytes 200 true)
        followMessage unixSocket fuel socket.descriptor r.ret (memcpy message.bytes r.bytes)) :=
  rfl

section Message

variable {p : Ptr} {fuel : Nat} {descriptor ret : Int} {message message' : List Byte}

/-- The message decides only through two comparisons. -/
theorem followMessage_congr
    (hconfig : memcmp message (ascii "CONFIG") = memcmp message' (ascii "CONFIG"))
    (hexit : memcmp message (ascii "EXIT") = memcmp message' (ascii "EXIT")) :
    followMessage p fuel descriptor ret message =
      followMessage p fuel descriptor ret message' := by
  unfold followMessage
  rw [hconfig, hexit]

/-- The buffer of a configuration is on the stack. -/
theorem settle_followMessage_config (hzero : ret ≠ 0) (htwo : ret ≠ 2)
    (hconfig : memcmp message (ascii "CONFIG") = true) (s : Memory) :
    ∃ k, (followMessage p fuel descriptor ret message).settle s =
      (s, .call (.automatic 4096) k) := by
  rw [followMessage, if_neg hzero, if_neg htwo, if_pos hconfig]
  exact ⟨_, rfl⟩

/-- Without a configuration the call is over. -/
theorem settle_followMessage_other (hzero : ret ≠ 0) (htwo : ret ≠ 2)
    (hconfig : memcmp message (ascii "CONFIG") = false) (s : Memory) :
    (followMessage p fuel descriptor ret message).settle s =
      (s, .ret (!memcmp message (ascii "EXIT"))) := by
  rw [followMessage, if_neg hzero, if_neg htwo, if_neg (by simp [hconfig])]
  split
  next hexit => rw [hexit]; rfl
  next hexit => rw [Bool.eq_false_iff.mpr hexit]; rfl

end Message

/-- The configuration after the stale buffer has been found on the stack and the look at
the queue has been answered. -/
def lookedAt (s : Memory) (p : Ptr) (fuel : Nat) (r : Reply) (message : List Byte) :
    Option (Config Memory Unit Call Reply Bool) :=
  exec oblivious ⟨s, (), dispatcherProcess p fuel⟩ [.inr { bytes := message }, .inr r]

/-- What the buffer {lit}`message` held before does not matter. -/
def DispatcherDecides (s : Memory) (p : Ptr) (fuel : Nat) (r : Reply) : Prop :=
  ∀ message message' : List Byte, message.length = 200 → message'.length = 200 →
    lookedAt s p fuel r message = lookedAt s p fuel r message'

/-- The look at the queue settles how it is followed: it reports the end of the stream or
two bytes, or its bytes are the beginning of neither keyword; or there is no look. -/
def MessageSettled (s : Memory) (p : Ptr) (r : Reply) : Prop :=
  ∀ socket, s.heap p = some socket → socket.isDropped = false → r.ret ≠ 0 → r.ret ≠ 2 →
    ¬Undecided (ascii "CONFIG") r.bytes ∧ ¬Undecided (ascii "EXIT") r.bytes

theorem lookedAt_eq {s : Memory} {p : Ptr} {socket : Socket} (hp : s.heap p = some socket)
    (hdropped : socket.isDropped = false) (fuel : Nat) (r : Reply) (message : List Byte) :
    lookedAt s p fuel r message =
      some (settled s
        (followMessage p fuel socket.descriptor r.ret (memcpy message r.bytes))) := by
  have hcall : (dispatcherProcess p fuel).settle s =
      (s, .call (.automatic 200) fun message => do
        let r ← Program.ask (.recv socket.descriptor message.bytes 200 true)
        followMessage p fuel socket.descriptor r.ret (memcpy message.bytes r.bytes)) := by
    rw [dispatcherProcess_eq, settle_deref_bind hp, if_neg (by simp [hdropped])]
    rfl
  simp only [lookedAt, exec, hcall]
  rfl

/-- Two settled configurations that are the same go on in the same way. -/
theorem settle_prog {α : Type} {s : Memory} {p q : Proc α}
    (h : some (settled s p) = some (settled s q)) : (p.settle s).2 = (q.settle s).2 :=
  congrArg Config.prog (Option.some.inj h)

/-- Zero bytes in the buffer. -/
def blank (size : Nat) : List Byte :=
  List.replicate size 0

/-- A stale keyword in the buffer. -/
def staleKeyword (keyword : List Byte) (size : Nat) : List Byte :=
  keyword ++ blank (size - keyword.length)

theorem length_staleKeyword {keyword : List Byte} {size : Nat}
    (hsize : keyword.length ≤ size) : (staleKeyword keyword size).length = size := by
  rw [staleKeyword, blank, List.length_append, List.length_replicate]
  omega

theorem length_CONFIG : (ascii "CONFIG").length = 6 := by decide

theorem length_EXIT : (ascii "EXIT").length = 4 := by decide

/-- If the bytes may be the beginning of "CONFIG", a stale one starts a configuration and
zero bytes do not. -/
theorem config_of_dispatcherDecides {s : Memory} {p : Ptr} {fuel : Nat} {r : Reply}
    (h : DispatcherDecides s p fuel r) {socket : Socket} (hp : s.heap p = some socket)
    (hdropped : socket.isDropped = false) (hzero : r.ret ≠ 0) (htwo : r.ret ≠ 2) :
    ¬Undecided (ascii "CONFIG") r.bytes := by
  rintro ⟨hbegin, hlength⟩
  have hsix := length_CONFIG
  have hsame := h (staleKeyword (ascii "CONFIG") 200) (blank 200)
    (length_staleKeyword (by omega)) List.length_replicate
  rw [lookedAt_eq hp hdropped, lookedAt_eq hp hdropped] at hsame
  have hprog := settle_prog hsame
  obtain ⟨k, hconfig⟩ : ∃ k, (followMessage p fuel socket.descriptor r.ret
      (memcpy (staleKeyword (ascii "CONFIG") 200) r.bytes)).settle s =
        (s, .call (.automatic 4096) k) :=
    settle_followMessage_config hzero htwo (memcmp_completed hbegin _) s
  rw [hconfig, blank, settle_followMessage_other hzero htwo
    (memcmp_blank (by decide) hlength (by omega))] at hprog
  contradiction

/-- If the bytes may be the beginning of "EXIT", a stale one ends the dispatcher and zero
bytes do not. -/
theorem exit_of_dispatcherDecides {s : Memory} {p : Ptr} {fuel : Nat} {r : Reply}
    (h : DispatcherDecides s p fuel r) {socket : Socket} (hp : s.heap p = some socket)
    (hdropped : socket.isDropped = false) (hzero : r.ret ≠ 0) (htwo : r.ret ≠ 2) :
    ¬Undecided (ascii "EXIT") r.bytes := by
  intro hundecided
  have hdecided := config_of_dispatcherDecides h hp hdropped hzero htwo
  have hlength := hundecided.2
  have hfour := length_EXIT
  have hsix := length_CONFIG
  have hconfig : memcmp r.bytes (ascii "CONFIG") = false := by
    rw [Bool.eq_false_iff]
    intro hstart
    have hle := ((memcmp_iff _ _).mp hstart).length_le
    omega
  have hsame := h (staleKeyword (ascii "EXIT") 200) (blank 200)
    (length_staleKeyword (by omega)) List.length_replicate
  rw [lookedAt_eq hp hdropped, lookedAt_eq hp hdropped] at hsame
  have hprog := settle_prog hsame
  rw [settle_followMessage_other hzero htwo
      (by rw [memcmp_of_decided hdecided, hconfig]),
    settle_followMessage_other hzero htwo
      (by rw [memcmp_of_decided hdecided, hconfig]), staleKeyword,
    memcmp_completed hundecided.1, blank,
    memcmp_blank (by decide) hlength (by omega)] at hprog
  exact absurd (Program.ret.inj hprog) (by decide)

/-- All stale contents of {lit}`message` lead the same way exactly when the look at the
queue settles it. -/
theorem dispatcherDecides_iff (s : Memory) (p : Ptr) (fuel : Nat) (r : Reply) :
    DispatcherDecides s p fuel r ↔ MessageSettled s p r := by
  constructor
  · intro h socket hp hdropped hzero htwo
    exact ⟨config_of_dispatcherDecides h hp hdropped hzero htwo,
      exit_of_dispatcherDecides h hp hdropped hzero htwo⟩
  · intro h message message' _ _
    cases hp : s.heap p with
    | none =>
        have hcall : (dispatcherProcess p fuel).settle s = (s, .call .crash fun _ => .cut) :=
          settle_deref_dead hp _
        simp only [lookedAt, exec, hcall]
        rfl
    | some socket =>
        cases hdropped : socket.isDropped with
        | true =>
            have hcall : (dispatcherProcess p fuel).settle s = (s, .ret false) := by
              rw [dispatcherProcess_eq, settle_deref_bind hp, if_pos hdropped]
              rfl
            simp only [lookedAt, exec, hcall]
        | false =>
            rw [lookedAt_eq hp hdropped, lookedAt_eq hp hdropped]
            have hsame : followMessage p fuel socket.descriptor r.ret (memcpy message r.bytes) =
                followMessage p fuel socket.descriptor r.ret (memcpy message' r.bytes) := by
              by_cases hzero : r.ret = 0
              · rw [followMessage, followMessage, if_pos hzero, if_pos hzero]
              · by_cases htwo : r.ret = 2
                · rw [followMessage, followMessage, if_neg hzero, if_neg hzero, if_pos htwo,
                    if_pos htwo]
                · obtain ⟨hconfig, hexit⟩ := h socket hp hdropped hzero htwo
                  apply followMessage_congr
                  · rw [memcmp_of_decided hconfig, memcmp_of_decided hconfig]
                  · rw [memcmp_of_decided hexit, memcmp_of_decided hexit]
            rw [hsame]

/-! ## Clients -/

/-- The part of {lit}`processClient` behind the read. -/
def followRead (clientSocket : Ptr) (bytes : Int × List Byte) : Proc Bool :=
  if bytes.1 = 0 then do
    let written ← write clientSocket (ascii "EXIT\n")
    if written < 0 then pure false else answerClient clientSocket
  else if bytes.1 > 0 then do
    Program.when (memcmp bytes.2 (ascii "EXIT"))
      (modifySocket clientSocket (Socket.setClientStatus .BYE))
    modifySocket clientSocket (Socket.setRevents POLLOUT)
    answerClient clientSocket
  else
    pure false

theorem processClient_eq (clientSocket : Ptr) :
    processClient clientSocket = (do
      let socket ← deref clientSocket
      if socket.isDropped then
        pure false
      else if socket.isReadAvailable then do
        let buffer ← Program.ask (.automatic 100)
        let bytes ← read clientSocket buffer.bytes 100
        followRead clientSocket bytes
      else
        answerClient clientSocket) :=
  rfl

/-- The configuration after the stale buffer has been found on the stack and the read has
been answered. -/
def readFrom (s : Memory) (p : Ptr) (r : Reply) (buffer : List Byte) :
    Option (Config Memory Unit Call Reply Bool) :=
  exec oblivious ⟨s, (), processClient p⟩ [.inr { bytes := buffer }, .inr r]

/-- What the buffer {lit}`buffer` held before does not matter. -/
def ClientDecides (s : Memory) (p : Ptr) (r : Reply) : Prop :=
  ∀ buffer buffer' : List Byte, buffer.length = 100 → buffer'.length = 100 →
    readFrom s p r buffer = readFrom s p r buffer'

/-- The read settles how it is followed: it brings nothing, or bytes that are not the
beginning of "EXIT", or the client is being told good-bye anyway; or there is no read. -/
def ReadSettled (s : Memory) (p : Ptr) (r : Reply) : Prop :=
  ∀ socket, s.heap p = some socket → socket.isDropped = false →
    socket.isReadAvailable = true → 0 < r.ret → socket.clientStatus ≠ .BYE →
      ¬Undecided (ascii "EXIT") r.bytes

section Client

variable {s : Memory} {p : Ptr} {socket : Socket} {ret : Int} {buffer : List Byte}

/-- A read from a client is one call. -/
theorem settle_read_bind {α : Type} (hp : s.heap p = some socket) (buffer : List Byte)
    (size : Nat) (f : Int × List Byte → Proc α) :
    ∃ c, (read p buffer size >>= f).settle s =
      (s, .call c fun r => f (r.ret, memcpy buffer r.bytes)) := by
  rw [read, bind_assoc, settle_deref_bind hp]
  split
  · exact ⟨_, rfl⟩
  · exact ⟨_, rfl⟩

/-- A write to a client is one call. -/
theorem settle_write_bind {α : Type} (hp : s.heap p = some socket) (message : List Byte)
    (f : Int → Proc α) :
    ∃ c, (write p message >>= f).settle s = (s, .call c fun r => f r.ret) := by
  rw [write, bind_assoc, settle_deref_bind hp]
  split
  · exact ⟨_, rfl⟩
  · exact ⟨_, rfl⟩

/-- Answering a client takes at most one call, and changes nothing before it. -/
theorem settle_answerClient_cases (s : Memory) (p : Ptr) :
    (∃ kept, (answerClient p).settle s = (s, .ret kept)) ∨
      ∃ c k, (answerClient p).settle s = (s, .call c k) ∧
        ∀ r c' k', ((k r).settle s).2 ≠ .call c' k' := by
  unfold answerClient
  cases hp : s.heap p with
  | none =>
      rw [settle_deref_dead hp]
      exact Or.inr ⟨_, _, rfl, fun _ _ _ h => by contradiction⟩
  | some socket =>
      rw [settle_deref_bind hp]
      split
      · cases socket.clientStatus with
        | HELLO =>
            obtain ⟨c, hwrite⟩ := settle_write_bind hp (ascii "HELLO!!!!\n") fun bytes => do
              modifySocket p (Socket.setClientStatus .ECHO)
              pure (bytes != -1)
            exact Or.inr ⟨c, _, hwrite, fun _ _ _ h => by contradiction⟩
        | ECHO =>
            obtain ⟨c, hwrite⟩ := settle_write_bind hp (ascii "ECHOO!!!!\n") fun bytes =>
              pure (bytes != -1)
            exact Or.inr ⟨c, _, hwrite, fun _ _ _ h => by contradiction⟩
        | BYE =>
            obtain ⟨c, hwrite⟩ := settle_write_bind hp (ascii "BYE...\n") fun _ => pure false
            exact Or.inr ⟨c, _, hwrite, fun _ _ _ h => by contradiction⟩
        | NONE => exact Or.inl ⟨true, rfl⟩
      · exact Or.inl ⟨true, rfl⟩

theorem settle_answerClient (s : Memory) (p : Ptr) : ((answerClient p).settle s).1 = s := by
  rcases settle_answerClient_cases s p with ⟨kept, h⟩ | ⟨c, k, h, _⟩
  · rw [h]
  · rw [h]

/-- Two replies are too many for an answer. -/
theorem exec_answerClient (s : Memory) (p : Ptr) (first second : Reply) :
    exec (oblivious : Kernel Unit Call Reply Empty) ⟨s, (), answerClient p⟩
      [.inr first, .inr second] = none := by
  rcases settle_answerClient_cases s p with ⟨kept, h⟩ | ⟨c, k, h, hlast⟩
  · simp only [exec, h]
  · simp only [exec, h, oblivious, observer]
    split
    next s' c' k' hcall => exact absurd (congrArg Prod.snd hcall) (hlast first c' k')
    next => rfl

/-- The memory after bytes have been read from a client. -/
def heard (s : Memory) (p : Ptr) (buffer : List Byte) : Memory :=
  (if memcmp buffer (ascii "EXIT") then s.modifySocket p (Socket.setClientStatus .BYE)
    else s).modifySocket p (Socket.setRevents POLLOUT)

theorem settle_followRead (hret : 0 < ret) :
    (followRead p (ret, buffer)).settle s = (answerClient p).settle (heard s p buffer) := by
  rw [followRead, if_neg (show ¬ret = 0 by omega), if_pos (show ret > 0 from hret), heard]
  cases memcmp buffer (ascii "EXIT") <;> rfl

theorem readFrom_eq (hp : s.heap p = some socket) (hdropped : socket.isDropped = false)
    (hread : socket.isReadAvailable = true) (r : Reply) (buffer : List Byte) :
    readFrom s p r buffer =
      some (settled s (followRead p (r.ret, memcpy buffer r.bytes))) := by
  have hcall : (processClient p).settle s =
      (s, .call (.automatic 100) fun buffer => do
        let bytes ← read p buffer.bytes 100
        followRead p bytes) := by
    rw [processClient_eq, settle_deref_bind hp, if_neg (by simp [hdropped]), if_pos hread]
    rfl
  obtain ⟨c, hcall'⟩ := settle_read_bind hp buffer 100 (followRead p)
  simp only [readFrom, exec, hcall, hcall']
  rfl

/-- Nothing changes when the new object is the old one. -/
theorem modifySocket_eq_self {f : Socket → Socket} (h : (s.heap p).map f = s.heap p) :
    s.modifySocket p f = s := by
  rw [Memory.modifySocket, h, Function.update_eq_self]

/-- A client that is being told good-bye already stays so. -/
theorem heard_of_bye (hp : s.heap p = some socket) (hbye : socket.clientStatus = .BYE)
    (buffer : List Byte) : heard s p buffer = s.modifySocket p (Socket.setRevents POLLOUT) := by
  have hself : s.modifySocket p (Socket.setClientStatus .BYE) = s := by
    apply modifySocket_eq_self
    rw [hp, Option.map_some, Socket.setClientStatus, ← hbye]
  rw [heard, hself, ite_self]

end Client

/-- If the bytes may be the beginning of "EXIT", a stale one ends the conversation and zero
bytes do not. -/
theorem exit_of_clientDecides {s : Memory} {p : Ptr} {r : Reply} (h : ClientDecides s p r)
    {socket : Socket} (hp : s.heap p = some socket) (hdropped : socket.isDropped = false)
    (hread : socket.isReadAvailable = true) (hret : 0 < r.ret)
    (hbye : socket.clientStatus ≠ .BYE) : ¬Undecided (ascii "EXIT") r.bytes := by
  rintro ⟨hbegin, hlength⟩
  have hfour := length_EXIT
  have hsame := h (staleKeyword (ascii "EXIT") 100) (blank 100)
    (length_staleKeyword (by omega)) List.length_replicate
  rw [readFrom_eq hp hdropped hread, readFrom_eq hp hdropped hread] at hsame
  have hmemory := congrArg Config.memory (Option.some.inj hsame)
  simp only [settled, settle_followRead hret, settle_answerClient, heard, staleKeyword,
    memcmp_completed hbegin, blank,
    memcmp_blank (n := 100) (by decide) hlength (by omega)] at hmemory
  have hstatus := congrArg (fun m : Memory => (m.heap p).map Socket.clientStatus) hmemory
  simp [hp, Socket.setRevents, Socket.setClientStatus] at hstatus
  exact hbye hstatus.symm

/-- All stale contents of {lit}`buffer` lead the same way exactly when the read settles
it. -/
theorem clientDecides_iff (s : Memory) (p : Ptr) (r : Reply) :
    ClientDecides s p r ↔ ReadSettled s p r := by
  constructor
  · intro h socket hp hdropped hread hret hbye
    exact exit_of_clientDecides h hp hdropped hread hret hbye
  · intro h buffer buffer' _ _
    cases hp : s.heap p with
    | none =>
        have hcall : (processClient p).settle s = (s, .call .crash fun _ => .cut) :=
          settle_deref_dead hp _
        simp only [readFrom, exec, hcall]
        rfl
    | some socket =>
        cases hdropped : socket.isDropped with
        | true =>
            have hcall : (processClient p).settle s = (s, .ret false) := by
              rw [processClient_eq, settle_deref_bind hp, if_pos hdropped]
              rfl
            simp only [readFrom, exec, hcall]
        | false =>
            cases hread : socket.isReadAvailable with
            | false =>
                have hcall : (processClient p).settle s = (answerClient p).settle s := by
                  rw [processClient_eq, settle_deref_bind hp, if_neg (by simp [hdropped]),
                    if_neg (by simp [hread])]
                have hnone : ∀ buffer, readFrom s p r buffer = none := by
                  intro buffer
                  have hanswer := exec_answerClient s p { bytes := buffer } r
                  rw [exec, ← hcall] at hanswer
                  exact hanswer
                rw [hnone, hnone]
            | true =>
                rw [readFrom_eq hp hdropped hread, readFrom_eq hp hdropped hread]
                rcases Int.lt_trichotomy r.ret 0 with hneg | hzero | hpos
                · rw [followRead, followRead, if_neg (show ¬r.ret = 0 by omega),
                    if_neg (show ¬r.ret = 0 by omega), if_neg (show ¬r.ret > 0 by omega),
                    if_neg (show ¬r.ret > 0 by omega)]
                · rw [followRead, followRead, if_pos hzero, if_pos hzero]
                · rw [settled, settled, settle_followRead hpos, settle_followRead hpos]
                  by_cases hbye : socket.clientStatus = .BYE
                  · rw [heard_of_bye hp hbye, heard_of_bye hp hbye]
                  · have hdecided := h socket hp hdropped hread hpos hbye
                    rw [heard, heard, memcmp_of_decided hdecided, memcmp_of_decided hdecided]

/-- In any memory, stale bytes influence neither function exactly after the results that
settle a look or a read. -/
theorem decides_iff (s : Memory) :
    (∀ unixSocket fuel r, DispatcherDecides s unixSocket fuel r ↔
      MessageSettled s unixSocket r) ∧
    ∀ clientSocket r, ClientDecides s clientSocket r ↔ ReadSettled s clientSocket r :=
  ⟨dispatcherDecides_iff s, clientDecides_iff s⟩

/-- After a look at one "E" the stack decides whether the dispatcher exits. -/
theorem stale_exit :
    ¬DispatcherDecides (started 3) unixSocket 0 { ret := 1, bytes := ascii "E" } := by
  intro h
  have hsettled := exit_of_dispatcherDecides h rfl (by decide) (by decide) (by decide)
  exact hsettled ⟨by decide, by decide⟩

end Mydisp

end SocketDispatcher
