import SocketDispatcher.Library.Ledger
import SocketDispatcher.Myclnt
import SocketDispatcher.SslSocket

/-!
# Descriptors, SSL objects and BIOs of the client

The function {lit}`createSocket` of {lit}`TcpSslConnectSocketFactory.cpp` and the
destructors of the sockets it returns, now with their calls to OpenSSL.  A ledger counts
how often each object has been released.  OpenSSL is not under the sources; three facts
about it are taken over: {lit}`SSL_set_bio` passes the ownership of the BIOs to the SSL
object, {lit}`SSL_free` frees the BIOs that the object owns, and a BIO closes its
descriptor when it is freed unless it was made with {lit}`BIO_NOCLOSE`.

Main results:

- Theorem {lit}`hide_createSocket`: without its calls to OpenSSL the function is the one
  that the other modules speak about.
- Theorem {lit}`releasedOnce_iff`: in which histories every object is released once.

Current gaps:

- {lit}`SSL_new` and {lit}`BIO_new_socket` do not fail.
-/

namespace SocketDispatcher

open Interaction Accounting

/-- What has to be released. -/
inductive Resource where
  | descriptor (fd : Int)
  | ssl (ssl : Int)
  | bio (bio : Int)
deriving DecidableEq

/-- The calls of the client with those to OpenSSL among them.  The handles of SSL objects
and BIOs are the replies to the calls that make them. -/
inductive TlsCall where
  | system (c : Call)
  | SSL_new
  | BIO_new_socket (sock : Int) (close_flag : Nat)
  | SSL_set_bio (ssl rbio wbio : Int)
  | BIO_free (bio : Int)
  | SSL_free (ssl : Int)
deriving DecidableEq

/-- {lit}`SslClientSocket` -/
structure SslClientSocket extends Socket where
  bio : Int
  ssl : Int

namespace SslClientSocket

variable {S : Type}

/-- {lit}`createSocket` from the comment "Connect the SSL socket" on. -/
def connectSsl (sockfd : Int) (h : sockfd ≠ -1) :
    Program S TlsCall Reply (Option SslClientSocket) := do
  let ssl ← Program.ask .SSL_new
  let sbio ← Program.ask (.BIO_new_socket sockfd BIO_NOCLOSE)
  let _ ← Program.ask (.SSL_set_bio ssl.ret sbio.ret sbio.ret)
  let connected ← Program.ask (.system (.sslConnect sockfd))
  if connected.ret ≤ 0 then do
    let _ ← Program.ask (.system (.close sockfd))
    let _ ← Program.ask (.BIO_free sbio.ret)
    let _ ← Program.ask (.SSL_free ssl.ret)
    pure none
  else
    pure (some ⟨TcpSslConnectSocketFactory.sslClientSocket sockfd h, sbio.ret, ssl.ret⟩)

/-- {lit}`TcpSslConnectSocketFactory::createSocket()` -/
def createSocket (host : List Byte) (port : Nat) :
    Program S TlsCall Reply (Option SslClientSocket) := do
  let hostEntry ← Program.ask (.system (.gethostbyname host))
  match hostEntry.data with
  | none => pure none
  | some h_length =>
      if h_length = 0 then
        pure none
      else do
        let sockfd ← Program.ask (.system (.socket .AF_INET))
        if h : sockfd.ret = -1 then
          pure none
        else do
          let connected ← Program.ask (.system (.connect sockfd.ret hostEntry.bytes port))
          if connected.ret ≠ 0 then do
            let _ ← Program.ask (.system (.close sockfd.ret))
            pure none
          else
            connectSsl sockfd.ret h

/-- {lit}`SslSocket::~SslSocket` followed by {lit}`Socket::~Socket`. -/
def destroy (socket : SslClientSocket) : Program S TlsCall Reply Unit := do
  let _ ← Program.ask (.SSL_free socket.ssl)
  if socket.protectDescriptor then
    pure ()
  else do
    let _ ← Program.ask (.system (.close socket.descriptor))
    pure ()

/-! ## The function of the other modules -/

/-- The calls that the other modules know of. -/
def systemCall : TlsCall → Option Call
  | .system c => some c
  | _ => none

/-- The pointer that is returned. -/
def shared : Option SslClientSocket → Proc Ptr
  | some socket => makeShared socket.toSocket
  | none => pure nullptr

section Hide

variable (r₀ : Reply)

theorem hide_system (c : Call) :
    (Program.ask (.system c) : Program S TlsCall Reply Reply).hide systemCall r₀ =
      Program.ask c :=
  hide_ask_of_some systemCall r₀ rfl

theorem hide_openSsl {α : Type} {c : TlsCall} (hc : systemCall c = none)
    (k : Reply → Program S TlsCall Reply α) :
    (Program.ask c >>= k).hide systemCall r₀ = (k r₀).hide systemCall r₀ := by
  rw [hide_bind, hide_ask_of_none systemCall r₀ hc, pure_bind]

theorem hide_connectSsl (sockfd : Int) (h : sockfd ≠ -1) :
    (connectSsl sockfd h).hide systemCall r₀ >>= shared = (do
      let r ← Program.ask (.sslConnect sockfd)
      if r.ret ≤ 0 then do
        let _ ← Program.ask (.close sockfd)
        pure nullptr
      else
        makeShared (TcpSslConnectSocketFactory.sslClientSocket sockfd h)) := by
  rw [connectSsl, hide_openSsl r₀ (c := .SSL_new) rfl,
    hide_openSsl r₀ (c := .BIO_new_socket sockfd BIO_NOCLOSE) rfl,
    hide_openSsl r₀ (c := .SSL_set_bio r₀.ret r₀.ret r₀.ret) rfl,
    hide_bind, bind_assoc, hide_system]
  refine bind_congr fun r => ?_
  split
  · rfl
  · rfl

/-- Without its calls to OpenSSL the function is the one of the other modules, whatever
these calls return. -/
theorem hide_createSocket (host : List Byte) (port : Nat) :
    (createSocket host port).hide systemCall r₀ >>= shared =
      TcpSslConnectSocketFactory.createSocket host port := by
  rw [createSocket, TcpSslConnectSocketFactory.createSocket, hide_bind, bind_assoc, hide_system]
  refine bind_congr fun hostEntry => ?_
  cases hostEntry.data with
  | none => rfl
  | some h_length =>
      dsimp only
      split
      · rfl
      · rw [hide_bind, bind_assoc, hide_system]
        refine bind_congr fun sockfd => ?_
        split
        · rfl
        · rw [hide_bind, bind_assoc, hide_system]
          refine bind_congr fun connected => ?_
          split
          · rfl
          · exact hide_connectSsl r₀ sockfd.ret _

end Hide

end SslClientSocket

/-! ## OpenSSL -/

/-- The surroundings of the client: what they have given out, and how often
{lit}`SSL_connect` has failed. -/
structure TlsWorld where
  ledger : Ledger Resource := Ledger.empty
  /-- What the BIOs were made for. -/
  bios : Int → Option Bio := fun _ => none
  /-- The BIOs that each SSL object owns. -/
  ownedBios : Int → List Int := fun _ => []
  failedHandshakes : Nat := 0

namespace TlsWorld

/-- What is released when a BIO is freed. -/
def freedBio (w : TlsWorld) (bio : Int) : List Resource :=
  match w.bios bio with
  | some b => if b.close_flag = BIO_NOCLOSE then [.bio bio] else [.bio bio, .descriptor b.fd]
  | none => [.bio bio]

/-- What a call releases. -/
def released (w : TlsWorld) : TlsCall → List Resource
  | .system (.close fd) => [.descriptor fd]
  | .BIO_free bio => w.freedBio bio
  | .SSL_free ssl => .ssl ssl :: (w.ownedBios ssl).flatMap w.freedBio
  | _ => []

/-- Give out an object that is not in use. -/
def obtained (w : TlsWorld) (r : Resource) : Option TlsWorld :=
  if w.ledger.InUse r then none else some { w with ledger := w.ledger.acquire r }

/-- The world after an answered call. -/
def answered (w : TlsWorld) (c : TlsCall) (r : Reply) : Option TlsWorld :=
  match c with
  | .system (.socket _) => if r.ret = -1 then some w else w.obtained (.descriptor r.ret)
  | .system (.sslConnect _) =>
      if r.ret ≤ 0 then some { w with failedHandshakes := w.failedHandshakes + 1 } else some w
  | .SSL_new =>
      (w.obtained (.ssl r.ret)).map fun w =>
        { w with ownedBios := Function.update w.ownedBios r.ret [] }
  | .BIO_new_socket sock close_flag =>
      (w.obtained (.bio r.ret)).map fun w =>
        { w with bios := Function.update w.bios r.ret (some ⟨sock, close_flag⟩) }
  | .SSL_set_bio ssl rbio wbio =>
      some { w with
        ownedBios := Function.update w.ownedBios ssl
          (if rbio = wbio then [rbio] else [rbio, wbio]) }
  | c => some { w with ledger := w.ledger.releaseAll (w.released c) }

/-- The call releases different objects, all of them in use. -/
def ReleasesOnce (w : TlsWorld) (c : TlsCall) : Prop :=
  (w.released c).Nodup ∧ ∀ r ∈ w.released c, w.ledger.InUse r

end TlsWorld

/-- The surroundings of the client do not move on their own. -/
def openSsl : Kernel TlsWorld TlsCall Reply Empty where
  reply := TlsWorld.answered
  act _ a := nomatch a

/-! ## Histories -/

/-- What a program does with the factory and the sockets that it returned. -/
inductive SocketOperation where
  | createSocket (host : List Byte) (port : Nat)
  /-- Destroy the socket at this position among the living ones. -/
  | destroy (position : Nat)

namespace SslClientSocket

/-- One operation; the memory holds the living sockets. -/
def perform : SocketOperation → Program (List SslClientSocket) TlsCall Reply Unit
  | .createSocket host port => do
      let socket ← createSocket host port
      modify fun live => socket.toList ++ live
  | .destroy position => do
      let live ← get
      match live[position]? with
      | none => pure ()
      | some socket => do
          set (live.eraseIdx position)
          destroy socket

def performAll (operations : List SocketOperation) :
    Program (List SslClientSocket) TlsCall Reply Unit :=
  Program.forEach operations perform

/-- The objects that a socket is to release. -/
def resources (socket : SslClientSocket) : List Resource :=
  [.ssl socket.ssl, .bio socket.bio, .descriptor socket.descriptor]

/-- The objects of the living sockets are unreleased, and every other one has been
released exactly once. -/
def Settled (live : List SslClientSocket) (w : TlsWorld) : Prop :=
  Accounted (live.flatMap resources) w.ledger

/-! ## Invariant -/

/-- An SSL object that owns a BIO, which leaves its descriptor open. -/
structure Attached (w : TlsWorld) (ssl bio : Int) : Prop where
  owned : w.ownedBios ssl = [bio]
  noclose : w.freedBio bio = [.bio bio]

theorem Attached.released {w : TlsWorld} {ssl bio : Int} (h : Attached w ssl bio) :
    w.released (.SSL_free ssl) = [.ssl ssl, .bio bio] := by
  simp [TlsWorld.released, h.owned, h.noclose]

theorem Attached.congr {w w' : TlsWorld} {ssl bio : Int} (h : Attached w ssl bio)
    (hbios : w'.bios = w.bios) (howned : w'.ownedBios = w.ownedBios) : Attached w' ssl bio where
  owned := by rw [howned, h.owned]
  noclose := by rw [TlsWorld.freedBio, hbios, ← TlsWorld.freedBio, h.noclose]

/-- As long as no handshake has failed: the running function holds some objects, and the
living sockets hold theirs. -/
structure Consistent (held : List Resource) (live : List SslClientSocket) (w : TlsWorld) :
    Prop where
  handshakes : w.failedHandshakes = 0
  accounted : Accounted (held ++ live.flatMap resources) w.ledger
  attached : ∀ socket ∈ live, Attached w socket.ssl socket.bio
  unprotected : ∀ socket ∈ live, socket.protectDescriptor = false

/-- Once a handshake has failed: some object has been released twice. -/
def Broken (w : TlsWorld) : Prop :=
  0 < w.failedHandshakes ∧ Overdrawn w.ledger

variable {held held' : List Resource} {live live' : List SslClientSocket} {w w' : TlsWorld}

/-- What the function holds is not held by a socket. -/
theorem Consistent.not_mem_resources (h : Consistent held live w) {r : Resource}
    (hr : r ∈ held) {socket : SslClientSocket} (hsocket : socket ∈ live) :
    r ∉ socket.resources := by
  intro hmem
  have hdisjoint := List.disjoint_of_nodup_append h.accounted.nodup
  exact hdisjoint hr (List.mem_flatMap.mpr ⟨socket, hsocket, hmem⟩)

theorem Consistent.perm (h : Consistent held live w) (hheld : held.Perm held')
    (hlive : live.Perm live') : Consistent held' live' w where
  handshakes := h.handshakes
  accounted := h.accounted.perm (hheld.append (hlive.flatMap_right resources))
  attached socket hsocket := h.attached socket (hlive.mem_iff.mpr hsocket)
  unprotected socket hsocket := h.unprotected socket (hlive.mem_iff.mpr hsocket)

theorem Consistent.obtained (h : Consistent held live w) {r : Resource}
    (hr : w.obtained r = some w') : Consistent (r :: held) live w' := by
  rw [TlsWorld.obtained] at hr
  split at hr
  next => contradiction
  next hfree =>
    obtain rfl := Option.some.inj hr
    exact ⟨h.handshakes, h.accounted.acquire hfree,
      fun socket hsocket => (h.attached socket hsocket).congr rfl rfl, h.unprotected⟩

theorem Consistent.releaseAll {rs : List Resource} (h : Consistent (rs ++ held) live w) :
    Consistent held live { w with ledger := w.ledger.releaseAll rs } where
  handshakes := h.handshakes
  accounted := by
    have haccounted := h.accounted
    rw [List.append_assoc] at haccounted
    exact haccounted.releaseAll
  attached socket hsocket := (h.attached socket hsocket).congr rfl rfl
  unprotected := h.unprotected

/-- An SSL object that the function holds may be given other BIOs. -/
theorem Consistent.own (h : Consistent held live w) {ssl : Int} (hssl : .ssl ssl ∈ held)
    (bios : List Int) :
    Consistent held live { w with ownedBios := Function.update w.ownedBios ssl bios } where
  handshakes := h.handshakes
  accounted := h.accounted
  attached socket hsocket := by
    have hne : socket.ssl ≠ ssl := by
      rintro rfl
      exact h.not_mem_resources hssl hsocket (by simp [resources])
    constructor
    · exact (Function.update_of_ne hne _ _).trans (h.attached socket hsocket).owned
    · exact (h.attached socket hsocket).noclose
  unprotected := h.unprotected

/-- A BIO that the function holds may be made for anything. -/
theorem Consistent.make (h : Consistent held live w) {bio : Int} (hbio : .bio bio ∈ held)
    (b : Option Bio) :
    Consistent held live { w with bios := Function.update w.bios bio b } where
  handshakes := h.handshakes
  accounted := h.accounted
  attached socket hsocket := by
    have hne : socket.bio ≠ bio := by
      rintro rfl
      exact h.not_mem_resources hbio hsocket (by simp [resources])
    have hattached := h.attached socket hsocket
    constructor
    · exact hattached.owned
    · simpa [TlsWorld.freedBio, Function.update_of_ne hne] using hattached.noclose
  unprotected := h.unprotected

/-- A function that returns a socket no longer holds its objects. -/
theorem Consistent.handOver {socket : SslClientSocket}
    (h : Consistent socket.resources live w) (hattached : Attached w socket.ssl socket.bio)
    (hprotect : socket.protectDescriptor = false) : Consistent [] (socket :: live) w where
  handshakes := h.handshakes
  accounted := h.accounted
  attached := List.forall_mem_cons.mpr ⟨hattached, h.attached⟩
  unprotected := List.forall_mem_cons.mpr ⟨hprotect, h.unprotected⟩

/-- The destructor takes over the objects of the socket. -/
theorem Consistent.takeOver {socket : SslClientSocket} (h : Consistent [] (socket :: live) w) :
    Consistent socket.resources live w where
  handshakes := h.handshakes
  accounted := h.accounted
  attached := (List.forall_mem_cons.mp h.attached).2
  unprotected := (List.forall_mem_cons.mp h.unprotected).2

/-- Objects that the function holds are released once. -/
theorem Consistent.releasesOnce {rs : List Resource} {c : TlsCall}
    (h : Consistent (rs ++ held) live w) (hc : w.released c = rs) : w.ReleasesOnce c := by
  rw [TlsWorld.ReleasesOnce, hc]
  constructor
  · exact (List.nodup_append.mp (List.nodup_append.mp h.accounted.nodup).1).1
  · intro r hr
    exact h.accounted.inUse (List.mem_append_left _ (List.mem_append_left _ hr))

theorem Broken.obtained (h : Broken w) {r : Resource} (hr : w.obtained r = some w') :
    Broken w' := by
  rw [TlsWorld.obtained] at hr
  split at hr
  next => contradiction
  next =>
    obtain rfl := Option.some.inj hr
    exact ⟨h.1, h.2.acquire r⟩

/-- Nothing that follows undoes a double release. -/
theorem Broken.answered (h : Broken w) {c : TlsCall} {r : Reply}
    (hreply : w.answered c r = some w') : Broken w' := by
  unfold TlsWorld.answered at hreply
  split at hreply
  next =>
    split at hreply
    next => exact Option.some.inj hreply ▸ h
    next => exact h.obtained hreply
  next =>
    split at hreply
    next =>
      obtain rfl := Option.some.inj hreply
      exact ⟨Nat.succ_pos _, h.2⟩
    next => exact Option.some.inj hreply ▸ h
  next =>
    obtain ⟨w₁, hobtained, rfl⟩ := Option.map_eq_some_iff.mp hreply
    have hbroken := h.obtained hobtained
    exact hbroken
  next =>
    obtain ⟨w₁, hobtained, rfl⟩ := Option.map_eq_some_iff.mp hreply
    have hbroken := h.obtained hobtained
    exact hbroken
  next =>
    obtain rfl := Option.some.inj hreply
    exact h
  next =>
    obtain rfl := Option.some.inj hreply
    exact ⟨h.1, h.2.releaseAll _⟩

/-! ## One call -/

/-- As long as no handshake has failed, every object is in use when it is released. -/
def guarantee (_ : List SslClientSocket) (w : TlsWorld) (c : TlsCall) : Prop :=
  w.failedHandshakes = 0 → w.ReleasesOnce c

theorem guarantee_of_released_eq_nil {c : TlsCall} (hc : w.released c = []) :
    guarantee live w c := by
  intro _
  simp [TlsWorld.ReleasesOnce, hc]

theorem broken_quiet :
    Quiet openSsl anyReply guarantee (fun _ => True) (fun _ => True) Broken where
  guarantee _ _ _ _ _ hbroken hhandshakes := absurd hhandshakes hbroken.1.ne'
  reply _ _ _ _ _ _ _ hreply _ hbroken := hbroken.answered hreply
  act _ a := nomatch a

variable {Q : List SslClientSocket → TlsWorld → Reply → Prop}

theorem sat_tls (c : TlsCall) :
    Sat openSsl anyReply guarantee (Program.ask c) Q live w ↔
      guarantee live w c ∧ ∀ r w', w.answered c r = some w' → Q live w' r := by
  rw [sat_ask_closed]
  simp [openSsl, anyReply]

/-- A call that releases nothing. -/
theorem sat_idle {c : TlsCall} (hc : w.released c = [])
    (hQ : ∀ r w', w.answered c r = some w' → Q live w' r) :
    Sat openSsl anyReply guarantee (Program.ask c) Q live w := by
  rw [sat_tls]
  exact ⟨guarantee_of_released_eq_nil hc, hQ⟩

/-- A call that only releases objects. -/
theorem sat_releasing (rs : List Resource) {c : TlsCall} (h : Consistent (rs ++ held) live w)
    (hc : w.released c = rs)
    (hanswered : ∀ r, w.answered c r = some { w with ledger := w.ledger.releaseAll rs })
    (hQ : ∀ r w', Consistent held live w' → Q live w' r) :
    Sat openSsl anyReply guarantee (Program.ask c) Q live w := by
  rw [sat_tls]
  constructor
  · intro _
    exact h.releasesOnce hc
  · intro r w' hreply
    rw [hanswered r] at hreply
    obtain rfl := Option.some.inj hreply
    exact hQ r _ h.releaseAll

theorem Consistent.SSL_new {r : Reply} (h : Consistent held live w)
    (hreply : w.answered .SSL_new r = some w') : Consistent (.ssl r.ret :: held) live w' := by
  obtain ⟨w₁, hobtained, rfl⟩ := Option.map_eq_some_iff.mp hreply
  exact (h.obtained hobtained).own List.mem_cons_self []

theorem Consistent.BIO_new_socket {r : Reply} {sock : Int} {close_flag : Nat}
    (h : Consistent held live w)
    (hreply : w.answered (.BIO_new_socket sock close_flag) r = some w') :
    Consistent (.bio r.ret :: held) live w' := by
  obtain ⟨w₁, hobtained, rfl⟩ := Option.map_eq_some_iff.mp hreply
  exact (h.obtained hobtained).make List.mem_cons_self _

theorem freedBio_of_BIO_new_socket {r : Reply} {sock : Int}
    (hreply : w.answered (.BIO_new_socket sock BIO_NOCLOSE) r = some w') :
    w'.freedBio r.ret = [.bio r.ret] := by
  obtain ⟨w₁, _, rfl⟩ := Option.map_eq_some_iff.mp hreply
  simp [TlsWorld.freedBio]

theorem Consistent.SSL_set_bio {r : Reply} {ssl rbio wbio : Int} (h : Consistent held live w)
    (hssl : .ssl ssl ∈ held) (hreply : w.answered (.SSL_set_bio ssl rbio wbio) r = some w') :
    Consistent held live w' := by
  obtain rfl := Option.some.inj hreply
  exact h.own hssl _

theorem attached_of_SSL_set_bio {r : Reply} {ssl bio : Int} (hbio : w.freedBio bio = [.bio bio])
    (hreply : w.answered (.SSL_set_bio ssl bio bio) r = some w') : Attached w' ssl bio := by
  obtain rfl := Option.some.inj hreply
  constructor
  · simp
  · exact hbio

/-! ## One operation -/

/-- What holds between two operations. -/
def Steady (live : List SslClientSocket) (w : TlsWorld) : Prop :=
  Consistent [] live w ∨ Broken w

theorem Broken.sat {α : Type} (h : Broken w) (p : Program (List SslClientSocket) TlsCall Reply α) :
    Sat openSsl anyReply guarantee p (fun live' w' _ => Steady live' w') live w :=
  ((within_true p).sat broken_quiet trivial h).mono fun _ _ _ h => Or.inr h.2

/-- After a failed handshake the BIO is freed twice. -/
theorem overdrawn_of_failed {l : Ledger Resource} {ssl bio fd : Int}
    (h : Accounted (held ++ live.flatMap resources) l) (hbio : .bio bio ∈ held) :
    Overdrawn (l.releaseAll [.descriptor fd, .bio bio, .ssl ssl, .bio bio]) := by
  obtain ⟨rest, hcounts, _⟩ := h.unreleased (.bio bio) (List.mem_append_left _ hbio)
  refine ⟨.bio bio, 2, ?_, le_rfl⟩
  simp [hcounts]

theorem sat_failed {sockfd ssl bio : Int} (hhandshakes : 0 < w.failedHandshakes)
    (h : Accounted (held ++ live.flatMap resources) w.ledger) (hbio : .bio bio ∈ held)
    (hattached : Attached w ssl bio) :
    Sat openSsl anyReply guarantee (do
      let _ ← Program.ask (.system (.close sockfd))
      let _ ← Program.ask (.BIO_free bio)
      let _ ← Program.ask (.SSL_free ssl)
      pure (none : Option SslClientSocket))
      (fun live' w' socket => Steady (socket.toList ++ live') w') live w := by
  have hguarantee : ∀ l c, guarantee live { w with ledger := l } c :=
    fun _ _ hzero => absurd hzero hhandshakes.ne'
  rw [sat_bind, sat_tls]
  refine ⟨hguarantee w.ledger _, ?_⟩
  intro _ w₁ hclose
  obtain rfl := Option.some.inj hclose
  rw [sat_bind, sat_tls]
  refine ⟨hguarantee _ _, ?_⟩
  intro _ w₂ hfree
  obtain rfl := Option.some.inj hfree
  rw [sat_bind, sat_tls]
  refine ⟨hguarantee _ _, ?_⟩
  intro _ w₃ hfree
  obtain rfl := Option.some.inj hfree
  refine Or.inr ⟨hhandshakes, ?_⟩
  have hfreed : w.released (.BIO_free bio) = [.bio bio] := hattached.noclose
  change Overdrawn (((w.ledger.releaseAll [.descriptor sockfd]).releaseAll
    (w.released (.BIO_free bio))).releaseAll (w.released (.SSL_free ssl)))
  rw [hfreed, hattached.released]
  exact overdrawn_of_failed h hbio

/-- The part of the function that holds a connected descriptor. -/
theorem sat_connectSsl {sockfd : Int} (hne : sockfd ≠ -1)
    (h : Consistent [.descriptor sockfd] live w) :
    Sat openSsl anyReply guarantee (connectSsl sockfd hne)
      (fun live' w' socket => Steady (socket.toList ++ live') w') live w := by
  rw [connectSsl, sat_bind]
  apply sat_idle rfl
  intro ssl w₁ hssl
  have h₁ := h.SSL_new hssl
  rw [sat_bind]
  apply sat_idle rfl
  intro sbio w₂ hbio
  have h₂ := h₁.BIO_new_socket hbio
  rw [sat_bind]
  apply sat_idle rfl
  intro _ w₃ hset
  have h₃ := h₂.SSL_set_bio (by simp) hset
  have hattached := attached_of_SSL_set_bio (freedBio_of_BIO_new_socket hbio) hset
  rw [sat_bind]
  apply sat_idle rfl
  intro connected w₄ hconnected
  rw [TlsWorld.answered] at hconnected
  split
  next hfailed =>
    rw [if_pos hfailed] at hconnected
    obtain rfl := Option.some.inj hconnected
    exact sat_failed (Nat.succ_pos _) h₃.accounted (by simp) (hattached.congr rfl rfl)
  next hsucceeded =>
    rw [if_neg hsucceeded] at hconnected
    obtain rfl := Option.some.inj hconnected
    have hheld := h₃.perm (List.Perm.swap _ _ _) (List.Perm.refl live)
    exact Or.inl (Consistent.handOver hheld hattached rfl)

/-- Whatever the calls return, the function leaves a steady state. -/
theorem sat_createSocket (h : Consistent [] live w) (host : List Byte) (port : Nat) :
    Sat openSsl anyReply guarantee (createSocket host port)
      (fun live' w' socket => Steady (socket.toList ++ live') w') live w := by
  rw [createSocket, sat_bind]
  apply sat_idle rfl
  intro hostEntry w₁ hlookup
  obtain rfl := Option.some.inj hlookup
  have hnone : Steady ((none : Option SslClientSocket).toList ++ live) w := Or.inl h
  cases hostEntry.data with
  | none => exact hnone
  | some h_length =>
      dsimp only
      split
      · exact hnone
      · rw [sat_bind]
        apply sat_idle rfl
        intro sockfd w₂ hsocket
        rw [TlsWorld.answered] at hsocket
        split
        next hret =>
          rw [if_pos hret] at hsocket
          obtain rfl := Option.some.inj hsocket
          exact hnone
        next hret =>
          rw [if_neg hret] at hsocket
          have h₂ := h.obtained hsocket
          rw [sat_bind]
          apply sat_idle rfl
          intro connected w₃ hconnected
          obtain rfl := Option.some.inj hconnected
          split
          · rw [sat_bind]
            apply sat_releasing [.descriptor sockfd.ret] h₂ rfl fun _ => rfl
            intro _ w₄ h₄
            exact Or.inl h₄
          · exact sat_connectSsl hret h₂

/-- The destructor releases the objects of the socket. -/
theorem sat_destroy {socket : SslClientSocket} (h : Consistent [] (socket :: live) w) :
    Sat openSsl anyReply guarantee (destroy socket) (fun live' w' _ => Steady live' w') live w := by
  have hattached := h.attached socket List.mem_cons_self
  have htaken : Consistent
      ([.ssl socket.ssl, .bio socket.bio] ++ [.descriptor socket.descriptor]) live w :=
    h.takeOver
  rw [destroy, sat_bind]
  apply sat_releasing _ htaken hattached.released
  · intro _
    rw [← hattached.released]
    rfl
  · intro _ w₁ h₁
    rw [h.unprotected socket List.mem_cons_self, if_neg Bool.false_ne_true, sat_bind]
    apply sat_releasing [.descriptor socket.descriptor] h₁ rfl fun _ => rfl
    intro _ w₂ h₂
    exact Or.inl h₂

/-- One operation keeps the state steady. -/
theorem sat_perform (h : Steady live w) (operation : SocketOperation) :
    Sat openSsl anyReply guarantee (perform operation) (fun live' w' _ => Steady live' w')
      live w := by
  rcases h with h | h
  · cases operation with
    | createSocket host port =>
        exact (sat_createSocket h host port).seq fun _ _ _ hsteady => hsteady
    | destroy position =>
        rw [perform, sat_bind, sat_get]
        split
        next => exact Or.inl h
        next socket hsocket =>
          rw [sat_bind, sat_set]
          obtain ⟨hlt, hget⟩ := List.getElem?_eq_some_iff.mp hsocket
          subst hget
          exact sat_destroy (h.perm (List.Perm.refl []) (List.getElem_cons_eraseIdx_perm hlt).symm)
  · exact h.sat _

/-- So does a whole history. -/
theorem sat_performAll (operations : List SocketOperation) :
    Sat openSsl anyReply guarantee (performAll operations) (fun live' w' _ => Steady live' w')
      [] {} := by
  refine sat_forEach (fun _ => Steady) ?_ operations (Or.inl ?_)
  · intro operation _ live w h
    exact sat_perform h operation
  · exact ⟨rfl, accounted_empty, by simp, by simp⟩

/-- In the histories without a failed handshake, every object is in use whenever it is
released; and these are the histories in which the objects of the living sockets are
unreleased and every other object has been released exactly once. -/
theorem releasedOnce_iff (operations : List SocketOperation) :
    Safe openSsl anyReply guarantee ⟨[], {}, performAll operations⟩ ∧
    ∀ live w, Reaches openSsl anyReply ⟨[], {}, performAll operations⟩ ⟨live, w, .ret ()⟩ →
      (Settled live w ↔ w.failedHandshakes = 0) := by
  constructor
  · exact ((sat_performAll operations).mono fun _ _ _ _ => trivial).safe
  · intro live w hreaches
    have hsteady := (sat_performAll operations).returns (stable_of_isEmpty _) hreaches
    rcases hsteady with h | h
    · exact ⟨fun _ => h.handshakes, fun _ => h.accounted⟩
    · constructor
      · intro hsettled
        exact absurd h.2 hsettled.not_overdrawn
      · intro hzero
        exact absurd hzero h.1.ne'

/-- The replies to one {lit}`createSocket`, up to that of {lit}`SSL_connect`. -/
def handshakeReplies (connected : Int) : List (Empty ⊕ Reply) :=
  [.inr { data := some 4 }, .inr { ret := 3 }, .inr {}, .inr { ret := 20 }, .inr { ret := 30 },
    .inr {}, .inr { ret := connected }]

/-- A socket is returned and destroyed. -/
theorem releasedOnce_destroyed :
    ∃ w, Reaches openSsl anyReply
      ⟨[], {}, performAll [.createSocket (ascii "localhost") 5555, .destroy 0]⟩ ⟨[], w, .ret ()⟩ ∧
      Settled [] w ∧ w.ledger (.bio 30) = [1] := by
  have hexec : exec openSsl
      ⟨[], {}, performAll [.createSocket (ascii "localhost") 5555, .destroy 0]⟩
      (handshakeReplies 1 ++ [.inr {}, .inr {}]) = some ⟨[], _, .ret ()⟩ := rfl
  have hreaches := reaches_of_exec hexec
  exact ⟨_, hreaches, ((releasedOnce_iff _).2 _ _ hreaches).mpr rfl, rfl⟩

/-- The handshake of the first call fails: its BIO is released twice. -/
theorem failed_releasedTwice :
    ∃ w, Reaches openSsl anyReply
      ⟨[], {}, performAll [.createSocket (ascii "localhost") 5555]⟩ ⟨[], w, .ret ()⟩ ∧
      ¬Settled [] w ∧ w.ledger (.bio 30) = [2] := by
  have hexec : exec openSsl ⟨[], {}, performAll [.createSocket (ascii "localhost") 5555]⟩
      (handshakeReplies (-1) ++ [.inr {}, .inr {}, .inr {}]) = some ⟨[], _, .ret ()⟩ := rfl
  refine ⟨_, reaches_of_exec hexec, ?_, rfl⟩
  intro hsettled
  exact hsettled.not_overdrawn ⟨.bio 30, 2, List.mem_singleton.mpr rfl, le_rfl⟩

end SslClientSocket

end SocketDispatcher
