import SocketDispatcher.Socket
import SocketDispatcher.Bytes

/-!
# BIOs of TLS sockets

What the three constructors of {lit}`SslSocket` store, and what the wire shows of the
bytes that {lit}`dsockets::utils::write` hands to them.  OpenSSL itself is not under
the sources; two facts about it are taken over: bytes that go through an SSL object
show only their number, and a BIO made by {lit}`BIO_new_socket` puts its bytes on the
wire unchanged.

Main results:

- Theorem {lit}`shows_writeChannel`: whichever constructor made the object that is
  written to, its bytes are shown.
-/

namespace SocketDispatcher

/-- {lit}`BIO_NOCLOSE` -/
def BIO_NOCLOSE : Nat := 0

/-- A BIO made by {lit}`BIO_new_socket`. -/
structure Bio where
  fd : Int
  close_flag : Nat
deriving DecidableEq

/-- An {lit}`SSL` object and the BIOs that {lit}`SSL_set_bio` gave it. -/
structure Ssl where
  rbio : Option Bio := none
  wbio : Option Bio := none
deriving DecidableEq

/-- {lit}`SSL_set_bio` -/
def SSL_set_bio (ssl : Ssl) (rbio wbio : Bio) : Ssl :=
  { ssl with rbio := some rbio, wbio := some wbio }

/-- The members of class {lit}`SslSocket`. -/
structure SslSocket where
  descriptor : Int
  bio : Bio
  ssl : Ssl
deriving DecidableEq

namespace SslSocket

/-- {lit}`SslSocket::SslSocket(Socket::Ptr socket)` -/
def ofSocket (socket : Socket) : SslSocket :=
  let bio : Bio := ⟨socket.descriptor, BIO_NOCLOSE⟩
  ⟨socket.descriptor, bio, SSL_set_bio {} bio bio⟩

/-- {lit}`SslSocket::SslSocket(int descriptor)` -/
def ofDescriptor (descriptor : Int) : SslSocket :=
  let bio : Bio := ⟨descriptor, 0⟩
  ⟨descriptor, bio, SSL_set_bio {} bio bio⟩

/-- {lit}`SslSocket::SslSocket(int descriptor, BIO *bio, SSL *ssl)` -/
def ofBio (descriptor : Int) (bio : Bio) (ssl : Ssl) : SslSocket :=
  ⟨descriptor, bio, ssl⟩

/-- The object that {lit}`TcpSslConnectSocketFactory::createSocket` makes once the
handshake is over. -/
def sslClientSocket (sockfd : Int) : SslSocket :=
  let sbio : Bio := ⟨sockfd, BIO_NOCLOSE⟩
  ofBio sockfd sbio (SSL_set_bio {} sbio sbio)

end SslSocket

/-! ## The wire -/

/-- What the wire shows of one write. -/
inductive Shown where
  | bytes (content : List Byte)
  | length (n : Nat)
deriving DecidableEq

/-- What bytes are written to. -/
inductive Channel where
  | bio (bio : Bio)
  | ssl (ssl : Ssl)

/-- A BIO of a socket puts its bytes on the wire; an SSL object shows their number. -/
def Channel.shows : Channel → List Byte → Shown
  | .bio _, content => .bytes content
  | .ssl _, content => .length content.length

/-- What {lit}`dsockets::utils::write` writes to when the cast to {lit}`SslSocket`
succeeds. -/
def writeChannel (sslSocket : SslSocket) : Channel :=
  .bio sslSocket.bio

/-- Whichever constructor made the object, its bytes are shown. -/
theorem shows_writeChannel (sslSocket : SslSocket) (content : List Byte) :
    (writeChannel sslSocket).shows content = .bytes content :=
  rfl

end SocketDispatcher
