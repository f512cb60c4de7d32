import SocketDispatcher.Bytes

/-!
# Sockets

The class {lit}`Socket` and the enumerations of {lit}`Socket.h`.  Event masks
are the 16-bit {lit}`short` values of {lit}`struct pollfd`.  A socket object is
built only for a descriptor other than {lit}`FREE_SOCKET`, which the constructor
asserts; here that is a field.

Main results:

- Theorems {lit}`hasBit_or_self` and {lit}`hasBit_or_of_hasBit`: a requested
  bit is set, and stays set when further bits are requested.

Current gaps:

- The {lit}`SSL` object and the path of the UNIX listener are not fields: no
  modelled function reads them.
-/

namespace SocketDispatcher

/-! ## Event masks -/

/-- A {lit}`short` of {lit}`POLL` bits. -/
abbrev Events := BitVec 16

def POLLIN : Events := 0x001#16
def POLLOUT : Events := 0x004#16
def POLLERR : Events := 0x008#16
def POLLHUP : Events := 0x010#16
def POLLNVAL : Events := 0x020#16
def POLLRDHUP : Events := 0x2000#16

/-- Some bit of {lit}`mask` is set. -/
def hasBit (events mask : Events) : Bool :=
  events &&& mask != 0#16

/-- Setting the bits of a mask sets some bit of it, unless the mask is empty. -/
theorem hasBit_or_self {mask : Events} (hmask : mask ≠ 0#16) (events : Events) :
    hasBit (events ||| mask) mask = true := by
  have hand : (events ||| mask) &&& mask = mask := by
    ext i hi
    simp only [BitVec.getElem_and, BitVec.getElem_or]
    cases mask[i] <;> simp
  simpa [hasBit, hand] using hmask

/-- Setting further bits keeps the bits that are set. -/
theorem hasBit_or_of_hasBit {events mask : Events} (h : hasBit events mask = true)
    (more : Events) : hasBit (events ||| more) mask = true := by
  simp only [hasBit, bne_iff_ne, ne_eq] at h ⊢
  intro hzero
  apply h
  ext i hi
  have hbit := congrArg (fun v : Events => v[i]) hzero
  simp only [BitVec.getElem_and, BitVec.getElem_or, BitVec.getElem_zero] at hbit ⊢
  cases hevent : events[i] <;> simp_all

/-! ## Socket objects -/

/-- Socket types enumeration. -/
inductive SocketType where
  | TCP
  | SSL
  | UNIX
  | UNKNOWN
deriving DecidableEq, Repr

/-- State of the conversation with a client. -/
inductive ClientStatus where
  | HELLO
  | BYE
  | ECHO
  | NONE
deriving DecidableEq, Repr

/-- Dynamic class of an object behind a {lit}`Socket::Ptr`. -/
inductive SocketClass where
  /-- {lit}`Socket` itself. -/
  | socket
  /-- {lit}`TcpSocket` of {lit}`ReceivedTcpSocketFactory.cpp`. -/
  | tcpSocket
  /-- {lit}`UnixSocket` of {lit}`UnixSocketFactory.cpp`. -/
  | unixSocket
  | sslSocket
  | tcpListenerSocket
  | tcpSslListenerSocket
  | unixListenerSocket
deriving DecidableEq, Repr

/-- Constant for checking file descriptor value. -/
def FREE_SOCKET : Int := -1

/-- Constant for resetting the events and revents fields. -/
def NO_EVENTS : Events := 0

/-- An object of class {lit}`Socket` or of a class derived from it. -/
structure Socket where
  cls : SocketClass
  protectDescriptor : Bool := false
  descriptor : Int
  events : Events := NO_EVENTS
  revents : Events := NO_EVENTS
  socketType : SocketType
  listenSocket : Bool := false
  clientStatus : ClientStatus := .NONE
  /-- The assertion of the constructor. -/
  descriptor_ne : descriptor ≠ FREE_SOCKET

/-- A descriptor that the kernel gives out is not {lit}`FREE_SOCKET`. -/
theorem ne_FREE_SOCKET_of_nonneg {descriptor : Int} (h : 0 ≤ descriptor) :
    descriptor ≠ FREE_SOCKET := by
  unfold FREE_SOCKET
  omega

theorem natCast_ne_FREE_SOCKET (descriptor : Nat) : (descriptor : Int) ≠ FREE_SOCKET :=
  ne_FREE_SOCKET_of_nonneg (Int.natCast_nonneg descriptor)

namespace Socket

/-- Set read bit. -/
def pollForRead (socket : Socket) : Socket :=
  { socket with events := socket.events ||| POLLIN }

/-- Set write bit. -/
def pollForWrite (socket : Socket) : Socket :=
  { socket with events := socket.events ||| POLLOUT }

/-- Set specific set of POLL bits. -/
def setEvents (events : Events) (socket : Socket) : Socket :=
  { socket with events := events }

/-- Set the re-events. -/
def setRevents (revents : Events) (socket : Socket) : Socket :=
  { socket with revents := revents }

def setClientStatus (status : ClientStatus) (socket : Socket) : Socket :=
  { socket with clientStatus := status }

/-- Disable to close file descriptor when instance died. -/
def protect (socket : Socket) : Socket :=
  { socket with protectDescriptor := true }

/-- Decode re-events: check for read ability. -/
def isReadAvailable (socket : Socket) : Bool :=
  hasBit socket.revents POLLIN

/-- Decode re-events: check for write ability. -/
def isWriteAvailable (socket : Socket) : Bool :=
  hasBit socket.revents POLLOUT

end Socket

/-- The bits that {lit}`isDropped` looks for. -/
def dropBits (revents : Events) : Bool :=
  hasBit revents POLLERR || hasBit revents POLLHUP || hasBit revents POLLNVAL ||
    hasBit revents POLLRDHUP

namespace Socket

/-- Decode re-events: check for error, hung up, etc. -/
def isDropped (socket : Socket) : Bool :=
  dropBits socket.revents

/-- {lit}`dynamic_cast<SslSocket*>` succeeds. -/
def isSslSocket (socket : Socket) : Bool :=
  socket.cls == .sslSocket

/-- A connected UNIX socket: in the listener, a dispatcher. -/
def isDispatcher (socket : Socket) : Bool :=
  socket.socketType == .UNIX && !socket.listenSocket

end Socket

end SocketDispatcher
