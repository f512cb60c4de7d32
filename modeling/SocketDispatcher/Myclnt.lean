import SocketDispatcher.SocketUtils

/-!
# The client

The function {lit}`createSocket` of {lit}`TcpSslConnectSocketFactory.cpp` and
{lit}`main` of {lit}`myclnt.cpp`.

Main results:

- Definitions {lit}`TcpSslConnectSocketFactory.createSocket` and {lit}`main`: the
  program whose runs the later modules speak about.

Current gaps:

- {lit}`main` starts once the OpenSSL context exists.
- The destructor of the socket closes the descriptor; its {lit}`SSL_free` is left out.
-/

namespace SocketDispatcher

open Interaction

namespace TcpSslConnectSocketFactory

/-- {lit}`SslClientSocket::SslClientSocket`; the class is derived from
{lit}`SslSocket`. -/
def sslClientSocket (descriptor : Int) (h : descriptor ≠ FREE_SOCKET) : Socket where
  cls := .sslSocket
  descriptor := descriptor
  socketType := .SSL
  descriptor_ne := h

/-- {lit}`TcpSslConnectSocketFactory::createSocket()` -/
def createSocket (host : List Byte) (port : Nat) : Proc Ptr := do
  let hostEntry ← Program.ask (.gethostbyname host)
  match hostEntry.data with
  | none => pure nullptr
  | some h_length =>
      if h_length = 0 then
        pure nullptr
      else do
        let sockfd ← Program.ask (.socket .AF_INET)
        if h : sockfd.ret = -1 then
          pure nullptr
        else do
          let connected ← Program.ask (.connect sockfd.ret hostEntry.bytes port)
          if connected.ret ≠ 0 then do
            let _ ← Program.ask (.close sockfd.ret)
            pure nullptr
          else do
            let r ← Program.ask (.sslConnect sockfd.ret)
            if r.ret ≤ 0 then do
              let _ ← Program.ask (.close sockfd.ret)
              pure nullptr
            else
              makeShared (sslClientSocket sockfd.ret h)

end TcpSslConnectSocketFactory

namespace Myclnt

/-- What is sent in place of an empty line. -/
def exitMessage : List Byte := ascii "EXIT"

/-- Body of the loop of {lit}`main`: wait for bytes, read a line and send it.  The
result is true when the loop is left.  Printing what was received is left out. -/
def converse (clientSocket : Ptr) : Proc Bool := do
  let recvBuffer ← Program.ask (.automatic 1024)
  let _ ← read clientSocket recvBuffer.bytes 1024
  let userInputLine ← Program.ask .cin
  if userInputLine.bytes = [] then do
    let _ ← write clientSocket exitMessage
    pure true
  else do
    let _ ← write clientSocket userInputLine.bytes
    pure false

/-- {lit}`main`, its loop at most the given number of times around. -/
def main (iterations : Nat) : Proc Int := do
  let clientSocket ← TcpSslConnectSocketFactory.createSocket (ascii "localhost") 5555
  if clientSocket = nullptr then
    pure 1
  else do
    Program.repeatUntil (converse clientSocket) iterations
    -- the only reference goes out of scope
    release clientSocket
    pure 0

/-- The memory that {lit}`main` begins with. -/
def booted : Memory where
  heap _ := none
  next := 1
  socketsList := SocketsList.empty 0
  outputSocketsList := SocketsList.empty 0
  locals := []

end Myclnt

end SocketDispatcher
