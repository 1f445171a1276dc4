import MapBench.Api.Message
import MapBench.Session.Network
import Std.Async.DNS
import Std.Async.TCP
import Std.Async.Timer

/-!
# `MapBench.Outside.Connections`: requests over the network

A request goes over a connection of its own. The one who asks sends
it and reads until the other side ends the connection; the one who
answers reads until the request is complete.
-/

set_option autoImplicit false

namespace MapBench.Outside

open Std.Async

/-- The address of a machine and a port. -/
def socketAddress (ip : Std.Net.IPAddr) (port : UInt16) : Std.Net.SocketAddress :=
  match ip with
  | .v4 ip => .v4 ⟨ip, port⟩
  | .v6 ip => .v6 ⟨ip, port⟩

/-- The addresses of a host. A number may stand in brackets. -/
def addresses (host : String) (port : Nat) : Async (List Std.Net.SocketAddress) := do
  let name := String.ofList (host.toList.filter fun c => c ≠ '[' ∧ c ≠ ']')
  let ips ← DNS.getAddrInfo name (Decimal.text port)
  return ips.toList.map fun ip => socketAddress ip port.toUInt16

/-- Read from a connection until nothing more comes. -/
partial def receiveAll (client : TCP.Socket.Client) (received : ByteArray) : Async ByteArray := do
  match ← client.recv? 65536 with
  | some bytes => receiveAll client (received ++ bytes)
  | none => return received

/-- Connect to the first address that answers. -/
def connectAny : List Std.Net.SocketAddress → Async TCP.Socket.Client
  | [] => throw (.userError "no address")
  | address :: others => do
    let client ← TCP.Socket.Client.mk
    try
      client.connect address
      return client
    catch e =>
      -- The last failure is the one that is told.
      if others.isEmpty then throw e else connectAny others

/-- Send a request and read all that comes back. -/
def exchange (r : Outgoing) : Async ByteArray := do
  let port := r.url.port.getD (Url.defaultPort r.url.scheme)
  let client ← connectAny (← addresses r.url.host port)
  let host := r.url.host ++ (match r.url.port with
    | some port => ":" ++ Decimal.text port
    | none => "")
  let request : Api.Request := ⟨r.method, r.url.target, r.body⟩
  client.send (Api.requestBytes request host r.contentType).toByteArray
  receiveAll client .empty

/-- Give up after some seconds. -/
def within (seconds : Nat) (act : Async ByteArray) : Async ByteArray :=
  Async.race act do
    sleep (.ofNat (seconds * 1000))
    throw (.userError "operation timed out")

/-- Send a request and wait for its answer, with a limit on how many
seconds it may take. Connections aren't encrypted. -/
def carry (timeout : Option Nat) (r : Outgoing) : IO (Except String Api.Answer) := do
  if r.url.scheme = "https" then return .error "error trying to connect: no encryption"
  try
    let bytes ← (match timeout with
      | some seconds => within seconds (exchange r)
      | none => exchange r).block
    match Api.Answer.arrive? bytes.toList with
    | some answer => return .ok answer
    | none => return .error "connection closed before message completed"
  catch e =>
    return .error ("error trying to connect: " ++ e.toString)

/-- The network that is there, as far as its hosts are named in ASCII. -/
def network (timeout : Option Nat) : Network IO :=
  ⟨Url.asciiHost, carry timeout⟩

/-- Read a request from a connection. -/
partial def receiveRequest (client : TCP.Socket.Client) (received : ByteArray) :
    Async (Option Api.Request) := do
  match Api.Request.arrive received.toList with
  | .complete request => return some request
  | .malformed => return none
  | .incomplete =>
    match ← client.recv? 65536 with
    | some bytes => receiveRequest client (received ++ bytes)
    | none => return none

/-- Answer the request of one connection. -/
def answerOne (answer : Api.Request → IO Api.Answer) (client : TCP.Socket.Client) :
    Async Unit := do
  if let some request ← receiveRequest client .empty then
    client.send (Api.answerBytes (← answer request)).toByteArray
    client.shutdown

/-- Answer connections, one after another. One that breaks does no
harm to the others. -/
partial def answerAll (answer : Api.Request → IO Api.Answer) (server : TCP.Socket.Server) :
    Async Unit := do
  let client ← server.accept
  try
    answerOne answer client
  catch _ =>
    pure ()
  answerAll answer server

/-- Listen at an address and answer requests. -/
def listen (host : String) (port : Nat) (answer : Api.Request → IO Api.Answer) : Async Unit := do
  match ← addresses host port with
  | [] => throw (.userError "no address")
  | address :: _ =>
    let server ← TCP.Socket.Server.mk
    server.bind address
    server.listen 128
    answerAll answer server

end MapBench.Outside
