import ChainWatch.Http.Framing
import Std.Async.DNS
import Std.Async.TCP
import Std.Async.Timer

/-!
# Sending requests

Requests are sent over TCP, each over a connection of its own. There is no encryption here, so an
exchange with a target that asks for it breaks off.
-/

namespace ChainWatch.Machine

open Http (Address Request Response Result Target TransportFault)
open Std.Async (Async)
open Std.Net (IPAddr IPv4Addr IPv6Addr SocketAddress)
open Std.Async.TCP.Socket (Client)

/-- How many bytes are taken from a connection at once. -/
def pieceSize : UInt64 := 65536

/-- A host without the brackets around it. -/
def withoutBrackets (host : String) : String :=
  String.ofList (host.toList.filter fun c => c != '[' && c != ']')

/-- The addresses that a host stands for. -/
def lookUp (host : String) : Async (List IPAddr) := do
  let name := withoutBrackets host
  match IPv4Addr.ofString name, IPv6Addr.ofString name with
  | some address, _ => return [.v4 address]
  | none, some address => return [.v6 address]
  | none, none => return (← Std.Async.DNS.getAddrInfo name "").toList

/-- A port at an address. -/
def socketAddress (port : UInt16) : IPAddr → SocketAddress
  | .v4 address => .v4 ⟨address, port⟩
  | .v6 address => .v6 ⟨address, port⟩

/-- Connect to the first of some addresses that takes the connection. -/
def connectAny (port : UInt16) : List IPAddr → Async (Option Client)
  | [] => return none
  | address :: rest => do
    let socket ← Client.mk
    let connected ← try socket.connect (socketAddress port address); pure true
      catch _ => pure false
    if connected then return some socket else connectAny port rest

/-- Receive a response after the bytes that have arrived so far. -/
partial def receive (socket : Client) (arrived : List UInt8) : Async (Option Response) := do
  let piece ← socket.recv? pieceSize
  let arrived := arrived ++ (piece.map ByteArray.toList).getD []
  match Response.read piece.isNone arrived with
  | .whole response => return some response
  | .malformed => return none
  | .partway => receive socket arrived

/-- Exchange a request for a response over a connection. -/
def exchangeOver (socket : Client) (t : Target) (q : Request) : Async Result := do
  let response ← try
      socket.send ⟨(q.write t).toArray⟩
      receive socket []
    catch _ => pure none
  match response with
  | some response => return .ok response
  | none => return .error (.broken t.text)

/-- Exchange a request for a response. -/
def exchange (t : Target) (q : Request) : Async Result := do
  if t.secure then return .error (.broken t.text)
  let socket ← try connectAny t.wholePort (← lookUp t.host) catch _ => pure none
  match socket with
  | none => return .error (.unreachable t.text)
  | some socket => exchangeOver socket t q

instance : Inhabited Result := ⟨.error .malformedAddress⟩

/-- Send a request. The response may take so many milliseconds, if there is a limit. -/
def send (patience : Option UInt64) (q : Request) : Async Result :=
  match Address.read q.address with
  | .malformed => return .error .malformedAddress
  | .foreign address => return .error (.foreignAddress address)
  | .usable target =>
    match patience with
    | none => exchange target q
    | some millis =>
      (exchange target q).race do
        Std.Async.sleep (.ofNat millis.toNat)
        return .error (.timedOut target.text)

end ChainWatch.Machine
