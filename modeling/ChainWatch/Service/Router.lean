import ChainWatch.Http.Message
import ChainWatch.Service.Control
import ChainWatch.Wire.Control

/-!
# The control channel

A service is controlled over HTTP. Commands are posted to `/`, and `/health` tells how the service
is. Every command gets a reply as JSON, except that a cancelled run gets an empty answer with a
status of its own. A body that is UTF-8 but no command gets the same reply whatever is wrong with
it, and nothing that is refused changes the service.
-/

namespace ChainWatch

open Json (Tree)
open Http (Arrival Response)

/-- The longest body that is accepted, in bytes. -/
def maxBodyLength : Nat := 2 * 1024 * 1024

/-- How a service is. -/
structure Health where
  nodes : Nat
  running : Bool
  uptimeSeconds : UInt64
deriving DecidableEq, Repr

/-- The version of the program. -/
def programVersion : String := "0.1.0"

/-- A natural number as JSON. -/
def natToJson (n : Nat) : Tree := .word (UInt64.ofNat n)

/-- The health of a service as a JSON object. -/
def Health.toJson (h : Health) : Tree :=
  .record [("status", .text "ok"), ("version", .text programVersion), ("nodes", natToJson h.nodes),
    ("running", .bool h.running), ("uptime_seconds", .word h.uptimeSeconds)]

/-- The health of a service that has been up for some seconds. -/
def Service.health (s : Service) (uptimeSeconds : UInt64) : Health where
  nodes := s.nodeCount
  running := s.isRunning
  uptimeSeconds := uptimeSeconds

namespace Http.Response

/-- The response that carries a reply. -/
def ofReply (r : Reply) : Response := ofJson (if r.isError then 400 else 200) r.toJson

/-- The response that carries what became of a command. -/
def ofOutcome : Outcome → Response
  | .reply r => ofReply r
  | .cancelled => empty goneStatus

end Http.Response

/-- What an arrival leads to at once. -/
inductive Reception where
  | answered (response : Response)
  /-- A run was started, and its caller waits. -/
  | waiting (run : RunId)

namespace Service

/-- Receive the body of a command. -/
def receiveCommand (s : Service) (body : List UInt8) : Service × Reception :=
  if maxBodyLength < body.length then
    (s, .answered (.ofText 413 "Failed to buffer the request body: length limit exceeded"))
  else
    match decodeUtf8 body with
    | .error fault =>
      (s, .answered (.ofText 400 ("Request body didn't contain valid UTF-8: " ++ fault.message)))
    | .ok text =>
      match Command.parse? text with
      | none => (s, .answered (.ofReply (.error Reply.noSuchFunction)))
      | some command =>
        match s.handle command with
        | (s, .answered outcome) => (s, .answered (.ofOutcome outcome))
        | (s, .waiting id) => (s, .waiting id)

/-- Receive a request. -/
def receive (s : Service) (a : Arrival) (uptimeSeconds : UInt64) : Service × Reception :=
  if a.path = "/" then
    if a.method = "POST" then s.receiveCommand a.body else (s, .answered (.empty 405))
  else if a.path = "/health" then
    if a.method = "GET" then
      (s, .answered (.ofJson 200 (s.health uptimeSeconds).toJson))
    else if a.method = "HEAD" then (s, .answered (.empty 200))
    else (s, .answered (.empty 405))
  else (s, .answered (.empty 404))

end Service

end ChainWatch
