import ChainWatch.Http.Message
import ChainWatch.Text.Blank
import ChainWatch.Wire.Control

/-!
# Sending commands

A command is sent to a running service as one request, and what comes back is a reply, whatever its
status: refusals are replies too. One status stands apart: it says that the run was cancelled before
it had a verdict, and there is no reply.
-/

namespace ChainWatch.Http

/-- Why a command got no reply. -/
inductive ClientFault where
  /-- The service could not be reached. -/
  | connectionFailed (reason : String)
  /-- The run was cancelled. -/
  | runCancelled
  /-- What came back is no reply. -/
  | unexpected (status : UInt16) (body : String)
  /-- The command could not be sent, for any other reason. -/
  | http (reason : String)
deriving DecidableEq, Repr

/-- The wording of a fault. -/
def ClientFault.message : ClientFault → String
  | .connectionFailed reason => "connection failed: " ++ reason
  | .runCancelled => "run was cancelled"
  | .unexpected status body => s!"unexpected response ({status}): {body}"
  | .http reason => "http error: " ++ reason

/-- What a fault of the transport means for a command. -/
def TransportFault.clientFault (f : TransportFault) : ClientFault :=
  match f with
  | .unreachable _ => .connectionFailed f.message
  | _ => .http f.message

/-- Where a service takes commands. -/
def controlAddress (server : String) : String := trimEndChar '/' server ++ "/"

/-- What a response to a command means. -/
def readReply (r : Response) : Except ClientFault Reply :=
  if r.status = goneStatus then .error .runCancelled
  else
    match Reply.parse? r.text with
    | some reply => .ok reply
    | none => .error (.unexpected r.status r.text)

/-- Send a command to a service. -/
def sendCommand (server : String) (c : Command) : Conversation (Except ClientFault Reply) :=
  .ask (.post (controlAddress server) c.toJson) fun
    | .error fault => .done (.error fault.clientFault)
    | .ok r => .done (readReply r)

end ChainWatch.Http
