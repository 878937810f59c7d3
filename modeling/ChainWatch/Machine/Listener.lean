import ChainWatch.Config
import ChainWatch.Http.NodeClient
import ChainWatch.Http.SubmitClient
import ChainWatch.Machine.Transport
import ChainWatch.Service.Clockwork
import ChainWatch.Service.ListenAddress
import Std.Async.Signal

/-!
# The service on a machine

A listener drives a clockwork by the clock of the machine and by what comes over TCP. It goes around
one loop (`Serving.turn`), and in every turn looks at all that it waits for: a new connection, a
piece of a request, the end of something that a run has sent (an `Errand`), a beat that is due.
Nothing in a turn blocks, so the clockwork needs no lock.

When the program is told to stop, the listener takes no more connections, and goes on until those
that it has are done with.
-/

namespace ChainWatch.Machine

open Http (Arrival Response)
open Std.Async (Async AsyncTask)
open Std.Async.TCP.Socket (Client Server)

/-- What has come of a task, if it has finished. -/
def outcome? {α : Type} (task : AsyncTask α) : IO (Option (Except IO.Error α)) := do
  match ← task.getState with
  | .finished => return some (← task.block.toBaseIO)
  | _ => return none

/-! ### Errands -/

/-- Something that a run has sent. -/
structure Errand where
  run : RunId
  completion : AsyncTask Completion

/-- Send what a run asks for, and wait for the answer. -/
def carryOut (patience : UInt64) : LoopRequest → Async Completion
  | .chainInfo node url =>
    return .chainInfo node (← (Http.NodeClient.chainInfo url).runM (send (some patience)))
  | .resolve id node url =>
    return .resolve id node (← (Http.NodeClient.resolve url id).runM (send (some patience)))
  | .submit submission =>
    return .submit submission.id (← (Http.submit submission).runM (send (some patience)))

/-! ### Connections -/

/-- How far a connection has come. -/
inductive Standing where
  /-- These bytes of a request have arrived. -/
  | receiving (arrived : List UInt8)
  /-- The caller waits for a run. -/
  | waiting (run : RunId)
  /-- The response is being sent. -/
  | answering (sent : AsyncTask Unit)

/-- A connection of a caller. -/
structure Connection where
  socket : Client
  /-- The next piece that the caller sends; none if the caller hangs up. -/
  piece : AsyncTask (Option ByteArray)
  standing : Standing

namespace Connection

/-- Wait for the next piece. -/
def listen (socket : Client) (standing : Standing) : IO Connection :=
  return { socket := socket, piece := ← (socket.recv? pieceSize).toIO, standing := standing }

/-- Send a response. -/
def respond (c : Connection) (r : Response) : IO Connection :=
  return { c with standing := .answering (← (c.socket.send ⟨r.write.toArray⟩).toIO) }

/-- Is there nothing on the connection that must be finished? -/
def isIdle (c : Connection) : Bool :=
  match c.standing with
  | .receiving arrived => arrived.isEmpty
  | _ => false

end Connection

/-! ### Turns -/

/-- A service that is being driven. -/
structure Serving where
  clockwork : Clockwork
  /-- How many milliseconds a request of a run may take. -/
  patience : UInt64
  startedAt : Nat
  errands : List Errand := []
  connections : List Connection := []

namespace Serving

/-- A correlation id that no one can guess. -/
def freshId : IO CorrelationId := do
  let bytes ← IO.getRandomBytes 16
  return (CorrelationId.ofBytes? bytes.toList).getD .zero

/-- Send what a run asks for. -/
def dispatch (s : Serving) (run : RunId) (requests : List LoopRequest) : IO Serving := do
  let errands ← requests.mapM fun request => do
    return { run := run, completion := ← (carryOut s.patience request).toIO : Errand }
  return { s with errands := s.errands ++ errands }

/-- Let what has come of an errand happen to its run. -/
def settleErrand (s : Serving) (e : Errand) : IO Serving := do
  match ← outcome? e.completion with
  | none => return { s with errands := s.errands ++ [e] }
  | some (.error _) => return s
  | some (.ok completion) =>
    let (clockwork, requests) := s.clockwork.drive e.run (.completed completion) (← IO.monoNanosNow)
    { s with clockwork := clockwork }.dispatch e.run requests

/-- Let a beat of a run tick if it is due. -/
def tick (s : Serving) (run : RunId) (beat : Beat) : IO Serving := do
  let (clockwork, requests) := s.clockwork.tickIfDue run beat (← freshId) (← IO.monoNanosNow)
  { s with clockwork := clockwork }.dispatch run requests

/-- Let every beat of every run tick that is due. -/
def tickAll (s : Serving) : IO Serving :=
  s.clockwork.runs.foldlM (fun s run => Beat.all.foldlM (fun s beat => s.tick run beat) s) s

/-- Take in a piece of a request; nothing more comes after an empty one. -/
def take (s : Serving) (c : Connection) (arrived : List UInt8) : IO (Serving × Connection) := do
  match Arrival.read maxBodyLength arrived with
  | .partway => return (s, ← Connection.listen c.socket (.receiving arrived))
  | .malformed => return (s, ← c.respond (.empty 400))
  | .whole arrival =>
    let now ← IO.monoNanosNow
    let uptime := UInt64.ofNat (Span.wholeSecs (now - s.startedAt))
    let (clockwork, reception) := s.clockwork.receive arrival now uptime
    let s := { s with clockwork := clockwork }
    match reception with
    | .answered response => return (s, ← c.respond response)
    | .waiting run => return (s, ← Connection.listen c.socket (.waiting run))

/-- Look at a connection. A caller who hangs up has no more use for it. -/
def attend (s : Serving) (c : Connection) : IO (Serving × Option Connection) := do
  match c.standing with
  | .receiving arrived =>
    match ← outcome? c.piece with
    | none => return (s, some c)
    | some (.ok (some piece)) =>
      let (s, c) ← s.take c (arrived ++ piece.toList)
      return (s, some c)
    | some _ => return (s, none)
  | .waiting run =>
    match s.clockwork.resume run with
    | (clockwork, some response) =>
      return ({ s with clockwork := clockwork }, some (← c.respond response))
    | (_, none) =>
      match ← outcome? c.piece with
      | none => return (s, some c)
      | some (.ok (some _)) => return (s, some (← Connection.listen c.socket (.waiting run)))
      | some _ => return ({ s with clockwork := s.clockwork.hangUp run }, none)
  | .answering sent =>
    match ← outcome? sent with
    | none => return (s, some c)
    -- the caller may still hold its side open; ours is closed, and so it sees the end
    | some (.ok ()) => discard c.socket.shutdown.toIO; return (s, none)
    | some (.error _) => return (s, none)

/-- Look at all that the service waits for. -/
def turn (s : Serving) : IO Serving := do
  let s ← s.errands.foldlM settleErrand { s with errands := [] }
  let s ← s.tickAll
  -- a cancelled run is gone before its caller looks
  let s := { s with clockwork := s.clockwork.yield }
  s.connections.foldlM (fun s c => do
    match ← s.attend c with
    | (s, some c) => return { s with connections := s.connections ++ [c] }
    | (s, none) => return s) { s with connections := [] }

/-- Take connections until the program is told to stop. -/
partial def accept (s : Serving) (server : Server) (next : AsyncTask Client)
    (stop : AsyncTask Int) : IO Serving := do
  let s ← s.turn
  if (← outcome? stop).isSome then return s
  match ← outcome? next with
  | none => IO.sleep 1; s.accept server next stop
  | some (.ok socket) =>
    let c ← Connection.listen socket (.receiving [])
    { s with connections := s.connections ++ [c] }.accept server (← server.accept.toIO) stop
  | some (.error _) => s.accept server (← server.accept.toIO) stop

/-- Go on until all connections are done with. -/
partial def finish (s : Serving) : IO Unit := do
  let s ← s.turn
  let s := { s with connections := s.connections.filter fun c => !c.isIdle }
  if s.connections.isEmpty then return
  IO.sleep 1
  s.finish

end Serving

/-! ### The service -/

/-- How many callers may wait for their connections to be taken. -/
def backlog : UInt32 := 128

/-- Listen at an address. -/
def listenAt (a : ListenAddress) : IO Server := do
  match (← (lookUp a.host).block).head? with
  | none => throw (IO.userError "no address")
  | some address =>
    let server ← Server.mk
    server.bind (socketAddress a.port address)
    server.listen backlog
    return server

/-- Serve until the program is told to stop. -/
def serve (c : Config) (server : Server) : IO Unit := do
  let stop ← (← Std.Async.Signal.Waiter.mk .sigint false).wait
  let s : Serving :=
    { clockwork := { service := { schedule := c.schedule, defaultUrl := c.defaultUrl } }
      patience := c.requestTimeoutMillis
      startedAt := ← IO.monoNanosNow }
  let s ← s.accept server (← server.accept.toIO) stop
  s.finish

end ChainWatch.Machine
