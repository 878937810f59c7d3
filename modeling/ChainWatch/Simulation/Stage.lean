import ChainWatch.Service.Clockwork
import ChainWatch.Simulation.Cluster

/-!
# The stage of a rehearsal

A `Stage` is a service with its clockwork and a scripted cluster. Everything on it happens at an
instant, a whole millisecond: timers are only looked at then, and whatever is sent is answered
within the instant.

`Stage.atInstant` is one instant. First every beat that is due ticks, the submissions as often as
they are due. Then the cluster answers what the run has sent, in the order of sending. Then the run
takes the answers, in the same order. A run that settles on the way does nothing more, and what it
had sent is not asked any more. At last the callers of finished runs get their responses.
-/

namespace ChainWatch

/-- The number of an instant, in milliseconds. -/
abbrev Instant := Nat

/-- The first instant that is not before a number of nanoseconds. -/
def instantOf (nanos : Nat) : Instant := (nanos + 999999) / 1000000

/-- What takes part in a rehearsal. -/
structure Stage where
  clockwork : Clockwork
  cluster : Cluster := {}
  /-- How many correlation ids were drawn. -/
  drawn : Nat := 0
  /-- What the callers of runs were told. -/
  responses : List (RunId × Http.Response) := []

namespace Stage

/-- The service. -/
def service (s : Stage) : Service := s.clockwork.service

/-- The correlation id that is drawn after some others. -/
def correlationId (drawn : Nat) : CorrelationId := .ofNat (1 <<< 127 + drawn)

/-! ### Ticks -/

/-- Let a beat of a run tick if it is due. -/
def tick (run : RunId) (now : Instant) (s : Stage) (beat : Beat) : Stage :=
  { s with
    clockwork := (s.clockwork.tickIfDue run beat (correlationId s.drawn) (Span.millis now)).1
    drawn := s.drawn + 1 }

/-- Let a run submit as often as it is due, up to a number of times. -/
def submitWhileDue (run : RunId) (now : Instant) : Nat → Stage → Stage
  | 0, s => s
  | n + 1, s =>
    if s.clockwork.isDue run .submit (Span.millis now) then
      submitWhileDue run now n (s.tick run now .submit)
    else s

/-- Let every beat of a run tick that is due. -/
def tickAll (s : Stage) (run : RunId) (now : Instant) : Stage :=
  let s := Beat.all.foldl (tick run now) s
  match s.clockwork.loop? run with
  | some l => submitWhileDue run now l.params.amount.toNat s
  | none => s

/-! ### Requests -/

/-- Let the cluster answer a request. -/
def answer (c : Cluster) : LoopRequest → Completion × Cluster
  | .chainInfo node url =>
    let (result, c) := c.chainInfo url
    (.chainInfo node result, c)
  | .resolve id node url =>
    let (result, c) := c.resolve url id
    (.resolve id node result, c)
  | .submit submission =>
    let (result, c) := c.submit submission
    (.submit submission.id result, c)

/-- Let the cluster answer requests in turn. -/
def answerAll (c : Cluster) : List LoopRequest → List Completion × Cluster
  | [] => ([], c)
  | q :: qs =>
    let (completion, c) := answer c q
    let (completions, c) := answerAll c qs
    (completion :: completions, c)

/-- Let a run take the end of a request. -/
def take (run : RunId) (now : Instant) (s : Stage) (c : Completion) : Stage :=
  { s with clockwork := (s.clockwork.drive run (.completed c) (Span.millis now)).1 }

/-- Let the cluster answer what a run has sent, and the run take the answers. -/
def exchange (s : Stage) (run : RunId) (now : Instant) : Stage :=
  match s.clockwork.loop? run with
  | none => s
  | some l =>
    let (completions, cluster) := answerAll s.cluster l.outstanding
    completions.foldl (take run now) { s with cluster := cluster }

/-! ### Instants -/

/-- Let the caller of a run look whether it has finished. -/
def resume (s : Stage) (run : RunId) : Stage :=
  match s.clockwork.resume run with
  | (clockwork, some response) =>
    { s with clockwork := clockwork, responses := (run, response) :: s.responses }
  | (clockwork, none) => { s with clockwork := clockwork }

/-- One instant: aborting runs end, due beats tick, requests are answered, callers are told. -/
def atInstant (s : Stage) (now : Instant) : Stage :=
  let s := { s with clockwork := s.clockwork.yield }
  let s := s.clockwork.runs.foldl (fun s run => (s.tickAll run now).exchange run now) s
  s.clockwork.runs.foldl resume s

/-- The first instant at which a run that is going on has a beat due. -/
def nextDue? (s : Stage) : Option Instant :=
  s.clockwork.nextDue?.map instantOf

/-- Receive a request. -/
def receive (s : Stage) (a : Http.Arrival) (now : Instant) : Stage × Reception :=
  let (clockwork, reception) := s.clockwork.receive a (Span.millis now) 0
  ({ s with clockwork := clockwork }, reception)

end Stage

end ChainWatch
