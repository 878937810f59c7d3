import ChainWatch.Service.Router

/-!
# A service and its clock

A run is driven by four tickers (`Beats`). A `Clockwork` is a service with the tickers of its runs:
it says which beat of which run is due at a time, and lets it tick. The time is a number of
nanoseconds and comes from outside, as do the correlation ids of submissions; what the runs send
goes outside.

So one clockwork can be driven by a clock on a wall or by one that jumps.
-/

namespace ChainWatch

/-- What a run does over and over. -/
inductive Beat where
  | refresh
  | submit
  | poll
  | check
deriving DecidableEq, Repr

namespace Beat

/-- All beats, in the order in which they tick when they are due together. -/
def all : List Beat := [refresh, submit, poll, check]

/-- What a beat is to the loop of a run; a submission goes under the id. -/
def event (id : CorrelationId) : Beat → LoopEvent
  | refresh => .refreshDue
  | submit => .submitDue id
  | poll => .pollDue
  | check => .checkDue

end Beat

/-- The tickers of a run. -/
structure Beats where
  refresh : Ticker
  submit : Ticker
  poll : Ticker
  check : Ticker
deriving DecidableEq, Repr

namespace Beats

/-- The tickers of a run that starts: the first check comes after a whole period. -/
def start (now : Nat) (schedule : Schedule) (period : Span) : Beats where
  refresh := .atOnce now schedule.refresh
  submit := .atOnce now period
  poll := .atOnce now schedule.poll
  check := .afterPeriod now schedule.check

/-- The ticker of a beat. -/
def get (b : Beats) : Beat → Ticker
  | .refresh => b.refresh
  | .submit => b.submit
  | .poll => b.poll
  | .check => b.check

/-- Let the ticker of a beat tick. -/
def tick (b : Beats) (beat : Beat) (now : Nat) : Beats :=
  match beat with
  | .refresh => { b with refresh := b.refresh.next now }
  | .submit => { b with submit := b.submit.next now }
  | .poll => { b with poll := b.poll.next now }
  | .check => { b with check := b.check.next now }

/-- The first time at which a beat is due, of those that the run listens to. -/
def due (b : Beats) (wantsSubmission : Bool) : Nat :=
  let others := min b.refresh.due (min b.poll.due b.check.due)
  if wantsSubmission then min b.submit.due others else others

end Beats

/-- A service and the tickers of its runs. -/
structure Clockwork where
  service : Service
  beats : List (RunId × Beats) := []

namespace Clockwork

/-- The numbers of all runs. -/
def runs (c : Clockwork) : List RunId := c.service.tasks.map Task.id

/-- The loop of a run that is going on. -/
def loop? (c : Clockwork) (run : RunId) : Option Loop :=
  match c.service.task? run with
  | some t =>
    match t.phase with
    | .driving => some t.loop
    | _ => none
  | none => none

/-- Let an event happen to a run, and give what the run sends. -/
def drive (c : Clockwork) (run : RunId) (event : LoopEvent) (now : Nat) :
    Clockwork × List LoopRequest :=
  let (service, requests) := c.service.drive run event (.ofNanos now)
  ({ c with service := service }, requests)

/-- Is a beat of a run due, and does the run listen to it? -/
def isDue (c : Clockwork) (run : RunId) (beat : Beat) (now : Nat) : Bool :=
  match c.loop? run, c.beats.lookup run with
  | some l, some b => (b.get beat).due ≤ now && (beat != .submit || l.run.wantsSubmission)
  | _, _ => false

/-- Let a beat of a run tick if it is due. A submission goes under the id. -/
def tickIfDue (c : Clockwork) (run : RunId) (beat : Beat) (id : CorrelationId) (now : Nat) :
    Clockwork × List LoopRequest :=
  if c.isDue run beat now then
    let beats := c.beats.map fun (i, b) => (i, if i = run then b.tick beat now else b)
    { c with beats := beats }.drive run (beat.event id) now
  else (c, [])

/-- The first time at which a run that is going on has a beat due. -/
def nextDue? (c : Clockwork) : Option Nat :=
  (c.runs.filterMap fun run =>
    match c.loop? run, c.beats.lookup run with
    | some l, some b => some (b.due l.run.wantsSubmission)
    | _, _ => none).min?

/-- Give every aborting run its turn. -/
def yield (c : Clockwork) : Clockwork :=
  { c with service := c.service.yield }

/-- The caller of a run hangs up. -/
def hangUp (c : Clockwork) (run : RunId) : Clockwork :=
  { c with service := c.service.hangUp run }

/-- The caller of a run looks whether it has finished, and if so gets the response. -/
def resume (c : Clockwork) (run : RunId) : Clockwork × Option Http.Response :=
  let (service, outcome) := c.service.resume run
  ({ c with service := service }, outcome.map .ofOutcome)

/-- Receive a request; a run that it starts begins to tick. -/
def receive (c : Clockwork) (a : Http.Arrival) (now : Nat) (uptimeSeconds : UInt64) :
    Clockwork × Reception :=
  match c.service.receive a uptimeSeconds with
  | (service, .answered response) => ({ c with service := service }, .answered response)
  | (service, .waiting run) =>
    let c := { c with service := service }
    match c.loop? run with
    | some l =>
      let b := Beats.start now service.schedule l.params.period
      ({ c with beats := (run, b) :: c.beats }, .waiting run)
    | none => (c, .waiting run)

end Clockwork

end ChainWatch
