import ChainWatch.Simulation.Stage

/-!
# Rehearsals

A `Rehearsal` is a stage under a clock that moves only while everything waits: from one instant at
which something is due to the next (`Rehearsal.advance`). So runs of minutes take no time, and what
happens depends on nothing but what the director does.

The director posts requests and waits for their responses, or starts them and comes back for them
under a tag; looks at the service; changes the cluster; and lets time pass. While the director does
not wait, nothing else happens: a run that is cancelled goes on counting as running until the
director waits. The director also comes first at every instant: whatever is due when a wait is over
happens only when the next one begins, and a wait of no time is none.
-/

namespace ChainWatch

/-- Where a request that was started has got to. -/
inductive Ticket where
  | answered (response : Http.Response)
  | waiting (run : RunId)

/-- A stage and its clock. -/
structure Rehearsal where
  now : Instant := 0
  stage : Stage
  /-- The requests that were started, by their tags. -/
  tickets : List (String × Ticket) := []

namespace Rehearsal

/-- A rehearsal of a service without nodes. -/
def start (schedule : Schedule) (defaultUrl : String) : Rehearsal where
  stage := { clockwork := { service := { schedule := schedule, defaultUrl := defaultUrl } } }

/-- Change the cluster. -/
def modifyCluster (r : Rehearsal) (f : Cluster → Cluster) : Rehearsal :=
  { r with stage := { r.stage with cluster := f r.stage.cluster } }

/-- The caller of a run hangs up. -/
def dropCaller (r : Rehearsal) (run : RunId) : Rehearsal :=
  { r with stage := { r.stage with clockwork := r.stage.clockwork.hangUp run } }

/-! ### Time -/

/-- Let everything happen that is due at the present instant. -/
def catchUp (r : Rehearsal) : Rehearsal :=
  { r with stage := r.stage.atInstant r.now }

/-- Let the clock move until a condition holds, but only up to an instant. -/
def advance (stop : Stage → Bool) (last : Instant) (r : Rehearsal) : Rehearsal :=
  if stop r.stage then r
  else
    match r.stage.nextDue? with
    | none => { r with now := max r.now last }
    | some t =>
      if h : r.now < t ∧ t < last then
        have : last - t < last - r.now := Nat.sub_lt_sub_left (Nat.lt_trans h.1 h.2) h.1
        advance stop last { r with now := t, stage := r.stage.atInstant t }
      else { r with now := max r.now last }
termination_by last - r.now

/-- Wait until a condition holds, but only up to an instant: what is due happens, and the clock
moves. -/
def wait (stop : Stage → Bool) (last : Instant) (r : Rehearsal) : Rehearsal :=
  if r.now < last then r.catchUp.advance stop last else r

/-- Let some milliseconds pass. -/
def sleep (ms : Nat) (r : Rehearsal) : Rehearsal :=
  r.wait (fun _ => false) (r.now + ms)

/-! ### Requests -/

/-- What the caller of a run was told. -/
def response? (r : Rehearsal) (id : RunId) : Option Http.Response :=
  r.stage.responses.lookup id

/-- An instant before which a run has settled if nobody interferes: all is submitted by then, and
the last watch is past the hard deadline at a check. A run that does not go on settles at once. -/
def horizon (r : Rehearsal) (id : RunId) : Instant :=
  match r.stage.clockwork.loop? id with
  | none => r.now + 1
  | some l =>
    let schedule := r.stage.service.schedule
    let submitted := (l.params.amount.toNat + 1) * l.params.period
    r.now + instantOf (submitted + schedule.deadlines.hard + 2 * schedule.check) + 10

/-- Wait for the response of a run, but only up to an instant. -/
def await (r : Rehearsal) (id : RunId) (last : Instant) : Rehearsal × Option Http.Response :=
  let r := r.wait (fun s => (s.responses.lookup id).isSome) last
  (r, r.response? id)

/-- Receive a request at the present instant. -/
def receive (r : Rehearsal) (a : Http.Arrival) : Rehearsal × Reception :=
  let (stage, reception) := r.stage.receive a r.now
  ({ r with stage := stage }, reception)

/-- Post a request and wait for the response. -/
def post (r : Rehearsal) (a : Http.Arrival) : Rehearsal × Option Http.Response :=
  match r.receive a with
  | (r, .answered response) => (r, some response)
  | (r, .waiting id) => r.await id (r.horizon id)

/-- Post a request and wait for the response, but hang up after some milliseconds. -/
def postWithin (r : Rehearsal) (a : Http.Arrival) (ms : Nat) : Rehearsal × Option Http.Response :=
  match r.receive a with
  | (r, .answered response) => (r, some response)
  | (r, .waiting id) =>
    match r.await id (r.now + ms) with
    | (r, some response) => (r, some response)
    | (r, none) => (r.dropCaller id, none)

/-- Start a request under a tag, and let a millisecond pass. -/
def startTagged (r : Rehearsal) (tag : String) (a : Http.Arrival) : Rehearsal :=
  let (r, reception) := r.receive a
  let ticket := match reception with
    | .answered response => Ticket.answered response
    | .waiting id => .waiting id
  { r with tickets := assign tag ticket r.tickets }.sleep 1

/-- Has the request of a tag got its response? -/
def isDone (r : Rehearsal) (tag : String) : Bool :=
  match r.tickets.lookup tag with
  | none => false
  | some (.answered _) => true
  | some (.waiting id) => (r.response? id).isSome

/-- Forget a tag. -/
def dropTag (r : Rehearsal) (tag : String) : Rehearsal :=
  { r with tickets := r.tickets.filter fun p => p.1 != tag }

/-- Wait for the response to the request of a tag, if there is such a request. -/
def join (r : Rehearsal) (tag : String) : Rehearsal × Option (Option Http.Response) :=
  match r.tickets.lookup tag with
  | none => (r, none)
  | some (.answered response) => (r.dropTag tag, some (some response))
  | some (.waiting id) =>
    let (r, response) := (r.dropTag tag).await id (r.horizon id)
    (r, some response)

/-- Drop the request of a tag, and let a millisecond pass. It takes the run its turn to notice, so
what is due happens before. -/
def hangUp (r : Rehearsal) (tag : String) : Rehearsal :=
  let r := match r.tickets.lookup tag with
    | some (.waiting id) => r.catchUp.dropCaller id
    | _ => r
  (r.dropTag tag).sleep 1

end Rehearsal

end ChainWatch
