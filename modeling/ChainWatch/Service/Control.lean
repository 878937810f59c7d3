import ChainWatch.Decimal.Style
import ChainWatch.Run.Loop

/-!
# The service

A `Service` holds a list of nodes and at most one run that counts as its own (`active`). It handles
three commands: to watch other nodes, which cancels the run; to start a run; and to stop it. A
command that cannot be carried out changes nothing (`ControlFault`).

Every run that was started is a `Task` of its own, with a number that no other run has. A task is
driven until its run settles. Cancelling takes effect when the task would next be driven: until then
it is aborting, and still counts as running. A task whose run has settled cannot be cancelled, and a
cancelled one never delivers a report.

Whoever asked for a run waits for its task (`Caller`). A caller who hangs up cancels the task, and
one whose run has settled takes the report, at which the service forgets the run, unless it has
another one by then.
-/

namespace ChainWatch

/-- Why a command is refused. -/
inductive ControlFault where
  /-- There are no nodes to watch. -/
  | notConfigured
  /-- The list of nodes is none. -/
  | invalidNodes (fault : NodeListFault)
  /-- There is nothing to submit. -/
  | invalidAmount
  /-- The time between submissions is no positive number of seconds. -/
  | invalidFreq (freq : Binary64)
  /-- There is a run. -/
  | runInProgress
deriving DecidableEq, Repr

/-- The wording of a fault. -/
def ControlFault.message : ControlFault → String
  | .notConfigured => "no nodes configured, send watches first"
  | .invalidNodes fault => "invalid node list: " ++ fault.message
  | .invalidAmount => "amount must be positive"
  | .invalidFreq freq =>
    "freq must be a positive number of seconds, got " ++ String.ofList (freq.write plainStyle)
  | .runInProgress => "a run is already in progress"

/-- The number of a run. -/
abbrev RunId := Nat

/-- How far a task has come. -/
inductive Phase where
  /-- Its run is going on. -/
  | driving
  /-- It is cancelled as soon as it would be driven. -/
  | aborting
  /-- Its run has settled. -/
  | settled (report : RunReport)
  /-- It was cancelled. -/
  | cancelled

namespace Phase

/-- Is there nothing more to come? -/
def isFinished : Phase → Bool
  | .driving => false
  | .aborting => false
  | .settled _ => true
  | .cancelled => true

/-- Cancel a task that has not finished. -/
def abort : Phase → Phase
  | .driving => .aborting
  | phase => phase

end Phase

/-- Whoever asked for a run. -/
inductive Caller where
  | waiting
  | answered
  | hungUp
deriving DecidableEq, Repr

/-- A run that was started. -/
structure Task where
  id : RunId
  loop : Loop
  phase : Phase := .driving
  caller : Caller := .waiting

namespace Task

/-- Cancel the task. -/
def abort (t : Task) : Task := { t with phase := t.phase.abort }

/-- Let an event happen to the task. An aborting task is cancelled instead. -/
def drive (t : Task) (event : LoopEvent) (now : Moment) : Task × List LoopRequest :=
  match t.phase with
  | .driving =>
    let (loop, requests) := t.loop.step event now
    match loop.report? with
    | none => ({ t with loop := loop }, requests)
    | some report => ({ t with loop := loop, phase := .settled report }, requests)
  | .aborting => ({ t with phase := .cancelled }, [])
  | _ => (t, [])

/-- Give an aborting task its turn. -/
def yield (t : Task) : Task :=
  match t.phase with
  | .aborting => { t with phase := .cancelled }
  | _ => t

end Task

/-- The service. -/
structure Service where
  schedule : Schedule
  /-- Where to submit if a request does not say. -/
  defaultUrl : String
  nodes : Option NodeList := none
  /-- The run that counts as the service's own. -/
  active : Option RunId := none
  /-- All runs that were started. -/
  tasks : List Task := []
  /-- The number of the next run. -/
  nextRun : RunId := 0

namespace Service

/-- The task of a run. -/
def task? (s : Service) (id : RunId) : Option Task :=
  s.tasks.find? fun t => t.id = id

/-- Change the task of a run. -/
def modifyTask (s : Service) (id : RunId) (f : Task → Task) : Service :=
  { s with tasks := s.tasks.map fun t => if t.id = id then f t else t }

/-- Is a run going on that counts as the service's own? -/
def isRunning (s : Service) : Bool :=
  match s.active.bind s.task? with
  | some t => !t.phase.isFinished
  | none => false

/-- The number of nodes that are watched. -/
def nodeCount (s : Service) : Nat :=
  (s.nodes.map NodeList.size).getD 0

/-! ### Commands -/

/-- Cancel the run of the service, and tell whether one was going on. -/
def stop (s : Service) : Service × Bool :=
  match s.active with
  | none => (s, false)
  | some id => ({ s.modifyTask id Task.abort with active := none }, s.isRunning)

/-- Watch the nodes of these urls, and give their number. -/
def configure (s : Service) (urls : List String) : Except ControlFault (Service × Nat) :=
  match NodeList.ofUrls urls with
  | .error fault => .error (.invalidNodes fault)
  | .ok nodes => .ok ({ s.stop.1 with nodes := some nodes }, nodes.size)

/-- What a run that is asked for does, if it may be started. -/
def paramsOf (s : Service) (r : RunRequest) : Except ControlFault RunParams :=
  match s.nodes with
  | none => .error .notConfigured
  | some nodes =>
    if r.amount = 0 then .error .invalidAmount
    else
      match r.period? with
      | none => .error (.invalidFreq r.freq)
      | some period =>
        if s.isRunning then .error .runInProgress
        else
          .ok
            { nodes := nodes
              amount := r.amount
              period := period
              submitUrl := r.url.getD s.defaultUrl
              users := r.users
              debug := r.debug }

/-- Start a run, and give its number. Under a schedule without periods there is nothing that it
could do, and it is cancelled as soon as it would be driven. -/
def start (s : Service) (r : RunRequest) : Except ControlFault (Service × RunId) :=
  match s.paramsOf r with
  | .error fault => .error fault
  | .ok params =>
    let task : Task :=
      { id := s.nextRun
        loop := .start s.schedule.deadlines params
        phase := if s.schedule.hasPeriods then .driving else .aborting }
    .ok ({ s with active := some s.nextRun, tasks := s.tasks ++ [task], nextRun := s.nextRun + 1 },
      s.nextRun)

/-- Forget a run that has delivered its report, unless the service has another one. -/
def finish (s : Service) (id : RunId) : Service :=
  if s.active = some id then { s with active := none } else s

/-! ### What happens to runs -/

/-- Let an event happen to a run: the service after it, and the requests that the run sends. -/
def drive (s : Service) (id : RunId) (event : LoopEvent) (now : Moment) :
    Service × List LoopRequest :=
  match s.task? id with
  | none => (s, [])
  | some t =>
    let (t, requests) := t.drive event now
    (s.modifyTask id fun _ => t, requests)

/-- Give every aborting task its turn. -/
def yield (s : Service) : Service :=
  { s with tasks := s.tasks.map Task.yield }

/-- The caller of a run hangs up: a run that has not finished is cancelled. -/
def hangUp (s : Service) (id : RunId) : Service :=
  s.modifyTask id fun t =>
    if t.caller = .waiting then { t.abort with caller := .hungUp } else t

end Service

/-! ### Handling commands -/

/-- What becomes of a command. -/
inductive Outcome where
  | reply (reply : Reply)
  /-- The run was cancelled before it had a verdict. -/
  | cancelled
deriving DecidableEq

/-- What a command leads to at once. -/
inductive Handling where
  | answered (outcome : Outcome)
  /-- A run was started, and its caller waits. -/
  | waiting (run : RunId)

namespace Service

/-- The acknowledgement of a list of nodes. -/
def watchesAck : String := "watches config succeed"

/-- The acknowledgement of a stop. -/
def stopAck : String := "stopped"

/-- Refuse a command. -/
def refuse (s : Service) (fault : ControlFault) : Service × Handling :=
  (s, .answered (.reply (.error fault.message)))

/-- Handle a command. -/
def handle (s : Service) : Command → Service × Handling
  | .watches urls =>
    match s.configure urls with
    | .error fault => s.refuse fault
    | .ok (s, _) => (s, .answered (.reply (.ack watchesAck)))
  | .stop => (s.stop.1, .answered (.reply (.ack stopAck)))
  | .run request =>
    match s.start request with
    | .error fault => s.refuse fault
    | .ok (s, id) => (s, .waiting id)

/-- The caller of a run looks whether it has finished, and if so takes what came of it. -/
def resume (s : Service) (id : RunId) : Service × Option Outcome :=
  match s.task? id with
  | none => (s, none)
  | some t =>
    if t.caller = .waiting then
      match t.phase with
      | .settled report =>
        ((s.modifyTask id fun t => { t with caller := .answered }).finish id,
          some (.reply (.verdict report.verdict report.diagnosis)))
      | .cancelled => (s.modifyTask id fun t => { t with caller := .answered }, some .cancelled)
      | _ => (s, none)
    else (s, none)

end Service

end ChainWatch
