import ChainWatch.Node.Query
import ChainWatch.Run.Basic
import ChainWatch.Run.Schedule
import ChainWatch.Submission

/-!
# The loop of a run

A `Loop` drives a run. It reacts to events: a period is over, or a request that it sent has come to
an end (`LoopEvent`). Reacting changes the run and may send requests, which `Loop.step` gives; how
they are sent and when they end is not the loop's business, and they may end in any order.

The loop keeps what it has sent and not heard of (`outstanding`), and marks what it must not ask a
second time while it waits: a node about its chain (`refreshing`), a node about a transaction
(`polling`). So the answers of a node about one transaction arrive in the order of the questions. A
request that fails only loses its mark: nothing is learned from it, and the next period asks again.

A transaction is registered with the run before its submission is sent, so no answer ever concerns a
transaction that the run has not heard of. Once the run has settled, the loop is over: it forgets
what is outstanding and reacts to nothing.
-/

namespace ChainWatch

/-- What a loop asks of the outside. -/
inductive LoopRequest where
  /-- Ask a node about its chain. -/
  | chainInfo (node : Nat) (url : String)
  /-- Ask a node about a transaction. -/
  | resolve (id : CorrelationId) (node : Nat) (url : String)
  /-- Submit a transaction. -/
  | submit (submission : Submission)

/-- How a request ended. -/
inductive Completion where
  | chainInfo (node : Nat) (result : Except NodeFault ChainInfo)
  | resolve (id : CorrelationId) (node : Nat) (result : Except NodeFault Resolution)
  | submit (id : CorrelationId) (result : Except SubmitFault Unit)

namespace Completion

/-- Is it the end of this request? -/
def ends : Completion → LoopRequest → Bool
  | .chainInfo node _, .chainInfo node' _ => node = node'
  | .resolve id node _, .resolve id' node' _ => id = id' ∧ node = node'
  | .submit id _, .submit s => id = s.id
  | _, _ => false

end Completion

/-- What a loop reacts to. -/
inductive LoopEvent where
  /-- It is time to ask the nodes about their chains. -/
  | refreshDue
  /-- It is time to submit, under this id. -/
  | submitDue (id : CorrelationId)
  /-- It is time to ask about the transactions. -/
  | pollDue
  /-- It is time to judge the watches. -/
  | checkDue
  /-- A request has come to an end. -/
  | completed (completion : Completion)

/-- The state of a loop. -/
structure Loop where
  run : Run
  params : RunParams
  /-- What was sent and not heard of, in the order of sending. -/
  outstanding : List LoopRequest := []
  /-- The nodes that are being asked about their chains. -/
  refreshing : List Nat := []
  /-- The transactions and nodes that are being asked about each other. -/
  polling : List (CorrelationId × Nat) := []

namespace Loop

/-- The loop of a new run. -/
def start (deadlines : Deadlines) (params : RunParams) : Loop where
  run := .start params.nodes params.amount deadlines
  params := params

/-- How the run ended, if it did. -/
def report? (l : Loop) : Option RunReport := l.run.report

/-- Is the loop over? -/
def isOver (l : Loop) : Bool := l.run.isSettled

/-! ### Sending -/

/-- The positions and urls of the nodes. -/
def targets (l : Loop) : List (String × Nat) := l.run.nodes.urls.zipIdx

/-- Send requests. -/
def send (l : Loop) (requests : List LoopRequest) : Loop × List LoopRequest :=
  ({ l with outstanding := l.outstanding ++ requests }, requests)

/-- Ask every node about its chain that is not being asked. -/
def refreshNodes (l : Loop) : Loop × List LoopRequest :=
  let targets := l.targets.filter fun (_, node) => !l.refreshing.contains node
  let l := { l with refreshing := l.refreshing ++ targets.map Prod.snd }
  l.send <| targets.map fun (url, node) => .chainInfo node url

/-- The submission of an id. -/
def submission (l : Loop) (id : CorrelationId) : Submission where
  id := id
  url := l.params.submitUrl
  users := l.params.users
  debug := l.params.debug

/-- Register a transaction and submit it, if the run takes it. -/
def submitNext (l : Loop) (id : CorrelationId) (now : Moment) : Loop × List LoopRequest :=
  match l.run.submit id now with
  | (run, true) => { l with run := run }.send [.submit (l.submission id)]
  | (_, false) => (l, [])

/-- The transactions in flight, each with every node that is not being asked about it. -/
def pollTargets (l : Loop) : List (CorrelationId × String × Nat) :=
  l.run.watches.ids.flatMap fun id =>
    (l.targets.filter fun (_, node) => !l.polling.contains (id, node)).map
      fun target => (id, target)

/-- Ask about every transaction in flight every node that is not being asked about it. -/
def pollWatches (l : Loop) : Loop × List LoopRequest :=
  let targets := l.pollTargets
  let marks := targets.map fun (id, _, node) => (id, node)
  let l := { l with polling := l.polling ++ marks }
  l.send <| targets.map fun (id, url, node) => .resolve id node url

/-! ### Hearing -/

/-- Judge the watches. -/
def check (l : Loop) (now : Moment) : Loop :=
  { l with run := (l.run.evaluate now).1 }

/-- Forget a request that has come to an end, and its mark. -/
def forget (l : Loop) (c : Completion) : Loop :=
  let l := { l with outstanding := l.outstanding.eraseP c.ends }
  match c with
  | .chainInfo node _ => { l with refreshing := l.refreshing.erase node }
  | .resolve id node _ => { l with polling := l.polling.erase (id, node) }
  | .submit _ _ => l

/-- Tell the run what a request has brought. A fault brings nothing, and neither does the end of a
submission. -/
def learn (l : Loop) (c : Completion) (now : Moment) : Loop :=
  match c with
  | .chainInfo node (.ok info) => { l with run := l.run.hear node info }
  | .resolve id node (.ok resolution) =>
    { l with run := (l.run.observe id node resolution.answer now).1 }
  | _ => l

/-- Take note of the end of a request; that of a request which is not outstanding means nothing. -/
def complete (l : Loop) (c : Completion) (now : Moment) : Loop :=
  if l.outstanding.any c.ends then (l.forget c).learn c now else l

/-! ### Reacting -/

/-- Forget what is outstanding if the run has settled. -/
def close (l : Loop) : Loop :=
  if l.isOver then { l with outstanding := [], refreshing := [], polling := [] } else l

/-- What an event leads to while the loop is not over. -/
def react (l : Loop) (event : LoopEvent) (now : Moment) : Loop × List LoopRequest :=
  match event with
  | .refreshDue => l.refreshNodes
  | .submitDue id => if l.run.wantsSubmission then l.submitNext id now else (l, [])
  | .pollDue => l.pollWatches
  | .checkDue => (l.check now, [])
  | .completed c => (l.complete c now, [])

/-- React to an event: the loop after it, and the requests to send. -/
def step (l : Loop) (event : LoopEvent) (now : Moment) : Loop × List LoopRequest :=
  if l.isOver then (l, [])
  else
    let (l, requests) := l.react event now
    (l.close, requests)

end Loop

end ChainWatch
