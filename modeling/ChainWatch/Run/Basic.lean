import ChainWatch.Node.List
import ChainWatch.Watch.Assessment
import ChainWatch.Watch.Table

/-!
# Runs

A `Run` submits a number of transactions, its target, to a list of nodes and settles on one
verdict. It hears four things: that a transaction was submitted (`Run.submit`), what a node says
about its chain (`Run.hear`), what a node says about a transaction (`Run.observe`), and that it is
time to judge the watches (`Run.evaluate`).

Every submitted transaction is in flight until it is final on every node; then it is retired and
counted. An answer that changes a watch is looked at as it arrives: a fork fails the run, a final
watch is retired. Judging goes through the watches in the order of their ids, and the first that
fails decides. The run succeeds when everything was submitted and nothing is in flight.

A settled run has a report and nothing in flight, and hears nothing more. The report tells the
counters as they were when the run settled, and on a failure the state of the transaction that
decided it.
-/

namespace ChainWatch

/-- The counters of a run. -/
structure Progress where
  /-- How many transactions are to be submitted. -/
  target : UInt32
  /-- How many were submitted. -/
  submitted : UInt32
  /-- How many of these are final on every node. -/
  finalized : UInt32
  /-- How many are being watched. -/
  inFlight : Nat
deriving DecidableEq, Repr

/-- The counters in words. -/
def Progress.text (p : Progress) : String :=
  s!"submitted {p.submitted}/{p.target}, finalized {p.finalized}, in flight {p.inFlight}"

/-- How a run ended. -/
structure RunReport where
  verdict : Verdict
  /-- The transaction that decided a failure. -/
  diagnosis : Option Diagnosis
  progress : Progress
deriving DecidableEq

/-- The state of a run. -/
structure Run where
  nodes : NodeList
  watches : WatchTable
  deadlines : Deadlines
  target : UInt32
  submitted : UInt32 := 0
  finalized : UInt32 := 0
  report : Option RunReport := none
deriving DecidableEq

namespace Run

/-- A run that is to submit `target` transactions. -/
def start (nodes : NodeList) (target : UInt32) (deadlines : Deadlines) : Run where
  nodes := nodes
  watches := { nodeCount := nodes.size }
  deadlines := deadlines
  target := target

/-- Has the run settled? -/
def isSettled (r : Run) : Bool := r.report.isSome

/-- Is there anything left to submit? -/
def wantsSubmission (r : Run) : Bool := !r.isSettled && r.submitted < r.target

/-- The counters. -/
def progress (r : Run) : Progress where
  target := r.target
  submitted := r.submitted
  finalized := r.finalized
  inFlight := r.watches.size

/-! ### Settling -/

/-- The state of a watch on every node. -/
def diagnose (r : Run) (w : Watch) (now : Moment) : Diagnosis where
  correlationId := w.id
  ageSecs := w.ageSecs now
  nodes := r.nodes.nodes.zipIdx.map fun (n, node) =>
    let s := w.sighting node
    { url := n.url
      status := s.status
      everLocated := s.everLocated
      accepted := s.accepted
      irreversible := n.irreversible }

/-- Settle on a verdict, unless the run has settled. -/
def settle (r : Run) (verdict : Verdict) (diagnosis : Option Diagnosis) : Run × Option Verdict :=
  if r.isSettled then (r, none)
  else
    ({ r with
        report := some { verdict := verdict, diagnosis := diagnosis, progress := r.progress }
        watches := r.watches.clear }, some verdict)

/-- Fail because of a watch. -/
def fail (r : Run) (verdict : Verdict) (w : Watch) (now : Moment) : Run × Option Verdict :=
  r.settle verdict (some (r.diagnose w now))

/-- Count a watch as final and drop it. -/
def retire (r : Run) (id : CorrelationId) : Run :=
  match r.watches.remove id with
  | (watches, some _) => { r with watches := watches, finalized := r.finalized + 1 }
  | (_, none) => r

/-- Succeed if everything was submitted and nothing is in flight. -/
def settleIfComplete (r : Run) : Run × Option Verdict :=
  if r.submitted < r.target || !r.watches.isEmpty then (r, none)
  else r.settle .success none

/-! ### What a run hears -/

/-- A transaction is submitted now. The run refuses it if it wants none or watches its id. -/
def submit (r : Run) (id : CorrelationId) (now : Moment) : Run × Bool :=
  if r.wantsSubmission then
    match r.watches.add id now with
    | (watches, true) => ({ r with watches := watches, submitted := r.submitted + 1 }, true)
    | (_, false) => (r, false)
  else (r, false)

/-- A node tells about its chain. -/
def hear (r : Run) (node : Nat) (info : ChainInfo) : Run :=
  if r.isSettled then r else { r with nodes := r.nodes.hear node info }

/-- Look at a watch that has changed. -/
def review (r : Run) (w : Watch) (now : Moment) : Run × Option Verdict :=
  if w.fork?.isSome then r.fail .forked w now
  else if w.isFinalized then (r.retire w.id).settleIfComplete
  else (r, none)

/-- A node answers about a transaction. The verdict is given if this settles the run. -/
def observe (r : Run) (id : CorrelationId) (node : Nat) (a : Answer) (now : Moment) :
    Run × Option Verdict :=
  if r.isSettled then (r, none)
  else
    match r.watches.observe id node a (r.nodes.frontier node) with
    | (watches, some true) =>
      let r := { r with watches := watches }
      match watches.get? id with
      | some w => r.review w now
      | none => (r, none)
    | _ => (r, none)

/-- Judge the watches of some ids in turn, and then whether the run is complete. -/
def judge (now : Moment) : List CorrelationId → Run → Run × Option Verdict
  | [], r => r.settleIfComplete
  | id :: ids, r =>
    match r.watches.get? id with
    | none => judge now ids r
    | some w =>
      match r.deadlines.assess w now with
      | .finalized => judge now ids (r.retire id)
      | .waiting => judge now ids r
      | .failed verdict => r.fail verdict w now

/-- Judge all watches. The verdict is given if this settles the run. -/
def evaluate (r : Run) (now : Moment) : Run × Option Verdict :=
  if r.isSettled then (r, none) else judge now r.watches.ids r

end Run

end ChainWatch
