import ChainWatch.Watch.Basic

/-!
# Assessing a watch

While faults are injected, nodes are slow and answers are lost. A state that could still turn out
well is therefore judged only once a watch is older than the soft deadline: then a transaction that
no node ever located was never packed, and one that was located and that every node now rejects is
rolled back. A fork is judged as soon as it shows, at any age and before anything else, and a watch
older than the hard deadline is given up. `Deadlines.assess` is that order of rules.

A fork is found by comparing every located block with the first one (`Watch.fork?`): two located
blocks that differ cannot both equal the first.
-/

namespace ChainWatch

namespace Watch

/-- The nodes that hold the transaction, each with the id of the block, in their own order. -/
def locations (w : Watch) : List (Nat × BlockId) :=
  w.statuses.zipIdx.filterMap fun (status, node) => status.block?.map fun b => (node, b.id)

/-- The first node that holds the transaction and the first that holds it in another block. -/
def fork? (w : Watch) : Option (Nat × Nat) :=
  match w.locations with
  | [] => none
  | (first, id) :: others => (others.find? fun l => l.2 ≠ id).map fun l => (first, l.1)

/-- Was the transaction located once, and does every node reject it now? -/
def isRolledBack (w : Watch) : Bool :=
  w.anyEverLocated && w.statuses.all Status.isRejected

/-- Has no node ever located the transaction? -/
def isNotPacked (w : Watch) : Bool :=
  !w.anyEverLocated && w.statuses.all fun s => !s.isLocated

end Watch

/-- The ages at which a watch is judged. -/
structure Deadlines where
  /-- Past this age, a state that could still turn out well is judged. -/
  soft : Span := Span.secs 20
  /-- Past this age, the watch is given up. -/
  hard : Span := Span.secs 200
deriving DecidableEq, Repr

/-- What a watch amounts to. -/
inductive Assessment where
  /-- It is accepted on every node. -/
  | finalized
  /-- Nothing can be said yet. -/
  | waiting
  /-- The run fails with this verdict. -/
  | failed (verdict : Verdict)
deriving DecidableEq, Repr

/-- What a watch amounts to at a moment. -/
def Deadlines.assess (d : Deadlines) (w : Watch) (now : Moment) : Assessment :=
  if w.fork?.isSome then .failed .forked
  else if w.isFinalized then .finalized
  else if d.hard < w.age now then .failed .timedOut
  else if d.soft < w.age now then
    if w.isRolledBack then .failed .rolledBack
    else if w.isNotPacked then .failed .neverPacked
    else .waiting
  else .waiting

end ChainWatch
