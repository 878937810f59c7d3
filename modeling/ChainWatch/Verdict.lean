import ChainWatch.Chain

/-!
# Verdicts and diagnoses

A run ends with one `Verdict`. Unless it is success, it comes with a `Diagnosis` of the transaction
that decided it: for every node, what the node last said about the transaction (`Status`), whether
it ever located it, whether it counts as final there, and how far the node's chain was final.
-/

namespace ChainWatch

/-- How a run ended. -/
inductive Verdict where
  /-- Every transaction became final on every node. -/
  | success
  /-- A transaction was never seen in a block. -/
  | neverPacked
  /-- A transaction was seen in a block and is gone from every node. -/
  | rolledBack
  /-- Two nodes hold a transaction in different blocks. -/
  | forked
  /-- A transaction was undecided for too long. -/
  | timedOut
deriving DecidableEq, Repr

namespace Verdict

/-- The wording of a verdict for its reader. -/
def message : Verdict → String
  | .success => "Success"
  | .neverPacked => "not packed"
  | .rolledBack => "rolled"
  | .forked => "forked"
  | .timedOut => "wait too long, maybe block can not be checked"

/-- The word of a verdict in data. -/
def word : Verdict → String
  | .success => "success"
  | .neverPacked => "never_packed"
  | .rolledBack => "rolled_back"
  | .forked => "forked"
  | .timedOut => "timed_out"

/-- All verdicts. -/
def all : List Verdict :=
  [.success, .neverPacked, .rolledBack, .forked, .timedOut]

/-- The verdict of a word. -/
def ofWord? (w : String) : Option Verdict :=
  all.find? fun v => v.word == w

/-- Is the verdict success? -/
def isSuccess (v : Verdict) : Bool :=
  v == .success

end Verdict

/-- What a node last said about a transaction. -/
inductive Status where
  /-- Nothing yet. -/
  | unknown
  /-- It does not know it. -/
  | rejected
  /-- It holds it in this block. -/
  | located (block : BlockRef)
deriving DecidableEq, Repr

namespace Status

/-- The block, if there is one. -/
def block? : Status → Option BlockRef
  | .located b => some b
  | _ => none

/-- Did the node last say that it does not know the transaction? -/
def isRejected : Status → Bool
  | .rejected => true
  | _ => false

/-- Does the node hold the transaction in a block? -/
def isLocated (s : Status) : Bool :=
  s.block?.isSome

end Status

/-- One node's part of a diagnosis. -/
structure NodeReport where
  url : String
  status : Status
  everLocated : Bool
  accepted : Bool
  irreversible : UInt64
deriving DecidableEq, Repr

/-- The state of one transaction on every node when a run failed. -/
structure Diagnosis where
  correlationId : CorrelationId
  ageSecs : UInt64
  nodes : List NodeReport
deriving DecidableEq

end ChainWatch
