import ChainWatch.Node.Query
import ChainWatch.Submission

/-!
# Why the service cannot go on

A service that talks to real nodes can fail in its questions, in its submissions, or at the machine
that it runs on.
-/

namespace ChainWatch

/-- Why a service cannot go on. -/
inductive WatcherFault where
  | node (fault : NodeFault)
  | submission (fault : SubmitFault)
  /-- The machine refuses something. -/
  | machine (reason : String)
deriving DecidableEq, Repr

/-- The wording of a fault. -/
def WatcherFault.message : WatcherFault → String
  | .node fault => "node api error: " ++ fault.message
  | .submission fault => "submission error: " ++ fault.message
  | .machine reason => "I/O error: " ++ reason

end ChainWatch
