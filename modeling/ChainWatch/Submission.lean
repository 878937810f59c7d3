import ChainWatch.CorrelationId
import ChainWatch.Json.Value

/-!
# Submitting transactions

The program builds and signs no transaction. It hands a correlation id to a service, which puts the
id into a transaction and sends that to the cluster. The users and the debug value of a run are
passed on unseen. Whether a submission succeeds has no bearing on the run: the nodes tell.
-/

namespace ChainWatch

/-- One transaction to submit. -/
structure Submission where
  id : CorrelationId
  /-- The address of the service. -/
  url : String
  users : Option String
  debug : Option Json.FreeForm

/-- Why a submission failed. -/
inductive SubmitFault where
  /-- The service could not be reached. -/
  | connectionFailed (reason : String)
  /-- The service answered with a status that says it failed. -/
  | refused (code : UInt16) (body : String)
  /-- The request could not be sent, for any other reason. -/
  | http (reason : String)
deriving DecidableEq, Repr

/-- The wording of a fault. -/
def SubmitFault.message : SubmitFault → String
  | .connectionFailed reason => "connection failed: " ++ reason
  | .refused code body => s!"submission rejected with status {code}: {body}"
  | .http reason => "http error: " ++ reason

end ChainWatch
