import ChainWatch.Verdict
import ChainWatch.Watch.Basic

/-!
# Asking a node

A node is asked two things: what it says about its chain, and whether it knows a transaction. That a
node does not know a transaction is an answer (`Resolution.notFound`). A node that cannot be reached
or understood gives none; why not is a `NodeFault`, and nothing is learned from it.
-/

namespace ChainWatch

/-- Why a node gave no answer. -/
inductive NodeFault where
  /-- The node could not be reached. -/
  | connectionFailed (reason : String)
  /-- The node took too long. -/
  | timedOut
  /-- The node answered with a status that says it failed. -/
  | status (code : UInt16) (body : String)
  /-- The answer could not be understood. -/
  | undecodable (reason : String)
  /-- The question could not be sent, for any other reason. -/
  | http (reason : String)
deriving DecidableEq, Repr

/-- The wording of a fault. -/
def NodeFault.message : NodeFault → String
  | .connectionFailed reason => "connection failed: " ++ reason
  | .timedOut => "request timed out"
  | .status code body => s!"unexpected status {code}: {body}"
  | .undecodable reason => "decode failed: " ++ reason
  | .http reason => "http error: " ++ reason

/-- A node's answer about a transaction. -/
inductive Resolution where
  | located (location : TransactionLocation)
  /-- The node does not know the transaction, in its words. -/
  | notFound (words : String)
deriving DecidableEq, Repr

/-- What an answer means for a watch. -/
def Resolution.answer : Resolution → Answer
  | .located l => .located l.block
  | .notFound _ => .rejected

end ChainWatch
