import ChainWatch.Http.Message
import ChainWatch.Submission
import ChainWatch.Wire.Chain

/-!
# Submitting over HTTP

A submission is one request that carries the correlation id, and the users and the debug value of
the run if it has them. Any status but a success is a refusal.
-/

namespace ChainWatch

open Json (Tree FreeForm optionalMember)

/-- A submission as a JSON object. -/
def Submission.toJson (s : Submission) : Tree :=
  .record <|
    [("link_id", s.id.toJson)]
      ++ optionalMember "users" Tree.text s.users
      ++ optionalMember "debug" FreeForm.toTree s.debug

namespace Http

/-- What a fault of the transport means for a submission. -/
def TransportFault.submitFault (f : TransportFault) : SubmitFault :=
  match f with
  | .unreachable _ => .connectionFailed f.message
  | _ => .http f.message

/-- Submit one transaction. -/
def submit (s : Submission) : Conversation (Except SubmitFault Unit) :=
  .ask (.post s.url s.toJson) fun
    | .error fault => .done (.error fault.submitFault)
    | .ok r => .done (if r.isSuccess then .ok () else .error (.refused r.status r.text))

end Http

end ChainWatch
