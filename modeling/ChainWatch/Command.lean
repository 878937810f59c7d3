import ChainWatch.Verdict
import ChainWatch.Json.Value

/-!
# Commands and replies

Whoever controls the watcher sends a `Command` and gets a `Reply`. A reply is an acknowledgement, a
verdict or an error. The words of a verdict's reply are those of the verdict; a diagnosis comes with
it unless the verdict is success.
-/

namespace ChainWatch

/-- What a run is asked to do. -/
structure RunRequest where
  /-- Seconds between two submissions. -/
  freq : Binary64
  /-- How many transactions to submit. -/
  amount : UInt32
  /-- Where to submit them, if not at the configured place. -/
  url : Option String
  /-- Passed on with each submission. -/
  users : Option String
  /-- Passed on with each submission. -/
  debug : Option Json.FreeForm

/-- A control command. -/
inductive Command where
  /-- Watch these nodes. -/
  | watches (nodes : List String)
  /-- Submit transactions and wait for the verdict. -/
  | run (request : RunRequest)
  /-- Cancel the run. -/
  | stop

/-- The name of a command. -/
def Command.name : Command → String
  | .watches _ => "watches"
  | .run _ => "run"
  | .stop => "stop"

/-- What a reply is. -/
inductive ReplyKind where
  | ack
  | verdict
  | error
deriving DecidableEq, Repr

namespace ReplyKind

/-- The word of a kind of reply in data. -/
def word : ReplyKind → String
  | .ack => "ack"
  | .verdict => "verdict"
  | .error => "error"

/-- The kind of reply of a word. -/
def ofWord? (w : String) : Option ReplyKind :=
  [ack, verdict, error].find? fun k => k.word == w

end ReplyKind

/-- The answer to a command. -/
structure Reply where
  kind : ReplyKind
  message : String
  diagnosis : Option Diagnosis
deriving DecidableEq

namespace Reply

/-- Acknowledge a command. -/
def ack (message : String) : Reply := ⟨.ack, message, none⟩

/-- Refuse a command. -/
def error (message : String) : Reply := ⟨.error, message, none⟩

/-- Tell how a run ended. -/
def verdict (v : Verdict) (diagnosis : Option Diagnosis) : Reply := ⟨.verdict, v.message, diagnosis⟩

/-- Does the reply refuse the command? -/
def isError (r : Reply) : Bool := r.kind == .error

/-- The words for a request that is no command. -/
def noSuchFunction : String := "No Such Function"

end Reply

end ChainWatch
