import ChainWatch.Cli.Invocation
import ChainWatch.Cli.Transcript
import ChainWatch.Config
import ChainWatch.Http.ControlClient
import ChainWatch.Http.NodeClient
import ChainWatch.Node.Heads

/-!
# Carrying out a command line

All commands but one are conversations over HTTP that end with a transcript (`Plan.talk`); the one
that runs the service is carried out by the program itself.

A command that is sent to a service succeeds if the reply is no refusal, and a run only if its
verdict is success. The heads of the nodes are measured by asking the nodes directly, and the
command succeeds if they lie closer together than the words ask for.
-/

namespace ChainWatch.Cli

open Http (Conversation ClientFault sendCommand)
open Json (FreeForm Tree)

/-- What is done for a command line. -/
inductive Plan where
  /-- Run the service. -/
  | serve (config : Option String) (bind : Option String)
  /-- Talk over HTTP. An answer may take so many milliseconds, if there is a limit. -/
  | talk (patience : Option UInt64) (conversation : Conversation Transcript)

/-! ### Commands to a service -/

/-- The lines that tell a reply. -/
def replyLines (r : Reply) : List String :=
  r.message.splitOn "\n" ++
    match r.diagnosis with
    | none => []
    | some d => d.toJson.writePretty.splitOn "\n"

/-- What is printed for a reply. -/
def replyTranscript (r : Reply) : Transcript where
  output := replyLines r
  failure :=
    if r.isError then some { message := "watcher rejected the command: " ++ r.message } else none

/-- What is printed for the reply to a run. -/
def runTranscript (r : Reply) : Transcript :=
  let t := replyTranscript r
  if t.failure.isNone && r.message != Verdict.success.message then
    { t with failure := some { message := "run failed: " ++ r.message } }
  else t

/-- Send a command and print what comes back. -/
def send (server name : String) (c : Command) (print : Reply → Transcript) :
    Conversation Transcript :=
  (sendCommand server c).bind fun
    | .ok reply => .done (print reply)
    | .error fault => .done (.fail (name ++ " request failed") [fault.message])

/-- The debug value that words give: JSON, or else the words as a string. There must be some. -/
def debugValue? (words : String) : Option FreeForm :=
  if trimBlank words = "" then none
  else some ((FreeForm.read? words).getD (.string words))

/-- The debug value of a run, if there is one. -/
def debugOf : Option String → Except Failure (Option FreeForm)
  | none => .ok none
  | some words =>
    match debugValue? words with
    | some value => .ok (some value)
    | none => .error { message := "Invalid --debug value", causes := ["empty value"] }

/-- Start a run. -/
def sendRun (server : String) (w : RunWords) : Conversation Transcript :=
  match debugOf w.debug with
  | .error failure => .done { failure := some failure }
  | .ok debug =>
    send server "run" (.run ⟨w.freq, w.amount, w.url, w.users, debug⟩) runTranscript

/-! ### The heads -/

/-- The line of a head: its number, in ten columns, and the url of the node. -/
def headLine (url : String) (head : UInt64) : String :=
  let digits := toString head
  String.ofList (List.replicate (10 - digits.length) ' ') ++ digits ++ "  " ++ url

/-- What is printed for measured heads. -/
def headsTranscript (h : HeadSpread) (maxSpread : UInt64) : Transcript where
  output := h.heads.map (fun (url, head) => headLine url head) ++ [s!"spread: {h.spread}"]
  failure :=
    if h.isWithin maxSpread then none
    else some { message := s!"head spread {h.spread} is not below {maxSpread}" }

/-- Measure the heads of nodes. -/
def measure (urls : List String) (maxSpread : UInt64) : Conversation Transcript :=
  match NodeList.ofUrls urls with
  | .error fault => .done (.fail "Invalid node list" [fault.message])
  | .ok nodes =>
    (nodes.measureHeads.runM Http.NodeClient.chainInfo).bind fun
      | .error fault => .done (.fail fault.message [fault.fault.message])
      | .ok h => .done (headsTranscript h maxSpread)

/-- What is done for a command line. -/
def Invocation.plan : Invocation → Plan
  | .serve config bind => .serve config bind
  | .watches server nodes => .talk none (send server "watches" (.watches nodes) replyTranscript)
  | .run server words => .talk none (sendRun server words)
  | .stop server => .talk none (send server "stop" .stop replyTranscript)
  | .heads nodes maxSpread timeoutMillis => .talk (some timeoutMillis) (measure nodes maxSpread)

/-! ### The service -/

/-- What is printed if the configuration cannot be loaded. -/
def configTranscript (path : String) (fault : ConfigFault) : Transcript :=
  .fail "Failed to load configuration" (fault.message path :: fault.cause?.toList)

/-- What is printed if the address of the service cannot be used. -/
def bindTranscript (address reason : String) : Transcript :=
  .fail ("Failed to bind " ++ address) [reason]

/-- The configuration with an address that the words give. -/
def withBind (c : Config) : Option String → Config
  | none => c
  | some address => { c with bindAddress := address }

end ChainWatch.Cli
