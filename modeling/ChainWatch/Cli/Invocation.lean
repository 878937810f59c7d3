import ChainWatch.Cli.Options
import ChainWatch.Decimal.Typed

/-!
# The command line

The first word that is no option names one of five commands, and what follows it are the options of
that command (`Invocation.read`). Two options may stand before the command or among its own: which
service to talk to, and what to log; of two values the one after the command counts.
-/

namespace ChainWatch.Cli

/-- What a run on the command line is asked to do; the debug value is not yet looked at. -/
structure RunWords where
  freq : Binary64
  amount : UInt32
  url : Option String
  users : Option String
  debug : Option String

/-- What the command line asks for. -/
inductive Invocation where
  /-- Run the service. -/
  | serve (config : Option String) (bind : Option String)
  /-- Tell a service which nodes to watch. -/
  | watches (server : String) (nodes : List String)
  /-- Let a service start a run, and wait for its verdict. -/
  | run (server : String) (words : RunWords)
  /-- Let a service cancel its run. -/
  | stop (server : String)
  /-- Measure how far the heads of nodes lie apart. -/
  | heads (nodes : List String) (maxSpread : UInt64) (timeoutMillis : UInt64)

/-- The service that is talked to if the words do not say. -/
def defaultServer : String := "http://127.0.0.1:6666"

/-- How long a node may take to answer if the words do not say, in milliseconds. -/
def defaultTimeoutMillis : UInt64 := 5000

/-! ### Values -/

/-- A number of milliseconds or blocks. -/
def word64? (s : String) : Option UInt64 := do
  let n ← natOfTyped? s
  if n < UInt64.size then some (UInt64.ofNat n) else none

/-- A number of transactions. -/
def word32? (s : String) : Option UInt32 := do
  let i ← intOfTyped? s
  if 0 ≤ i ∧ i < UInt32.size then some (UInt32.ofNat i.toNat) else none

/-! ### Grammars -/

/-- The options that may stand anywhere. -/
def globalOptions : List OptionSpec :=
  [{ name := "server" }, { name := "log-level" }]

/-- The options of a command, which end where the command's own do. -/
def grammarOf? : String → Option Grammar
  | "serve" => some
    { options := globalOptions
        ++ [{ name := "config", short := some 'c', accepts := fun s => !s.isEmpty },
          { name := "bind" }] }
  | "watches" => some
    { options := globalOptions ++ [{ name := "nodes", many := true, required := true }] }
  | "run" => some
    { options := globalOptions
        ++ [{ name := "freq", required := true, accepts := fun s => (Binary64.ofTyped? s).isSome },
          { name := "amount", required := true, accepts := fun s => (word32? s).isSome },
          { name := "url" }, { name := "users" }, { name := "debug" }] }
  | "stop" => some { options := globalOptions }
  | "heads" => some
    { options := globalOptions
        ++ [{ name := "nodes", many := true, required := true },
          { name := "max-spread", required := true, accepts := fun s => (word64? s).isSome },
          { name := "timeout-ms", accepts := fun s => (word64? s).isSome }] }
  | _ => none

/-- The words before the command. -/
def rootGrammar : Grammar := { options := globalOptions, tellsVersion := true }

/-! ### Reading -/

/-- What a command and its options ask for. -/
def Invocation.ofGiven? (server : String) (command : String) (g : Given) : Option Invocation :=
  match command with
  | "serve" => some (.serve (g.last? "config") (g.last? "bind"))
  | "watches" => some (.watches server (g.all "nodes"))
  | "run" => do
    let freq ← (g.last? "freq").bind Binary64.ofTyped?
    let amount ← (g.last? "amount").bind word32?
    return .run server ⟨freq, amount, g.last? "url", g.last? "users", g.last? "debug"⟩
  | "stop" => some (.stop server)
  | "heads" => do
    let maxSpread ← (g.last? "max-spread").bind word64?
    let timeout := ((g.last? "timeout-ms").bind word64?).getD defaultTimeoutMillis
    return .heads (g.all "nodes") maxSpread timeout
  | _ => none

/-- The words after a request for help must name a command, or nothing. -/
def helpOn : List String → Stop
  | [] => .help
  | [command] => if command = "help" ∨ (grammarOf? command).isSome then .help else .wrong
  | _ => .wrong

/-- Read the words of a command line. -/
def Invocation.read (words : List String) : Except Stop Invocation := do
  let (before, rest) ← rootGrammar.scan {} words
  match rest with
  | [] => .error .wrong
  | command :: words =>
    if command = "help" then .error (helpOn words)
    else
      match grammarOf? command with
      | none => .error .wrong
      | some grammar =>
        let given ← grammar.read words
        let server := ((given.last? "server").or (before.last? "server")).getD defaultServer
        match ofGiven? server command given with
        | some invocation => .ok invocation
        | none => .error .wrong

end ChainWatch.Cli
