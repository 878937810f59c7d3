import ChainWatch.Cli.Plan
import ChainWatch.Cli.Usage
import ChainWatch.Machine.Listener
import ChainWatch.Service.Fault

/-!
# The program

The words of the command line are read, and what they ask for is carried out on the machine. The
program ends with status 0 if it succeeded, 1 if it failed, and 2 if the words are wrong.
-/

namespace ChainWatch

open Cli (Invocation Transcript)

/-- Print what a command prints; gives the status with which the program ends. -/
def conclude (t : Transcript) : IO UInt32 := do
  t.output.forM fun line => IO.println line
  if let some failure := t.failure then
    failure.lines.forM fun line => IO.eprintln line
  return t.exitStatus.toUInt32

/-- The configuration file that is read if the words name none and there is one. -/
def usualConfigFile : String := "watcher.toml"

/-- Why the machine does not read a file. -/
def fileFault : IO.Error → FileFault
  | .noFileOrDirectory _ number reason => .ofNumber number reason
  | .inappropriateType _ number reason => .ofNumber number reason
  | .invalidArgument _ number reason => .ofNumber number reason
  | .permissionDenied _ number reason => .ofNumber number reason
  | fault => .other (toString fault)

/-- The bytes of a file. -/
def readFile (file : String) : IO (Except FileFault (List UInt8)) := do
  match ← (IO.FS.readBinFile file).toBaseIO with
  | .ok bytes => return .ok bytes.toList
  | .error fault => return .error (fileFault fault)

/-- Load the configuration. -/
def loadConfig (path : Option String) : IO (Except Transcript Config) := do
  let file := path.getD usualConfigFile
  return (Config.load path.isSome (← readFile file)).mapError (Cli.configTranscript file)

/-- Run the service until it is told to stop. -/
def runService (c : Config) : IO Transcript := do
  match ListenAddress.read c.bindAddress with
  | .error fault => return Cli.bindTranscript c.bindAddress fault.message
  | .ok address =>
    match ← (Machine.listenAt address).toBaseIO with
    | .error fault => return Cli.bindTranscript c.bindAddress (toString fault)
    | .ok server =>
      match ← (Machine.serve c server).toBaseIO with
      | .ok () => return {}
      | .error fault =>
        let reason := toString fault
        return .fail "Control channel failed" [(WatcherFault.machine reason).message, reason]

/-- Carry out what the words ask for. -/
def Cli.Invocation.carryOut (i : Invocation) : IO UInt32 := do
  match i.plan with
  | .talk patience conversation => conclude (← (conversation.runM (Machine.send patience)).block)
  | .serve path bind =>
    match ← loadConfig path with
    | .error transcript => conclude transcript
    | .ok config => conclude (← runService (Cli.withBind config bind))

/-- Carry out a command line; gives the status with which the program ends. -/
def carryOutWords (words : List String) : IO UInt32 := do
  match Invocation.read words with
  | .ok invocation => invocation.carryOut
  | .error .help => Cli.usage.forM fun line => IO.println line; return 0
  | .error .version => IO.println Cli.versionLine; return 0
  | .error .wrong => Cli.usage.forM fun line => IO.eprintln line; return 2

end ChainWatch

/-- The program. -/
def main (words : List String) : IO UInt32 := ChainWatch.carryOutWords words
