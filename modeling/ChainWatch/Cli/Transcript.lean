/-!
# What a command prints

A command prints lines, and then it has succeeded or not. A failure is a message and the causes
behind it, the nearest first. It is printed as the message, an empty line, and the causes, each
indented; several causes are numbered.
-/

namespace ChainWatch.Cli

/-- Why a command failed. -/
structure Failure where
  message : String
  /-- What lies behind it, the nearest first. -/
  causes : List String := []
deriving DecidableEq, Repr

namespace Failure

/-- Put one start before the first line of a text and another before every line after it. -/
def indent (first later : String) (text : String) : List String :=
  match text.splitOn "\n" with
  | [] => [first]
  | line :: lines => (first ++ line) :: lines.map (later ++ ·)

/-- The start of the line of a numbered cause. -/
def numbered (n : Nat) : String :=
  let digits := toString n
  String.ofList (List.replicate (5 - digits.length) ' ') ++ digits ++ ": "

/-- The lines of the causes. -/
def causeLines : List String → List String
  | [] => []
  | [cause] => indent "    " "    " cause
  | causes => causes.zipIdx.flatMap fun (cause, n) => indent (numbered n) "       " cause

/-- The lines that are printed for a failure. -/
def lines (f : Failure) : List String :=
  ("Error: " ++ f.message).splitOn "\n"
    ++ if f.causes.isEmpty then [] else "" :: "Caused by:" :: causeLines f.causes

end Failure

/-- What a command prints, and whether it failed. -/
structure Transcript where
  output : List String := []
  failure : Option Failure := none
deriving DecidableEq, Repr

namespace Transcript

/-- The status with which the program ends. -/
def exitStatus (t : Transcript) : UInt8 := if t.failure.isSome then 1 else 0

/-- A command that printed nothing and failed. -/
def fail (message : String) (causes : List String := []) : Transcript where
  failure := some { message := message, causes := causes }

end Transcript

end ChainWatch.Cli
