import ChainWatch.Command
import ChainWatch.Json.Printer
import ChainWatch.Json.Reader
import ChainWatch.Wire.Report

/-!
# Commands and replies as JSON text

A command is a tagged value with the tag `func`. A field without a value is left out, and a field
that is `null` has no value. A frequency that is not finite is written as `null`, which does not
read back.

`Command.parse?` and `Command.write`, and the same for replies, go all the way between values and
texts.
-/

namespace ChainWatch

open Json (Tree FreeForm required optional optionalMember maxDepth)

namespace RunRequest

/-- A frequency as a JSON number, if it is finite. -/
def freqToJson (freq : Binary64) : Tree :=
  match Json.Number.ofBinary64? freq with
  | some n => .number (some n)
  | none => .null

/-- The members of a run request. -/
def members (r : RunRequest) : List (String × Tree) :=
  [("freq", freqToJson r.freq), ("amount", .number (some (Json.Number.ofUInt32 r.amount)))]
    ++ optionalMember "url" Tree.text r.url
    ++ optionalMember "users" Tree.text r.users
    ++ optionalMember "debug" FreeForm.toTree r.debug

/-- Read the fields of a run request. -/
def ofJson? (t : Tree) : Option RunRequest := do
  match ← t.fields? ["freq", "amount", "url", "users", "debug"] with
  | [freq, amount, url, users, debug] =>
    return ⟨← required Tree.binary64? freq, ← required Tree.uint32? amount,
      ← optional Tree.string? url, ← optional Tree.string? users,
      ← optional FreeForm.ofTree? debug⟩
  | _ => none

end RunRequest

namespace Command

/-- The tag of a command. -/
def tag : String := "func"

/-- A command as a JSON object. -/
def toJson (c : Command) : Tree :=
  .record <| (tag, .text c.name) ::
    match c with
    | .watches nodes => [("nodes", .array (nodes.map Tree.text))]
    | .run request => request.members
    | .stop => []

/-- Read the fields of a variant. -/
def ofVariant? (variant : String) (t : Tree) : Option Command :=
  if variant = "watches" then do
    match ← t.fields? ["nodes"] with
    | [nodes] => return .watches (← required (Tree.list? Tree.string?) nodes)
    | _ => none
  else if variant = "run" then (RunRequest.ofJson? t).map .run
  else if variant = "stop" then if t.isBare then some .stop else none
  else none

/-- Read a command. -/
def ofJson? (t : Tree) : Option Command := do
  let (variant, fields) ← t.tagged? tag maxDepth
  ofVariant? variant fields

/-- The text of a command. -/
def write (c : Command) : String := c.toJson.write

/-- Read a text as a command. -/
def parse? (s : String) : Option Command := do
  ofJson? (← Tree.read? s)

end Command

namespace ReplyKind

/-- A kind of reply as a JSON string. -/
def toJson (k : ReplyKind) : Tree := .text k.word

/-- Read a kind of reply. -/
def ofJson? (t : Tree) : Option ReplyKind := do
  ofWord? (← t.word?)

end ReplyKind

namespace Reply

/-- A reply as a JSON object. -/
def toJson (r : Reply) : Tree :=
  .record <|
    [("kind", r.kind.toJson), ("message", .text r.message)]
      ++ optionalMember "diagnosis" Diagnosis.toJson r.diagnosis

/-- Read a reply. -/
def ofJson? (t : Tree) : Option Reply := do
  match ← t.fields? ["kind", "message", "diagnosis"] with
  | [kind, message, diagnosis] =>
    return ⟨← required ReplyKind.ofJson? kind, ← required Tree.string? message,
      ← optional (Diagnosis.ofJson? (maxDepth - 1)) diagnosis⟩
  | _ => none

/-- The text of a reply. -/
def write (r : Reply) : String := r.toJson.write

/-- Read a text as a reply. -/
def parse? (s : String) : Option Reply := do
  ofJson? (← Tree.read? s)

end Reply

end ChainWatch
