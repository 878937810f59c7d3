import ChainWatch.Verdict
import ChainWatch.Wire.Chain

/-!
# Verdicts and diagnoses as JSON

A verdict is a word. A status is a tagged value with the tag `state`; it is the one tagged value
that stands inside others, so its reader is told how many levels of nesting are left where it
stands. A diagnosis holds a list of node reports, each of which holds a status: three levels further
in.
-/

namespace ChainWatch

open Json (Tree required optional defaulted optionalMember maxDepth)

namespace Verdict

/-- A verdict as a JSON string. -/
def toJson (v : Verdict) : Tree := .text v.word

/-- Read a verdict. -/
def ofJson? (t : Tree) : Option Verdict := do
  ofWord? (← t.word?)

end Verdict

namespace Status

/-- The tag of a status. -/
def tag : String := "state"

/-- A status as a JSON object. -/
def toJson : Status → Tree
  | .unknown => .record [(tag, .text "unknown")]
  | .rejected => .record [(tag, .text "rejected")]
  | .located b =>
    .record [(tag, .text "located"), ("block_num", .word b.number), ("block_id", b.id.toJson)]

/-- Read the fields of a variant. -/
def ofVariant? (variant : String) (t : Tree) : Option Status :=
  if variant = "unknown" then if t.isBare then some .unknown else none
  else if variant = "rejected" then if t.isBare then some .rejected else none
  else if variant = "located" then do
    match ← t.fields? ["block_num", "block_id"] with
    | [number, block] =>
      return .located ⟨← required Tree.uint64? number, ← required BlockId.ofJson? block⟩
    | _ => none
  else none

/-- Read a status where so many levels of nesting are left. -/
def ofJson? (levels : Nat) (t : Tree) : Option Status := do
  let (variant, fields) ← t.tagged? tag levels
  ofVariant? variant fields

end Status

namespace NodeReport

/-- A node's part of a diagnosis as a JSON object. -/
def toJson (r : NodeReport) : Tree :=
  .record [("url", .text r.url), ("status", r.status.toJson), ("ever_located", .bool r.everLocated),
    ("accepted", .bool r.accepted), ("irreversible_block_num", .word r.irreversible)]

/-- Read a node's part of a diagnosis. -/
def ofJson? (levels : Nat) (t : Tree) : Option NodeReport := do
  match ← t.fields? ["url", "status", "ever_located", "accepted", "irreversible_block_num"] with
  | [url, status, everLocated, accepted, irreversible] =>
    return ⟨← required Tree.string? url, ← required (Status.ofJson? (levels - 1)) status,
      ← required Tree.bool? everLocated, ← required Tree.bool? accepted,
      ← required Tree.uint64? irreversible⟩
  | _ => none

end NodeReport

namespace Diagnosis

/-- A diagnosis as a JSON object. -/
def toJson (d : Diagnosis) : Tree :=
  .record [("correlation_id", d.correlationId.toJson), ("age_secs", .word d.ageSecs),
    ("nodes", .array (d.nodes.map NodeReport.toJson))]

/-- Read a diagnosis. -/
def ofJson? (levels : Nat) (t : Tree) : Option Diagnosis := do
  match ← t.fields? ["correlation_id", "age_secs", "nodes"] with
  | [id, age, nodes] =>
    return ⟨← required CorrelationId.ofJson? id, ← required Tree.uint64? age,
      ← required (Tree.list? (NodeReport.ofJson? (levels - 2))) nodes⟩
  | _ => none

end Diagnosis

end ChainWatch
