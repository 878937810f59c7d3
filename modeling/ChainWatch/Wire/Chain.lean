import ChainWatch.Chain
import ChainWatch.Json.Fields

/-!
# Chain data as JSON

The records in which nodes answer, as JSON objects. Nodes send many members besides those that
matter here, in any order; `Json.Tree.fields?` skips them. The number of a head that a node does not
report is zero, and the id of a block may be absent or `null`.
-/

namespace ChainWatch

open Json (Tree required optional defaulted optionalMember)

namespace CorrelationId

/-- An id as a JSON string. -/
def toJson (id : CorrelationId) : Tree := .text id.text

/-- Read an id from a JSON string. -/
def ofJson? (t : Tree) : Option CorrelationId := do
  let s ← t.string?
  (parse s).toOption

end CorrelationId

namespace BlockId

/-- The id of a block as a JSON string. -/
def toJson (b : BlockId) : Tree := .text b.text

/-- Read the id of a block from a JSON string. -/
def ofJson? (t : Tree) : Option BlockId :=
  t.string?.map BlockId.mk

end BlockId

namespace ChainInfo

/-- Chain information as a JSON object. -/
def toJson (i : ChainInfo) : Tree :=
  .record [("last_irreversible_block_num", .word i.irreversible), ("head_block_num", .word i.head)]

/-- Read chain information. -/
def ofJson? (t : Tree) : Option ChainInfo := do
  match ← t.fields? ["last_irreversible_block_num", "head_block_num"] with
  | [irreversible, head] =>
    return ⟨← required Tree.uint64? irreversible, ← defaulted 0 Tree.uint64? head⟩
  | _ => none

end ChainInfo

namespace TransactionEntry

/-- A node's answer about a transaction as a JSON object. -/
def toJson (e : TransactionEntry) : Tree :=
  .record <|
    [("block_num", .word e.blockNumber), ("trx_id", .text e.transactionId)]
      ++ optionalMember "block_id" BlockId.toJson e.blockId

/-- Read a node's answer about a transaction. -/
def ofJson? (t : Tree) : Option TransactionEntry := do
  match ← t.fields? ["block_num", "trx_id", "block_id"] with
  | [number, transaction, block] =>
    return ⟨← required Tree.uint64? number, ← required Tree.string? transaction,
      ← optional BlockId.ofJson? block⟩
  | _ => none

end TransactionEntry

namespace TransactionLocation

/-- A location as a JSON object. -/
def toJson (l : TransactionLocation) : Tree :=
  .record [("block_num", .word l.block.number), ("block_id", l.block.id.toJson),
    ("trx_id", .text l.transactionId)]

/-- Read a location. -/
def ofJson? (t : Tree) : Option TransactionLocation := do
  match ← t.fields? ["block_num", "block_id", "trx_id"] with
  | [number, block, transaction] =>
    return ⟨⟨← required Tree.uint64? number, ← required BlockId.ofJson? block⟩,
      ← required Tree.string? transaction⟩
  | _ => none

end TransactionLocation

/-- Read the id of a block from the block itself. -/
def BlockId.ofBlockJson? (t : Tree) : Option BlockId := do
  match ← t.fields? ["id"] with
  | [id] => required BlockId.ofJson? id
  | _ => none

end ChainWatch
