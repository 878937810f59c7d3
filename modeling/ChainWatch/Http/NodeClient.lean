import ChainWatch.Http.Message
import ChainWatch.Node.Query
import ChainWatch.Wire.Chain

/-!
# Asking a node over HTTP

A node tells about its chain at one address and about a transaction at another. A status that is no
success means two different things there: a node that refuses to tell about its chain has failed,
while one that refuses a transaction does not know it (`resolve`). A node that knows a transaction
may leave out the id of the block, and then the block itself is asked for, by its number
(`blockId`). Nothing that goes wrong in that second request says anything about the transaction: the
whole lookup fails.
-/

namespace ChainWatch.Http

open Json (Tree)

/-- What a fault of the transport means for a question to a node. -/
def TransportFault.nodeFault (f : TransportFault) : NodeFault :=
  match f with
  | .unreachable _ => .connectionFailed f.message
  | .timedOut _ => .timedOut
  | _ => .http f.message

namespace NodeClient

/-- Where a node tells about its chain. -/
def chainInfoAddress (node : String) : String := node ++ "/v1/chain/get_info"

/-- Where a node tells about a transaction. -/
def linkAddress (node : String) : String := node ++ "/v1/evt_link/get_trx_id_for_link_id"

/-- Where a node gives blocks. -/
def blockAddress (node : String) : String := node ++ "/v1/chain/get_block"

/-- Read the body of a response that must be a success. -/
def readSuccess {α : Type} (read : Tree → Option α) (r : Response) : Except NodeFault α :=
  if r.isSuccess then
    match r.json? read with
    | some a => .ok a
    | none => .error (.undecodable undecodableBody)
  else .error (.status r.status r.text)

/-- Ask for something that only a success can tell. -/
def fetch {α : Type} (read : Tree → Option α) (q : Request) :
    Conversation (Except NodeFault α) :=
  .ask q fun
    | .error fault => .done (.error fault.nodeFault)
    | .ok r => .done (readSuccess read r)

/-- Ask a node about its chain. -/
def chainInfo (node : String) : Conversation (Except NodeFault ChainInfo) :=
  fetch ChainInfo.ofJson? (.get (chainInfoAddress node))

/-- Ask a node for the id of a block. -/
def blockId (node : String) (number : UInt64) : Conversation (Except NodeFault BlockId) :=
  fetch BlockId.ofBlockJson?
    (.post (blockAddress node) (.record [("block_num_or_id", .word number)]))

/-- The location that an entry and the id of its block give. -/
def locationOf (e : TransactionEntry) (block : BlockId) : TransactionLocation where
  block := ⟨e.blockNumber, block⟩
  transactionId := e.transactionId

/-- Ask a node about a transaction. -/
def resolve (node : String) (id : CorrelationId) : Conversation (Except NodeFault Resolution) :=
  .ask (.post (linkAddress node) (.record [("link_id", id.toJson)])) fun
    | .error fault => .done (.error fault.nodeFault)
    | .ok r =>
      if r.isSuccess then
        match r.json? TransactionEntry.ofJson? with
        | none => .done (.error (.undecodable undecodableBody))
        | some e =>
          match e.blockId with
          | some block => .done (.ok (.located (locationOf e block)))
          | none => (blockId node e.blockNumber).bind fun
            | .error fault => .done (.error fault)
            | .ok block => .done (.ok (.located (locationOf e block)))
      else .done (.ok (.notFound r.text))

end NodeClient

end ChainWatch.Http
