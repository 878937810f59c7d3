import ChainWatch.CorrelationId

/-!
# What nodes say about their chain

A node reports how far its chain is final and how far it reaches (`ChainInfo`), and for a
transaction the block that holds it. A block has a number and an id (`BlockRef`): two blocks of one
number with different ids lie on different branches. Ids of blocks are opaque texts and are compared
as they are.
-/

namespace ChainWatch

/-- The id of a block. -/
structure BlockId where
  text : String
deriving DecidableEq, Repr

/-- A block, by number and id. -/
structure BlockRef where
  number : UInt64
  id : BlockId
deriving DecidableEq, Repr

/-- How far a node's chain is irreversible, and how far it reaches. -/
structure ChainInfo where
  irreversible : UInt64
  head : UInt64 := 0
deriving DecidableEq, Repr

/-- The answer of a node that knows a transaction. Not every node tells the id of the block. -/
structure TransactionEntry where
  blockNumber : UInt64
  transactionId : String
  blockId : Option BlockId
deriving DecidableEq, Repr

/-- Where a transaction lies. -/
structure TransactionLocation where
  block : BlockRef
  transactionId : String
deriving DecidableEq, Repr

end ChainWatch
