import ChainWatch.Node.Heads
import ChainWatch.Submission

/-!
# A scripted cluster

To rehearse a service without a network, a `Cluster` answers in place of the nodes and takes what is
submitted. It says what it was told to say: a node has the chain that was set for it, and all zeros
before that; it knows the transactions that were scripted for it one by one, else answers to all of
them alike, and without any script knows none. A node that is offline cannot be reached. The next
lookup, and all submissions, can be made to fail.

A cluster counts what it is asked and keeps what is submitted to it.
-/

namespace ChainWatch

/-- Give a key a value in a list of pairs. -/
def assign {α β : Type} [BEq α] (key : α) (value : β) (pairs : List (α × β)) : List (α × β) :=
  (key, value) :: pairs.filter fun p => !(p.1 == key)

/-- Nodes and a submission service that follow a script. -/
structure Cluster where
  /-- What a node says about its chain. -/
  chains : List (String × ChainInfo) := []
  /-- What a node answers about any transaction. -/
  general : List (String × Resolution) := []
  /-- What a node answers about one transaction. -/
  particular : List ((String × CorrelationId) × Resolution) := []
  offline : List String := []
  /-- Why the next lookup fails, if it does. -/
  nextFault : Option String := none
  /-- Why submissions fail, if they do. -/
  submitFault : Option String := none
  chainInfoCount : Nat := 0
  resolveCount : Nat := 0
  /-- What was submitted, in its order. -/
  submissions : List Submission := []

namespace Cluster

/-- The answer about a transaction that nobody scripted. -/
def unknownTransaction : Resolution := .notFound "unknown link id"

/-! ### Writing the script -/

/-- Set what a node says about its chain. -/
def setChain (c : Cluster) (url : String) (info : ChainInfo) : Cluster :=
  { c with chains := assign url info c.chains }

/-- Set a node's last irreversible block, which is then its head as well. -/
def setIrreversible (c : Cluster) (url : String) (number : UInt64) : Cluster :=
  c.setChain url ⟨number, number⟩

/-- Let a node hold every transaction in one block. -/
def locateAll (c : Cluster) (url : String) (block : BlockRef) : Cluster :=
  { c with general := assign url (.located ⟨block, s!"trx-{block.number}"⟩) c.general }

/-- Let a node know no transaction. -/
def rejectAll (c : Cluster) (url : String) : Cluster :=
  { c with general := assign url unknownTransaction c.general }

/-- Set what a node answers about one transaction. -/
def setResolution (c : Cluster) (url : String) (id : CorrelationId) (r : Resolution) : Cluster :=
  { c with particular := assign (url, id) r c.particular }

/-- Take a node offline. -/
def takeOffline (c : Cluster) (url : String) : Cluster :=
  { c with offline := url :: c.offline.filter (· != url) }

/-- Bring a node back. -/
def bringOnline (c : Cluster) (url : String) : Cluster :=
  { c with offline := c.offline.filter (· != url) }

/-- Let the next lookup that reaches a node fail. -/
def failNext (c : Cluster) (reason : String) : Cluster :=
  { c with nextFault := some reason }

/-- Let all submissions fail, or let them succeed again. -/
def failSubmissions (c : Cluster) (reason : Option String) : Cluster :=
  { c with submitFault := reason }

/-! ### Following the script -/

/-- Why a node that is offline gives no answer. -/
def unreachable (url : String) : NodeFault := .connectionFailed url

/-- Ask a node about its chain. -/
def chainInfo (c : Cluster) (url : String) : Except NodeFault ChainInfo × Cluster :=
  let c := { c with chainInfoCount := c.chainInfoCount + 1 }
  if c.offline.contains url then (.error (unreachable url), c)
  else (.ok ((c.chains.lookup url).getD ⟨0, 0⟩), c)

/-- The scripted answer of a node about a transaction. -/
def scripted (c : Cluster) (url : String) (id : CorrelationId) : Resolution :=
  match c.particular.lookup (url, id) with
  | some r => r
  | none => (c.general.lookup url).getD unknownTransaction

/-- Ask a node about a transaction. -/
def resolve (c : Cluster) (url : String) (id : CorrelationId) :
    Except NodeFault Resolution × Cluster :=
  let c := { c with resolveCount := c.resolveCount + 1 }
  if c.offline.contains url then (.error (unreachable url), c)
  else
    match c.nextFault with
    | some reason => (.error (.http reason), { c with nextFault := none })
    | none => (.ok (c.scripted url id), c)

/-- Submit a transaction. It is kept even if the submission fails. -/
def submit (c : Cluster) (s : Submission) : Except SubmitFault Unit × Cluster :=
  let c := { c with submissions := c.submissions ++ [s] }
  match c.submitFault with
  | some reason => (.error (.http reason), c)
  | none => (.ok (), c)

/-- Ask every node of a list for its head. -/
def measureHeads (c : Cluster) (l : NodeList) : Except HeadsFault HeadSpread × Cluster :=
  (l.measureHeads.runM (m := StateM Cluster) fun url c => c.chainInfo url).run c

end Cluster

end ChainWatch
