import ChainWatch.Dialogue
import ChainWatch.Node.List
import ChainWatch.Node.Query

/-!
# The spread of the heads

Before faults are injected the nodes should be close together. `NodeList.measureHeads` asks the
nodes for their heads, one after the other in the order of the list, and gives up at the first that
does not answer. The spread is the distance between the highest and the lowest head; it is within a
bound if it is less than it.
-/

namespace ChainWatch

/-- Why the heads could not be measured: a node did not answer. -/
structure HeadsFault where
  url : String
  fault : NodeFault
deriving DecidableEq, Repr

/-- The wording of a fault. -/
def HeadsFault.message (f : HeadsFault) : String :=
  s!"node {f.url} did not report its head: {f.fault.message}"

/-- The heads of the nodes and their spread. -/
structure HeadSpread where
  /-- The url and the head of each node, in the order of the nodes. -/
  heads : List (String × UInt64)
  spread : UInt64
deriving DecidableEq, Repr

/-- Is the spread below a bound? -/
def HeadSpread.isWithin (h : HeadSpread) (bound : UInt64) : Bool := h.spread < bound

/-- The heads that the nodes of a list have reported, and their spread. -/
def HeadSpread.ofNodes (l : NodeList) : HeadSpread where
  heads := l.nodes.map fun n => (n.url, n.head)
  spread := l.headSpread

/-- A dialogue that asks nodes, by their urls, about their chains. -/
abbrev ChainInfoDialogue := Dialogue String (Except NodeFault ChainInfo)

/-- Ask nodes at some positions and keep what they say in a list of nodes. -/
def HeadSpread.askFrom (l : NodeList) :
    List (String × Nat) → ChainInfoDialogue (Except HeadsFault HeadSpread)
  | [] => .done (.ok (ofNodes l))
  | (url, node) :: rest => .ask url fun
    | .error fault => .done (.error ⟨url, fault⟩)
    | .ok info => askFrom (l.hear node info) rest

/-- Ask every node for its head. -/
def NodeList.measureHeads (l : NodeList) : ChainInfoDialogue (Except HeadsFault HeadSpread) :=
  HeadSpread.askFrom l l.urls.zipIdx

end ChainWatch
