import ChainWatch.Time
import ChainWatch.Verdict

/-!
# Watches

A `Watch` follows one submitted transaction on every node. For each node it keeps a `Sighting`: what
the node last said (`Sighting.status`), whether it ever located the transaction, and whether the
transaction counts as final there (`Sighting.accepted`).

A sighting changes by one rule, `Sighting.after`. The answer becomes the status, so a status is
never unknown again, and a node may take back a location; that it once gave one is remembered.
Acceptance belongs to one location: it holds as soon as the node gives a block that is not past its
frontier, and goes with the first answer that differs from that location. `Sighting.isNews` says
whether an answer changes anything, so the same answer at the same frontier is no news the second
time.
-/

namespace ChainWatch

/-- What a node says about a transaction. -/
inductive Answer where
  /-- It holds it in this block. -/
  | located (block : BlockRef)
  /-- It does not know it. -/
  | rejected
deriving DecidableEq, Repr

namespace Answer

/-- The block of an answer, if it has one. -/
def block? : Answer → Option BlockRef
  | .located b => some b
  | .rejected => none

/-- The status that an answer leads to. -/
def status : Answer → Status
  | .located b => .located b
  | .rejected => .rejected

/-- Does the answer give a block that is not past the frontier? -/
def isFinal (a : Answer) (frontier : UInt64) : Bool :=
  match a with
  | .located b => b.number ≤ frontier
  | .rejected => false

end Answer

/-- What is known of a transaction on one node. -/
structure Sighting where
  status : Status := .unknown
  everLocated : Bool := false
  accepted : Bool := false
deriving DecidableEq, Repr

namespace Sighting

/-- Does an answer differ from the last one? -/
def moves (s : Sighting) (a : Answer) : Bool :=
  s.status ≠ a.status

/-- Is the transaction still accepted for its earlier location when the node answers? -/
def keepsAcceptance (s : Sighting) (a : Answer) : Bool :=
  s.accepted && !s.moves a

/-- The sighting after an answer of a node with this frontier. -/
def after (s : Sighting) (a : Answer) (frontier : UInt64) : Sighting where
  status := a.status
  everLocated := s.everLocated || a.block?.isSome
  accepted := s.keepsAcceptance a || a.isFinal frontier

/-- Does an answer change the sighting? It does if it differs from the last one, if it is the first
location, or if it makes the transaction accepted. -/
def isNews (s : Sighting) (a : Answer) (frontier : UInt64) : Bool :=
  s.moves a || (a.block?.isSome && !s.everLocated)
    || (a.isFinal frontier && !s.keepsAcceptance a)

end Sighting

/-- One transaction on all nodes. -/
structure Watch where
  id : CorrelationId
  submittedAt : Moment
  /-- In the order of the nodes. -/
  sightings : List Sighting
deriving DecidableEq

namespace Watch

/-- A transaction that no node has answered about. -/
def fresh (id : CorrelationId) (submittedAt : Moment) (nodeCount : Nat) : Watch where
  id := id
  submittedAt := submittedAt
  sightings := List.replicate nodeCount {}

/-- The number of nodes. -/
def nodeCount (w : Watch) : Nat := w.sightings.length

/-- What is known on one node. -/
def sighting? (w : Watch) (node : Nat) : Option Sighting := w.sightings[node]?

/-- What is known on one node; nothing for a position without a node. -/
def sighting (w : Watch) (node : Nat) : Sighting := (w.sighting? node).getD {}

/-- The time since the submission. -/
def age (w : Watch) (now : Moment) : Span := now.since w.submittedAt

/-- The age in whole seconds. -/
def ageSecs (w : Watch) (now : Moment) : UInt64 := UInt64.ofNat (w.age now).wholeSecs

/-- What the nodes last said. -/
def statuses (w : Watch) : List Status := w.sightings.map Sighting.status

/-- Did any node ever locate the transaction? -/
def anyEverLocated (w : Watch) : Bool := w.sightings.any Sighting.everLocated

/-- The number of nodes on which the transaction is accepted. -/
def acceptedCount (w : Watch) : Nat := w.sightings.countP Sighting.accepted

/-- Is the transaction accepted on every node? -/
def isFinalized (w : Watch) : Bool :=
  !w.sightings.isEmpty && w.acceptedCount == w.nodeCount

/-- Apply the answer of a node with this frontier, and tell whether it changed anything. A position
without a node changes nothing. -/
def observe (w : Watch) (node : Nat) (a : Answer) (frontier : UInt64) : Watch × Bool :=
  match w.sighting? node with
  | none => (w, false)
  | some s =>
    ({ w with sightings := w.sightings.set node (s.after a frontier) }, s.isNews a frontier)

@[simp] theorem observe_id (w : Watch) (node : Nat) (a : Answer) (frontier : UInt64) :
    (w.observe node a frontier).1.id = w.id := by
  unfold observe
  split <;> rfl

@[simp] theorem fresh_id (id : CorrelationId) (submittedAt : Moment) (nodeCount : Nat) :
    (fresh id submittedAt nodeCount).id = id := rfl

end Watch

end ChainWatch
