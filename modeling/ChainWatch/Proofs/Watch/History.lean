import ChainWatch.Proofs.Watch.Agreement
import ChainWatch.Proofs.Watch.Table

/-!
# A watch as its history

A watch is told answers one after the other (`Watch.observeAll`), each by a `Notice`: the node, what
it says, and how far its chain was final. This file says what the watch is afterwards, in terms of
the notices alone.

Nothing passes between nodes. The sighting of a node is what its own answers leave behind, in their
order (`getElem?_observeAll`), so two histories that agree on every node leave the same watch
(`observeAll_congr`), however they mix the nodes, and a notice about a position without a node might
as well not have come.

What the answers of one node leave behind is `Sighting.Recalls`. Acceptance is the part of it that
is about the end of the history only: the node's last answer gives a block, and during the stretch
of answers at the end that all give this block, the node's frontier reached it at least once. A
frontier that falls again later takes nothing away.

`history_kept` puts this together with the two tests that read it: a position without a node, and
finality as a count of the nodes that accept.
-/

namespace ChainWatch

/-- One answer as it reaches a watch. -/
structure Notice where
  node : Nat
  answer : Answer
  /-- How far the node's chain was final when the answer came. -/
  frontier : UInt64
deriving DecidableEq, Repr

/-- What a node has said in some notices, each time with its frontier. -/
def saidBy (node : Nat) (ns : List Notice) : List (Answer × UInt64) :=
  (ns.filter fun n => n.node = node).map fun n => (n.answer, n.frontier)

section SaidBy

variable {node : Nat} {n : Notice} {ns : List Notice}

@[simp] theorem saidBy_nil : saidBy node [] = [] := rfl

theorem saidBy_cons_self (h : n.node = node) :
    saidBy node (n :: ns) = (n.answer, n.frontier) :: saidBy node ns := by
  simp [saidBy, h]

theorem saidBy_cons_of_ne (h : n.node ≠ node) : saidBy node (n :: ns) = saidBy node ns := by
  simp [saidBy, h]

theorem saidBy_append (ns ms : List Notice) :
    saidBy node (ns ++ ms) = saidBy node ns ++ saidBy node ms := by
  simp [saidBy]

/-- What a node has said is what its notices say. -/
theorem mem_saidBy {a : Answer} {frontier : UInt64} :
    (a, frontier) ∈ saidBy node ns ↔ ⟨node, a, frontier⟩ ∈ ns := by
  unfold saidBy
  constructor
  · intro h
    obtain ⟨n, hn, heq⟩ := List.mem_map.mp h
    obtain ⟨hmem, hnode⟩ := List.mem_filter.mp hn
    cases heq
    rw [← of_decide_eq_true hnode]
    exact hmem
  · intro h
    exact List.mem_map.mpr ⟨_, List.mem_filter.mpr ⟨h, by simp⟩, rfl⟩

/-- To every node, neighbours in a history may change places if they are of different nodes. -/
theorem saidBy_swap {m : Notice} (h : n.node ≠ m.node) (before after : List Notice) :
    saidBy node (before ++ n :: m :: after) = saidBy node (before ++ m :: n :: after) := by
  rw [saidBy_append, saidBy_append]
  congr 1
  -- at most one of the two is of this node, so it hears them in one order only
  by_cases hn : n.node = node
  · have hm : m.node ≠ node := fun hm => h (hn.trans hm.symm)
    rw [saidBy_cons_self hn, saidBy_cons_of_ne hm, saidBy_cons_of_ne hm, saidBy_cons_self hn]
  · by_cases hm : m.node = node
    · rw [saidBy_cons_of_ne hn, saidBy_cons_self hm, saidBy_cons_self hm, saidBy_cons_of_ne hn]
    · rw [saidBy_cons_of_ne hn, saidBy_cons_of_ne hm, saidBy_cons_of_ne hm, saidBy_cons_of_ne hn]

end SaidBy

/-! ### What one node leaves behind -/

/-- A sighting keeps of a node's answers what a watch needs of them. -/
structure Sighting.Recalls (s : Sighting) (heard : List (Answer × UInt64)) : Prop where
  /-- The last answer is the status, and without an answer the status is unknown. -/
  status : s.status = (heard.getLast?.map fun h => h.1.status).getD .unknown
  /-- That the node ever gave a location is remembered. -/
  everLocated : s.everLocated = true ↔ ∃ b frontier, (.located b, frontier) ∈ heard
  /-- The node accepts what it gave last, if it was not past the frontier at one of the answers of
  the last stretch, which all give this same location. -/
  accepted : s.accepted = true ↔ ∃ b, heard.getLast?.map Prod.fst = some (.located b) ∧
    ∃ h ∈ heard.rtakeWhile fun h => h.1 = .located b, b.number ≤ h.2

/-- A fresh sighting recalls all that it hears. -/
theorem Sighting.recalls_afterAll (heard : List (Answer × UInt64)) :
    (({} : Sighting).afterAll heard).Recalls heard where
  status := status_afterAll {} heard
  everLocated := everLocated_afterAll_iff heard
  accepted := by
    -- a stretch at the end that gives one block ends with an answer that gives it
    rw [accepted_afterAll_iff]
    constructor
    · rintro ⟨b, hb⟩
      exact ⟨b, hb.getLast?, secured_iff_rtakeWhile.mp hb⟩
    · rintro ⟨b, -, hb⟩
      exact ⟨b, secured_iff_rtakeWhile.mpr hb⟩

/-! ### What all of them leave behind -/

namespace Watch

/-- The watch after some notices. -/
def observeAll (w : Watch) (ns : List Notice) : Watch :=
  ns.foldl (fun w n => (w.observe n.node n.answer n.frontier).1) w

section ObserveAll

variable (w : Watch) (n : Notice) (ns : List Notice)

@[simp] theorem observeAll_nil : w.observeAll [] = w := rfl

@[simp] theorem observeAll_cons :
    w.observeAll (n :: ns) = (w.observe n.node n.answer n.frontier).1.observeAll ns := rfl

theorem observeAll_append (ms : List Notice) :
    w.observeAll (ns ++ ms) = (w.observeAll ns).observeAll ms := List.foldl_append

@[simp] theorem observeAll_id : (w.observeAll ns).id = w.id := by
  induction ns generalizing w with
  | nil => rfl
  | cons n ns ih => rw [observeAll_cons, ih, observe_id]

@[simp] theorem observeAll_submittedAt : (w.observeAll ns).submittedAt = w.submittedAt := by
  induction ns generalizing w with
  | nil => rfl
  | cons n ns ih => rw [observeAll_cons, ih, observe_submittedAt]

@[simp] theorem nodeCount_observeAll : (w.observeAll ns).nodeCount = w.nodeCount := by
  induction ns generalizing w with
  | nil => rfl
  | cons n ns ih =>
    rw [observeAll_cons, ih]
    exact w.length_observe n.node n.answer n.frontier

/-- A node's sighting is what its own answers make of it. -/
theorem getElem?_observeAll (node : Nat) :
    (w.observeAll ns).sightings[node]?
      = w.sightings[node]?.map fun s => s.afterAll (saidBy node ns) := by
  induction ns generalizing w with
  | nil => simp
  | cons n ns ih =>
    -- the first notice changes the sighting of its own node, and is heard there first
    rw [observeAll_cons, ih, getElem?_observe]
    by_cases hnode : n.node = node
    · rw [if_pos hnode, saidBy_cons_self hnode, Option.map_map]
      rfl
    · rw [if_neg hnode, saidBy_cons_of_ne hnode]

end ObserveAll

/-! ### From a fresh watch on -/

section Fresh

variable (id : CorrelationId) (submittedAt : Moment) {nodeCount : Nat} {ns : List Notice}

/-- A fresh watch knows of a node what the node has said. -/
theorem sighting?_observeAll_fresh {node : Nat} (h : node < nodeCount) :
    ((fresh id submittedAt nodeCount).observeAll ns).sightings[node]?
      = some (({} : Sighting).afterAll (saidBy node ns)) := by
  rw [getElem?_observeAll]
  simp [fresh, h]

/-- Every node of the watch recalls what it has said. -/
theorem recalls_observeAll_fresh {node : Nat} (h : node < nodeCount) :
    (((fresh id submittedAt nodeCount).observeAll ns).sighting node).Recalls (saidBy node ns) := by
  -- a fresh watch begins without any sighting of its own
  have hsighting : ((fresh id submittedAt nodeCount).observeAll ns).sighting node
      = ({} : Sighting).afterAll (saidBy node ns) := by
    rw [sighting, sighting?, sighting?_observeAll_fresh id submittedAt h, Option.getD_some]
  rw [hsighting]
  exact Sighting.recalls_afterAll _

theorem length_observeAll_fresh (nodeCount : Nat) (ns : List Notice) :
    ((fresh id submittedAt nodeCount).observeAll ns).sightings.length = nodeCount := by
  -- notices bring no nodes
  have hcount := nodeCount_observeAll (fresh id submittedAt nodeCount) ns
  unfold Watch.nodeCount at hcount
  rw [hcount]
  exact List.length_replicate

/-- Histories that agree on every node leave the same watch. -/
theorem observeAll_congr {ms : List Notice}
    (h : ∀ node < nodeCount, saidBy node ns = saidBy node ms) :
    (fresh id submittedAt nodeCount).observeAll ns
      = (fresh id submittedAt nodeCount).observeAll ms := by
  refine ext_sightings (by simp) (by simp) fun node => ?_
  by_cases hnode : node < nodeCount
  · calc ((fresh id submittedAt nodeCount).observeAll ns).sightings[node]?
      _ = some (({} : Sighting).afterAll (saidBy node ns)) :=
        sighting?_observeAll_fresh id submittedAt hnode
      _ = some (({} : Sighting).afterAll (saidBy node ms)) := by rw [h node hnode]
      _ = ((fresh id submittedAt nodeCount).observeAll ms).sightings[node]? :=
        (sighting?_observeAll_fresh id submittedAt hnode).symm
  · -- no watch of so many nodes has a sighting there
    have hnone (ns : List Notice) :
        ((fresh id submittedAt nodeCount).observeAll ns).sightings[node]? = none := by
      rw [List.getElem?_eq_none_iff, length_observeAll_fresh]
      exact Nat.le_of_not_lt hnode
    rw [hnone, hnone]

end Fresh

/-- An answer of a position without a node changes nothing. -/
theorem observe_of_le {w : Watch} {node : Nat} (h : w.nodeCount ≤ node) (a : Answer)
    (frontier : UInt64) : w.observe node a frontier = (w, false) := by
  unfold observe sighting?
  rw [List.getElem?_eq_none h]

/-- A watch is final iff it has nodes and each of them accepts. -/
theorem isFinalized_iff_forall_lt {w : Watch} :
    w.isFinalized = true
      ↔ 0 < w.nodeCount ∧ ∀ node < w.nodeCount, (w.sighting node).accepted = true := by
  -- within the range the sighting of a node is the entry at its position
  have hsighting : ∀ node (h : node < w.sightings.length), w.sighting node = w.sightings[node] := by
    intro node h
    rw [sighting, sighting?, List.getElem?_eq_getElem h, Option.getD_some]
  rw [isFinalized_iff, ← List.length_pos_iff, List.forall_mem_iff_forall_getElem]
  refine and_congr Iff.rfl (forall_congr' fun node => forall_congr' fun h => ?_)
  rw [hsighting node h]

/-- **A watch is its history.** After any notices, every node recalls what it has said itself; a
position without a node is ignored; the watch is final iff it has nodes and all of them accept; and
it is the same after any notices in which every node says the same, so that notices of different
nodes may change places. -/
theorem history_kept (id : CorrelationId) (submittedAt : Moment) (nodeCount : Nat)
    (ns : List Notice) :
    let w := (fresh id submittedAt nodeCount).observeAll ns
    (w.id = id ∧ w.submittedAt = submittedAt ∧ w.nodeCount = nodeCount) ∧
    (∀ node < nodeCount, (w.sighting node).Recalls (saidBy node ns)) ∧
    (∀ node, nodeCount ≤ node → ∀ a frontier, w.observe node a frontier = (w, false)) ∧
    (w.isFinalized = true ↔ 0 < nodeCount ∧ ∀ node < nodeCount, (w.sighting node).accepted = true) ∧
    (∀ ms, (∀ node < nodeCount, saidBy node ns = saidBy node ms) →
      (fresh id submittedAt nodeCount).observeAll ms = w) ∧
    ∀ before n m after, ns = before ++ n :: m :: after → n.node ≠ m.node →
      (fresh id submittedAt nodeCount).observeAll (before ++ m :: n :: after) = w := by
  intro w
  have hcount : w.nodeCount = nodeCount := length_observeAll_fresh id submittedAt nodeCount ns
  refine ⟨⟨by simp [w], by simp [w, fresh], hcount⟩, ?_, ?_, ?_, ?_, ?_⟩
  · intro node hnode
    exact recalls_observeAll_fresh id submittedAt hnode
  · intro node hnode a frontier
    exact observe_of_le (hcount ▸ hnode) a frontier
  · rw [isFinalized_iff_forall_lt, hcount]
  · intro ms hms
    exact (observeAll_congr id submittedAt hms).symm
  · rintro before n m after rfl hne
    exact observeAll_congr id submittedAt fun node _ => saidBy_swap hne.symm before after

/-- A frontier that falls again takes nothing away, and another block starts anew. -/
example :
    let given (frontier : UInt64) : Notice := ⟨0, .located ⟨5, ⟨"x"⟩⟩, frontier⟩
    ((fresh .zero .start 1).observeAll [given 4, given 5, given 3]).isFinalized = true ∧
      ((fresh .zero .start 1).observeAll
        [given 4, given 5, ⟨0, .located ⟨6, ⟨"y"⟩⟩, 5⟩, given 3]).isFinalized = false := by
  decide

end Watch

end ChainWatch
