import ChainWatch.Proofs.Node.Order
import ChainWatch.Proofs.Watch.Agreement
import ChainWatch.Proofs.Watch.Table
import Mathlib.Data.List.Forall2

/-!
# Watches of nodes in another order

Two watches follow one transaction on nodes that are listed in two orders: `Watch.Mirrored σ` says
that the sightings of the one are those of the other, moved along with the nodes. Every test of a
watch is about all of its sightings or about some pair of them, so it comes out the same
(`Watch.Mirrored.agrees_iff`, `Watch.Mirrored.isFinalized_eq` and so on), and with it the assessment
(`Watch.Mirrored.assess_eq`). That a fork is looked for from the first located node on does not
matter, as `Watch.fork?_isSome_iff` finds it from any.

Two tables are mirrored if they hold mirrored watches under the same ids. The operations of a table
keep this, and tell the same.
-/

namespace ChainWatch

variable {σ : Equiv.Perm Nat}

/-! ### One watch -/

namespace Watch

/-- The watches follow one transaction, on nodes that are moved along `σ`. -/
structure Mirrored (σ : Equiv.Perm Nat) (w w' : Watch) : Prop where
  id : w'.id = w.id
  submittedAt : w'.submittedAt = w.submittedAt
  sightings : Moved σ w.sightings w'.sightings

/-- Watches that have just begun know nothing of any node, so they are mirrored whatever moves, as
long as the nodes stay among themselves. -/
theorem mirrored_fresh (id : CorrelationId) (now : Moment) {nodeCount : Nat}
    (hσ : ∀ i, σ i < nodeCount ↔ i < nodeCount) :
    Mirrored σ (fresh id now nodeCount) (fresh id now nodeCount) where
  id := rfl
  submittedAt := rfl
  sightings := Moved.replicate hσ _

namespace Mirrored

variable {w w' : Watch}

/-- What is known of a node is known of the node that it is moved to. -/
theorem sighting_eq (h : Mirrored σ w w') (node : Nat) :
    w'.sighting (σ node) = w.sighting node := by
  unfold sighting sighting?
  rw [h.sightings node]

/-- Mirrored watches have waited equally long. -/
theorem age_eq (h : Mirrored σ w w') (now : Moment) : w'.age now = w.age now := by
  unfold age
  rw [h.submittedAt]

/-- Agreement is about the blocks that are reported, and not about who reports them. -/
theorem agrees_iff (h : Mirrored σ w w') : w'.Agrees ↔ w.Agrees := by
  have hstatuses : Moved σ w.statuses w'.statuses := h.sightings.map Sighting.status
  unfold Agrees
  simp only [hstatuses.mem_iff]

/-- There is a dispute on the one side exactly if there is one on the other. -/
theorem isSome_fork?_eq (h : Mirrored σ w w') : w'.fork?.isSome = w.fork?.isSome := by
  -- the pair of nodes that is found may be another one, but there is a pair or there is none
  rw [Bool.eq_iff_iff, fork?_isSome_iff, fork?_isSome_iff, h.agrees_iff]

/-- Whether all nodes have accepted does not depend on their order. -/
theorem isFinalized_eq (h : Mirrored σ w w') : w'.isFinalized = w.isFinalized := by
  rw [Bool.eq_iff_iff, isFinalized_iff, isFinalized_iff, Ne, h.sightings.eq_nil_iff]
  simp only [h.sightings.mem_iff]

/-- Nor does it whether some node has lost what it had located. -/
theorem isRolledBack_eq (h : Mirrored σ w w') : w'.isRolledBack = w.isRolledBack := by
  rw [Bool.eq_iff_iff, isRolledBack_iff, isRolledBack_iff]
  simp only [h.sightings.mem_iff]

/-- Nor whether some node has never located anything. -/
theorem isNotPacked_eq (h : Mirrored σ w w') : w'.isNotPacked = w.isNotPacked := by
  rw [Bool.eq_iff_iff, isNotPacked_iff, isNotPacked_iff]
  simp only [h.sightings.mem_iff]

/-- **The assessment is the same.** It looks at the age and at the four tests, and at nothing else.
-/
theorem assess_eq (h : Mirrored σ w w') (d : Deadlines) (now : Moment) :
    d.assess w' now = d.assess w now := by
  unfold Deadlines.assess
  rw [h.isSome_fork?_eq, h.isFinalized_eq, h.age_eq, h.isRolledBack_eq, h.isNotPacked_eq]

section Observing

variable (h : Mirrored σ w w') (node : Nat) (a : Answer) (frontier : UInt64)
include h

/-- An answer of a node on the one side and of the node that it is moved to on the other keep
watches mirrored, if both have the same frontier. -/
theorem observe :
    Mirrored σ (w.observe node a frontier).1 (w'.observe (σ node) a frontier).1 where
  id := by rw [observe_id, observe_id, h.id]
  submittedAt := by rw [observe_submittedAt, observe_submittedAt, h.submittedAt]
  sightings := by
    intro i
    rw [getElem?_observe, getElem?_observe, h.sightings i]
    simp only [σ.injective.eq_iff]

/-- Both watches change, or neither does. -/
theorem observe_snd_eq :
    (w'.observe (σ node) a frontier).2 = (w.observe node a frontier).2 := by
  -- whether it changes is decided by the one sighting, which is moved along
  have hsame : w'.sighting? (σ node) = w.sighting? node := h.sightings node
  unfold Watch.observe
  rw [hsame]
  cases w.sighting? node <;> rfl

end Observing

end Mirrored

end Watch

/-! ### The table -/

/-- Watches find their place by their ids, so mirrored watches find the same one. -/
theorem forall₂_insertWatch {ws ws' : List Watch} {w w' : Watch}
    (h : List.Forall₂ (Watch.Mirrored σ) ws ws') (hw : Watch.Mirrored σ w w') :
    List.Forall₂ (Watch.Mirrored σ) (insertWatch w ws) (insertWatch w' ws') := by
  induction h with
  | nil => exact .cons hw .nil
  | cons hv hvs ih =>
    unfold insertWatch
    -- the ids that are compared are the same, so both go to the same place
    rw [hw.id, hv.id]
    split
    · exact .cons hw (.cons hv hvs)
    · exact .cons hv ih

namespace WatchTable

/-- The tables hold mirrored watches of the same number of nodes, all of which `σ` moves among
themselves. -/
structure Mirrored (σ : Equiv.Perm Nat) (t t' : WatchTable) : Prop where
  nodeCount : t'.nodeCount = t.nodeCount
  inRange : ∀ i, σ i < t.nodeCount ↔ i < t.nodeCount
  watches : List.Forall₂ (Watch.Mirrored σ) t.watches t'.watches

namespace Mirrored

variable {t t' : WatchTable} (h : Mirrored σ t t')
include h

/-- Mirrored tables hold equally many watches. -/
theorem size_eq : t'.size = t.size := h.watches.length_eq.symm

/-- If nothing is left to watch on the one side, then nothing is on the other. -/
theorem isEmpty_eq : t'.isEmpty = t.isEmpty := by
  have hsize := h.size_eq
  unfold size at hsize
  rw [isEmpty, isEmpty, Bool.eq_iff_iff, List.isEmpty_iff_length_eq_zero,
    List.isEmpty_iff_length_eq_zero, hsize]

/-- Mirrored tables hold the same ids, in the same order. -/
theorem ids_eq : t'.ids = t.ids := by
  have hids : List.Forall₂ (· = ·) (t.watches.map Watch.id) (t'.watches.map Watch.id) :=
    List.rel_map (fun _ _ hw => hw.id.symm) h.watches
  rw [List.forall₂_eq_eq_eq] at hids
  exact hids.symm

/-- An id is watched in both tables or in none. -/
theorem get?_cases (id : CorrelationId) :
    (t.get? id = none ∧ t'.get? id = none) ∨
      ∃ w w', t.get? id = some w ∧ t'.get? id = some w' ∧ Watch.Mirrored σ w w' := by
  have hwatches := h.watches
  unfold WatchTable.get?
  -- along both lists at once: the searches stop at mirrored watches
  generalize t.watches = ws at hwatches ⊢
  generalize t'.watches = ws' at hwatches ⊢
  induction hwatches with
  | nil => exact Or.inl ⟨rfl, rfl⟩
  | @cons w w' ws ws' hw _ ih =>
    by_cases hid : w.id = id
    · have hid' : w'.id = id := hw.id.trans hid
      exact Or.inr ⟨w, w', List.find?_cons_of_pos (by simpa using hid),
        List.find?_cons_of_pos (by simpa using hid'), hw⟩
    · have hid' : ¬ w'.id = id := hw.id ▸ hid
      rw [List.find?_cons_of_neg (by simpa using hid), List.find?_cons_of_neg (by simpa using hid')]
      exact ih

/-- An id is refused by both tables or by neither. -/
theorem add_snd_eq (id : CorrelationId) (now : Moment) : (t'.add id now).2 = (t.add id now).2 := by
  rw [add_snd, add_snd]
  rcases h.get?_cases id with ⟨hnone, hnone'⟩ | ⟨w, w', hw, hw', -⟩
  · rw [hnone, hnone']
  · rw [hw, hw']
    rfl

/-- Beginning a watch on both sides keeps tables mirrored. -/
theorem add (id : CorrelationId) (now : Moment) :
    Mirrored σ (t.add id now).1 (t'.add id now).1 where
  nodeCount := by rw [nodeCount_add, nodeCount_add, h.nodeCount]
  inRange := by
    rw [nodeCount_add]
    exact h.inRange
  watches := by
    rcases h.get?_cases id with ⟨hnone, hnone'⟩ | ⟨w, w', hw, hw', -⟩
    · -- the id is new on both sides
      rw [watches_add hnone, watches_add hnone', h.nodeCount]
      exact forall₂_insertWatch h.watches (Watch.mirrored_fresh id now h.inRange)
    · rw [add_eq_self hw now, add_eq_self hw' now]
      exact h.watches

/-- Empty tables are mirrored. -/
theorem clear : Mirrored σ t.clear t'.clear where
  nodeCount := h.nodeCount
  inRange := h.inRange
  watches := .nil

/-- Ending the watch under an id on both sides keeps tables mirrored. -/
theorem remove (id : CorrelationId) : Mirrored σ (t.remove id).1 (t'.remove id).1 where
  nodeCount := h.nodeCount
  inRange := h.inRange
  watches := by
    refine List.rel_filter ?_ h.watches
    intro w w' hw
    simp only [hw.id]

/-- An answer about an id keeps tables mirrored, if the node that answers is moved along. -/
theorem observe (id : CorrelationId) (node : Nat) (a : Answer) (frontier : UInt64) :
    Mirrored σ (t.observe id node a frontier).1 (t'.observe id (σ node) a frontier).1 where
  nodeCount := h.nodeCount
  inRange := h.inRange
  watches := by
    rw [watches_observe, watches_observe]
    refine List.rel_map ?_ h.watches
    intro w w' hw
    simp only [hw.id]
    split
    · exact hw.observe node a frontier
    · exact hw

/-- Both tables find the watch and change it, or find it and do not, or do not find it. -/
theorem observe_snd_eq (id : CorrelationId) (node : Nat) (a : Answer) (frontier : UInt64) :
    (t'.observe id (σ node) a frontier).2 = (t.observe id node a frontier).2 := by
  unfold WatchTable.observe
  rcases h.get?_cases id with ⟨hnone, hnone'⟩ | ⟨w, w', hget, hget', hw⟩
  · rw [hnone, hnone']
    rfl
  · -- both change their watch, or both keep it
    rw [hget, hget']
    exact congrArg some (hw.observe_snd_eq node a frontier)

end Mirrored

end WatchTable

end ChainWatch
