import ChainWatch.Watch.Assessment
import ChainWatch.Proofs.Watch.Sighting

/-!
# Agreement and finality of a watch

The tests that a run makes of a watch, said of all its nodes at once:

* `fork?_eq_none_iff` — comparing with the first located block finds a fork iff any two located
  blocks differ (`Agrees` is the absence of such a pair);
* `isFinalized_iff` — a watch is final iff it has nodes and every one of them accepts it.

A watch that passes neither test is open (`IsOpen`): nothing is decided about it. A fresh watch is
open (`isOpen_fresh`), and what an open watch may fail with is only a matter of its age and of what
every node says (`Deadlines.failure_of_isOpen`).
-/

namespace ChainWatch

namespace Watch

/-- Any two nodes that hold the transaction hold it in blocks of one id. -/
def Agrees (w : Watch) : Prop :=
  ∀ b c, .located b ∈ w.statuses → .located c ∈ w.statuses → b.id = c.id

/-- Nothing is decided about the watch: the nodes agree, and not all of them accept it. -/
structure IsOpen (w : Watch) : Prop where
  /-- No two nodes hold the transaction in different blocks. -/
  agrees : w.Agrees
  /-- The transaction is not final on every node. -/
  not_final : w.isFinalized = false

/-! ### Forks -/

theorem mem_locations_iff {w : Watch} {node : Nat} {id : BlockId} :
    (node, id) ∈ w.locations ↔ ∃ b, w.statuses[node]? = some (.located b) ∧ b.id = id := by
  -- only a located status has a block
  have hblock : ∀ s : Status, ∀ b, s.block? = some b ↔ s = .located b := by
    intro s b
    cases s <;> simp [Status.block?]
  simp [locations, List.mem_zipIdx_iff_getElem?, hblock]

/-- The ids that are compared are those of the located blocks. -/
theorem exists_mem_locations_iff {w : Watch} {id : BlockId} :
    (∃ node, (node, id) ∈ w.locations) ↔ ∃ b, .located b ∈ w.statuses ∧ b.id = id := by
  simp only [mem_locations_iff]
  constructor
  · rintro ⟨node, b, hb, hid⟩
    exact ⟨b, List.mem_of_getElem? hb, hid⟩
  · rintro ⟨b, hb, hid⟩
    obtain ⟨node, hnode⟩ := List.mem_iff_getElem?.mp hb
    exact ⟨node, b, hnode, hid⟩

/-- The nodes agree iff the ids that are compared are all the same. -/
theorem agrees_iff_locations {w : Watch} :
    w.Agrees ↔ ∀ l ∈ w.locations, ∀ k ∈ w.locations, l.2 = k.2 := by
  constructor
  · intro h ⟨i, a⟩ hi ⟨j, c⟩ hj
    -- two locations come from two located blocks, and the other way round
    obtain ⟨b₁, hb₁, rfl⟩ := exists_mem_locations_iff.mp ⟨i, hi⟩
    obtain ⟨b₂, hb₂, rfl⟩ := exists_mem_locations_iff.mp ⟨j, hj⟩
    exact h b₁ b₂ hb₁ hb₂
  · intro h b c hb hc
    obtain ⟨i, hi⟩ := exists_mem_locations_iff.mpr ⟨b, hb, rfl⟩
    obtain ⟨j, hj⟩ := exists_mem_locations_iff.mpr ⟨c, hc, rfl⟩
    exact h _ hi _ hj

/-- Comparing every located block with the first one is enough: two that differ cannot both equal
the first. -/
theorem fork?_eq_none_iff {w : Watch} : w.fork? = none ↔ w.Agrees := by
  rw [agrees_iff_locations]
  unfold fork?
  split
  · next hnil => simp [hnil]
  · next first id others hcons =>
    rw [hcons]
    simp only [Option.map_eq_none_iff, List.find?_eq_none, decide_eq_true_eq, Decidable.not_not]
    constructor
    · intro h
      -- all are equal to the first, and so to one another
      have hfirst : ∀ l ∈ (first, id) :: others, l.2 = id := by
        intro l hl
        rcases List.mem_cons.mp hl with rfl | hl
        · rfl
        · exact h l hl
      intro l hl k hk
      rw [hfirst l hl, hfirst k hk]
    · intro h l hl
      exact h l (List.mem_cons_of_mem _ hl) (first, id) (List.mem_cons_self ..)

theorem fork?_isSome_iff {w : Watch} : w.fork?.isSome = true ↔ ¬ w.Agrees := by
  rw [← fork?_eq_none_iff]
  cases w.fork? <;> simp

/-! ### Finality -/

theorem isFinalized_iff {w : Watch} :
    w.isFinalized = true ↔ w.sightings ≠ [] ∧ ∀ s ∈ w.sightings, s.accepted = true := by
  simp [isFinalized, acceptedCount, nodeCount, List.countP_eq_length]

/-- A watch that is not final has a node that does not accept it. -/
theorem exists_not_accepted {w : Watch} (hw : w.isFinalized = false) (hne : w.sightings ≠ []) :
    ∃ s ∈ w.sightings, s.accepted = false := by
  by_contra hall
  push Not at hall
  -- if all of them accepted, it would be final
  have hfinal : w.isFinalized = true :=
    isFinalized_iff.mpr ⟨hne, fun s hs => by simpa using hall s hs⟩
  rw [hw] at hfinal
  cases hfinal

theorem isOpen_fresh (id : CorrelationId) (t : Moment) (nodeCount : Nat) :
    (fresh id t nodeCount).IsOpen where
  agrees := by
    intro b c hb _
    -- every status of a fresh watch is unknown
    simp [fresh, statuses] at hb
  not_final := by
    rw [Bool.eq_false_iff]
    intro h
    obtain ⟨hne, hall⟩ := isFinalized_iff.mp h
    -- some node would have accepted, but a fresh watch has no such node
    obtain ⟨s, hs⟩ := List.exists_mem_of_ne_nil _ hne
    have haccepted := hall s hs
    rw [List.eq_of_mem_replicate hs] at haccepted
    cases haccepted

/-! ### What every node says -/

theorem anyEverLocated_iff {w : Watch} :
    w.anyEverLocated = true ↔ ∃ s ∈ w.sightings, s.everLocated = true := by
  simp [anyEverLocated]

theorem isRolledBack_iff {w : Watch} :
    w.isRolledBack = true ↔
      (∃ s ∈ w.sightings, s.everLocated = true) ∧ ∀ s ∈ w.sightings, s.status = .rejected := by
  have hrejected : ∀ s : Status, s.isRejected = true ↔ s = .rejected := by
    intro s
    cases s <;> simp [Status.isRejected]
  simp [isRolledBack, anyEverLocated_iff, statuses, hrejected]

theorem isNotPacked_iff {w : Watch} :
    w.isNotPacked = true ↔
      (∀ s ∈ w.sightings, s.everLocated = false) ∧
        ∀ s ∈ w.sightings, s.status = .unknown ∨ s.status = .rejected := by
  have hlocated : ∀ s : Status, s.isLocated = false ↔ s = .unknown ∨ s = .rejected := by
    intro s
    cases s <;> simp [Status.isLocated, Status.block?]
  simp [isNotPacked, anyEverLocated, statuses, hlocated]

end Watch

/-! ### What an open watch may fail with -/

namespace Deadlines

variable {d : Deadlines} {w : Watch} {now : Moment}

/-- An open watch is past the hard deadline; or it is past the soft one only, and either gone from
every node or never seen on any. -/
inductive Failure (d : Deadlines) (w : Watch) (now : Moment) : Verdict → Prop where
  | timedOut (hhard : d.hard < w.age now) : Failure d w now .timedOut
  | rolledBack (hsoft : d.soft < w.age now) (hhard : w.age now ≤ d.hard)
      (hw : w.isRolledBack = true) : Failure d w now .rolledBack
  | neverPacked (hsoft : d.soft < w.age now) (hhard : w.age now ≤ d.hard)
      (hw : w.isNotPacked = true) : Failure d w now .neverPacked

theorem failure_of_isOpen {v : Verdict} (hw : w.IsOpen) (h : d.assess w now = .failed v) :
    Failure d w now v := by
  have hfork : w.fork? = none := Watch.fork?_eq_none_iff.mpr hw.agrees
  simp only [assess, hfork, hw.not_final, Option.isSome_none, Bool.false_eq_true, if_false] at h
  split at h
  · next hhard =>
    cases h
    exact .timedOut hhard
  · next hhard =>
    -- between the two deadlines
    have hle : w.age now ≤ d.hard := Nat.le_of_not_lt hhard
    split at h
    · next hsoft =>
      split at h
      · next hgone =>
        cases h
        exact .rolledBack hsoft hle hgone
      · split at h
        · next hunseen =>
          cases h
          exact .neverPacked hsoft hle hunseen
        · cases h
    · cases h

/-- No watch fails with success. -/
theorem assess_ne_failed_success (d : Deadlines) (w : Watch) (now : Moment) :
    d.assess w now ≠ .failed .success := by
  unfold assess
  repeat' split
  all_goals simp

/-- An open watch is never assessed as final. -/
theorem assess_ne_finalized (hw : w.IsOpen) : d.assess w now ≠ .finalized := by
  have hfork : w.fork? = none := Watch.fork?_eq_none_iff.mpr hw.agrees
  simp only [assess, hfork, hw.not_final, Option.isSome_none, Bool.false_eq_true, if_false]
  split
  · simp
  · split
    · split
      · simp
      · split <;> simp
    · simp

end Deadlines

end ChainWatch
