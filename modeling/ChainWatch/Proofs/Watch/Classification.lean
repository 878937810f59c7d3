import ChainWatch.Proofs.Watch.History

/-!
# How a watch is assessed, by its history and over time

`Deadlines.assess` asks a row of tests and stops at the first that holds. This file puts in the
place of the tests what they mean (`Deadlines.rules`): two of them speak of what the nodes say now,
one of the age, and two of age and of what was ever answered. `FirstRule` is the reading of the row,
and `assess_eq_iff` says that it gives the assessment and no other.

A watch that was never located needs a word. The test for it also asks that no node gives a location
now, and that is no condition of its own: whoever gives a location now has given one, so in a watch
that has a history it follows (`isNotPacked_observeAll_iff`). Of a watch that was put together
otherwise it would not.

Over time, only the age of an untouched watch changes, and it grows. So an assessment stays unless
it was waiting, except that any failure that rests on an age may become a timeout (`assess_later`).
This holds whichever of the two deadlines is the earlier one: with a hard deadline before the soft
one, no failure that rests on an age but the timeout is ever reached, and a timeout stays.
-/

namespace ChainWatch

namespace Watch

/-- Two nodes hold the transaction in blocks of different ids. -/
def IsForked (w : Watch) : Prop :=
  ∃ (i j : Nat) (b c : BlockRef), w.statuses[i]? = some (.located b) ∧
    w.statuses[j]? = some (.located c) ∧ b.id ≠ c.id

theorem isForked_iff {w : Watch} : w.IsForked ↔ ¬ w.Agrees := by
  unfold IsForked Agrees
  push Not
  simp only [List.mem_iff_getElem?]
  constructor
  · rintro ⟨i, j, b, c, hb, hc, hne⟩
    exact ⟨b, c, ⟨i, hb⟩, ⟨j, hc⟩, hne⟩
  · rintro ⟨b, c, ⟨i, hb⟩, ⟨j, hc⟩, hne⟩
    exact ⟨i, j, b, c, hb, hc, hne⟩

/-- Some node was told of as giving a location. A position without a node is not one. -/
def LocationGiven (nodeCount : Nat) (ns : List Notice) : Prop :=
  ∃ n ∈ ns, n.node < nodeCount ∧ ∃ b, n.answer = .located b

end Watch

/-! ### The rules -/

/-- What is asked of a watch of some age, in this order, and what it amounts to if the answer is
yes. That a location was ever given is told apart, as the watch shows it only by its flags. -/
def Deadlines.rules (d : Deadlines) (w : Watch) (located : Prop) (age : Span) :
    List (Prop × Assessment) :=
  [(w.IsForked, .failed .forked),
    (∀ node < w.nodeCount, (w.sighting node).accepted = true, .finalized),
    (d.hard < age, .failed .timedOut),
    (d.soft < age ∧ (∀ s ∈ w.statuses, s = .rejected) ∧ located, .failed .rolledBack),
    (d.soft < age ∧ ¬ located, .failed .neverPacked)]

/-- The first rule that holds decides; a watch of which none holds waits. -/
def FirstRule : List (Prop × Assessment) → Assessment → Prop
  | [], a => a = .waiting
  | (p, b) :: rules, a => p ∧ a = b ∨ ¬ p ∧ FirstRule rules a

/-- A test in front of others is a rule in front of others. -/
theorem FirstRule.ite_eq_iff {p q : Prop} [Decidable p] (hpq : p ↔ q) {a b c : Assessment}
    {rules : List (Prop × Assessment)} (h : c = a ↔ FirstRule rules a) :
    (if p then b else c) = a ↔ FirstRule ((q, b) :: rules) a := by
  rw [FirstRule, ← hpq, ← h]
  by_cases hp : p
  · simp [hp, eq_comm]
  · simp [hp]

/-- A rule that does not hold might as well not be there. -/
theorem FirstRule.cons_iff_of_not {q : Prop} (hq : ¬ q) {a b : Assessment}
    {rules : List (Prop × Assessment)} : FirstRule ((q, b) :: rules) a ↔ FirstRule rules a := by
  rw [FirstRule]
  simp [hq]

namespace Watch

section Histories

variable (id : CorrelationId) (submittedAt : Moment) {nodeCount : Nat} (ns : List Notice)

/-- The flags of a watch tell of the locations in its history. -/
theorem anyEverLocated_observeAll_iff :
    ((fresh id submittedAt nodeCount).observeAll ns).anyEverLocated = true
      ↔ LocationGiven nodeCount ns := by
  rw [anyEverLocated_iff]
  constructor
  · -- the sighting is that of a node, and the node has said so itself
    rintro ⟨s, hs, hlocated⟩
    obtain ⟨node, hnode⟩ := List.mem_iff_getElem?.mp hs
    have hlt : node < nodeCount := by
      rw [← length_observeAll_fresh id submittedAt nodeCount ns]
      exact (List.getElem?_eq_some_iff.mp hnode).1
    rw [sighting?_observeAll_fresh id submittedAt hlt] at hnode
    cases hnode
    obtain ⟨b, frontier, hmem⟩ := (Sighting.everLocated_afterAll_iff _).mp hlocated
    exact ⟨⟨node, .located b, frontier⟩, mem_saidBy.mp hmem, hlt, b, rfl⟩
  · rintro ⟨⟨node, a, frontier⟩, hmem, hlt, b, rfl⟩
    refine ⟨_, List.mem_of_getElem? (sighting?_observeAll_fresh id submittedAt hlt), ?_⟩
    exact (Sighting.everLocated_afterAll_iff _).mpr ⟨b, frontier, mem_saidBy.mpr hmem⟩

/-- Whoever gives a location has given one. -/
theorem anyEverLocated_of_located {b : BlockRef}
    (h : .located b ∈ ((fresh id submittedAt nodeCount).observeAll ns).statuses) :
    ((fresh id submittedAt nodeCount).observeAll ns).anyEverLocated = true := by
  obtain ⟨s, hs, hstatus⟩ := List.mem_map.mp h
  refine anyEverLocated_iff.mpr ⟨s, hs, ?_⟩
  obtain ⟨node, hnode⟩ := List.mem_iff_getElem?.mp hs
  rw [getElem?_observeAll] at hnode
  obtain ⟨s₀, hs₀, rfl⟩ := Option.map_eq_some_iff.mp hnode
  have hfresh : s₀ = {} := List.eq_of_mem_replicate (List.mem_of_getElem? hs₀)
  subst hfresh
  -- the status is that of the last answer, so the last answer is this location
  rw [Sighting.status_afterAll] at hstatus
  rw [Sighting.everLocated_afterAll_iff]
  cases hlast : (saidBy node ns).getLast? with
  | none =>
    rw [hlast] at hstatus
    cases hstatus
  | some last =>
    rw [hlast] at hstatus
    have hanswer : last.1 = .located b := Answer.eq_located_of_status hstatus
    refine ⟨b, last.2, ?_⟩
    rw [← hanswer]
    exact List.mem_of_getLast? hlast

/-- Never located means that no location was ever answered, and nothing more. -/
theorem isNotPacked_observeAll_iff :
    ((fresh id submittedAt nodeCount).observeAll ns).isNotPacked = true
      ↔ ¬ LocationGiven nodeCount ns := by
  rw [← anyEverLocated_observeAll_iff id submittedAt ns, isNotPacked, Bool.and_eq_true,
    Bool.not_eq_true', Bool.not_eq_true]
  -- the second half of the test follows from the first
  refine and_iff_left_of_imp fun hnever => List.all_eq_true.mpr fun s hs => ?_
  cases s with
  | located b =>
    rw [anyEverLocated_of_located id submittedAt ns hs] at hnever
    cases hnever
  | unknown => rfl
  | rejected => rfl

theorem isRolledBack_observeAll_iff :
    ((fresh id submittedAt nodeCount).observeAll ns).isRolledBack = true
      ↔ (∀ s ∈ ((fresh id submittedAt nodeCount).observeAll ns).statuses, s = .rejected) ∧
        LocationGiven nodeCount ns := by
  have hrejected : ∀ s : Status, s.isRejected = true ↔ s = .rejected := by
    intro s
    cases s <;> simp [Status.isRejected]
  rw [← anyEverLocated_observeAll_iff id submittedAt ns, isRolledBack, Bool.and_eq_true,
    List.all_eq_true, and_comm]
  simp only [hrejected]

end Histories

end Watch

namespace Deadlines

open Watch

/-- The assessment of a history: the first rule that holds gives it, and nothing else does. -/
theorem assess_eq_iff (d : Deadlines) (id : CorrelationId) (submittedAt now : Moment)
    {nodeCount : Nat} (hnodes : 0 < nodeCount) (ns : List Notice) (a : Assessment) :
    d.assess ((fresh id submittedAt nodeCount).observeAll ns) now = a
      ↔ FirstRule (d.rules ((fresh id submittedAt nodeCount).observeAll ns)
          (LocationGiven nodeCount ns)
          (((fresh id submittedAt nodeCount).observeAll ns).age now)) a := by
  have hrolled := @isRolledBack_observeAll_iff id submittedAt nodeCount ns
  have hunseen := @isNotPacked_observeAll_iff id submittedAt nodeCount ns
  have hcount := length_observeAll_fresh id submittedAt nodeCount ns
  -- from here on, the watch is any watch of which these are true
  generalize (fresh id submittedAt nodeCount).observeAll ns = w at *
  have hfinal : w.isFinalized = true ↔ ∀ node < w.nodeCount, (w.sighting node).accepted = true := by
    rw [isFinalized_iff_forall_lt]
    exact and_iff_right (show 0 < w.sightings.length by rwa [hcount])
  have hwaiting : Assessment.waiting = a ↔ FirstRule [] a := eq_comm
  unfold assess rules
  refine FirstRule.ite_eq_iff (fork?_isSome_iff.trans isForked_iff.symm) ?_
  refine FirstRule.ite_eq_iff hfinal ?_
  refine FirstRule.ite_eq_iff Iff.rfl ?_
  by_cases hsoft : d.soft < w.age now
  · rw [if_pos hsoft]
    refine FirstRule.ite_eq_iff (hrolled.trans (and_iff_right hsoft).symm) ?_
    exact FirstRule.ite_eq_iff (hunseen.trans (and_iff_right hsoft).symm) hwaiting
  · -- before the soft deadline neither of the last two rules applies
    rw [if_neg hsoft, FirstRule.cons_iff_of_not fun h => hsoft h.1,
      FirstRule.cons_iff_of_not fun h => hsoft h.1]
    exact hwaiting

/-! ### Over time -/

section Later

variable {w : Watch} {now now' : Moment}

theorem age_le_age (hle : now.nanos ≤ now'.nanos) : w.age now ≤ w.age now' :=
  Nat.sub_le_sub_right hle w.submittedAt.nanos

/-- As time goes by, an assessment stays what it was; or it was waiting; or it was a failure that
rests on an age, and the watch is timed out. -/
theorem assess_later (d : Deadlines) (w : Watch) (hle : now.nanos ≤ now'.nanos) :
    d.assess w now' = d.assess w now ∨ d.assess w now = .waiting ∨
      d.assess w now' = .failed .timedOut ∧
        ∃ v, v ≠ .forked ∧ d.assess w now = .failed v := by
  have hage : w.age now ≤ w.age now' := age_le_age hle
  unfold assess
  -- the tests in front of the age are the same at both times
  by_cases hfork : w.fork?.isSome = true
  · exact Or.inl (by rw [if_pos hfork, if_pos hfork])
  by_cases hfinal : w.isFinalized = true
  · exact Or.inl (by simp only [if_neg hfork, if_pos hfinal])
  simp only [if_neg hfork, if_neg hfinal]
  by_cases hhard : d.hard < w.age now
  · exact Or.inl (by rw [if_pos hhard, if_pos (Nat.lt_of_lt_of_le hhard hage)])
  by_cases hsoft : d.soft < w.age now
  · -- judged by age alone: what has been found then is found again, unless it is too late
    have hsoft' : d.soft < w.age now' := Nat.lt_of_lt_of_le hsoft hage
    simp only [if_neg hhard, if_pos hsoft, if_pos hsoft']
    by_cases hhard' : d.hard < w.age now'
    · by_cases hrolled : w.isRolledBack = true
      · exact Or.inr (Or.inr ⟨if_pos hhard', .rolledBack, by decide, if_pos hrolled⟩)
      · by_cases hunseen : w.isNotPacked = true
        · refine Or.inr (Or.inr ⟨if_pos hhard', .neverPacked, by decide, ?_⟩)
          rw [if_neg hrolled, if_pos hunseen]
        · exact Or.inr (Or.inl (by rw [if_neg hrolled, if_neg hunseen]))
    · exact Or.inl (by rw [if_neg hhard'])
  · exact Or.inr (Or.inl (by rw [if_neg hhard, if_neg hsoft]))

end Later

/-- **Assessments are decided by history and age, and settle in time.** Of a watch of some nodes,
the first rule that holds gives the assessment. Its age is the time since the submission, and none
before it. As time goes by, final and forked watches remain what they are, a failure remains a
failure with its verdict or becomes a timeout, and a watch that waits has always waited. -/
theorem judged_by_history (d : Deadlines) (id : CorrelationId) (submittedAt : Moment)
    {nodeCount : Nat} (hnodes : 0 < nodeCount) (ns : List Notice) :
    let w := (fresh id submittedAt nodeCount).observeAll ns
    (∀ now a, d.assess w now = a
      ↔ FirstRule (d.rules w (LocationGiven nodeCount ns) (w.age now)) a) ∧
    (∀ now, (now.nanos ≤ submittedAt.nanos → w.age now = 0) ∧
      (submittedAt.nanos ≤ now.nanos → submittedAt.nanos + w.age now = now.nanos)) ∧
    ∀ now now' : Moment, now.nanos ≤ now'.nanos →
      (d.assess w now = .finalized → d.assess w now' = .finalized) ∧
      (d.assess w now = .failed .forked → d.assess w now' = .failed .forked) ∧
      (∀ v, d.assess w now = .failed v →
        d.assess w now' = .failed v ∨ d.assess w now' = .failed .timedOut) ∧
      (d.assess w now' = .waiting → d.assess w now = .waiting) := by
  intro w
  have htime : w.submittedAt = submittedAt := observeAll_submittedAt _ _
  refine ⟨fun now a => assess_eq_iff d id submittedAt now hnodes ns a, ?_, ?_⟩
  · intro now
    unfold age Moment.since
    rw [htime]
    exact ⟨Nat.sub_eq_zero_of_le, Nat.add_sub_of_le⟩
  · intro now now' hle
    rcases d.assess_later w hle with hsame | hwaited | ⟨hlate, v, hv, hfailed⟩
    · rw [hsame]
      exact ⟨fun h => h, fun h => h, fun _ h => Or.inl h, fun h => h⟩
    · rw [hwaited]
      exact ⟨nofun, nofun, fun v => nofun, fun _ => rfl⟩
    · rw [hlate, hfailed]
      refine ⟨nofun, ?_, fun _ _ => Or.inr rfl, nofun⟩
      intro heq
      cases heq
      exact absurd rfl hv

/-- The first of two nodes gives a location, and then both reject; the last notice is of no node. -/
def takenBack : List Notice :=
  [⟨0, .located ⟨5, ⟨"x"⟩⟩, 4⟩, ⟨1, .rejected, 0⟩, ⟨0, .rejected, 9⟩, ⟨2, .located ⟨6, ⟨"y"⟩⟩, 9⟩]

theorem judged_by_history_taken_back :
    let d : Deadlines := {}
    let w := (fresh .zero .start 2).observeAll takenBack
    0 < 2 ∧
      FirstRule (d.rules w (LocationGiven 2 takenBack) (w.age (.ofMillis 21000)))
        (.failed .rolledBack) ∧
      (d.assess w (.ofMillis 201000) = .failed .rolledBack ∨
        d.assess w (.ofMillis 201000) = .failed .timedOut) ∧
      d.assess w (.ofMillis 20000) = .waiting ∧ d.assess w (.ofMillis 5000) = .waiting := by
  intro d w
  have hrolled : d.assess w (.ofMillis 21000) = .failed .rolledBack := by decide
  have hwaits : d.assess w (.ofMillis 20000) = .waiting := by decide
  obtain ⟨hrule, -, hlater⟩ := judged_by_history d .zero .start (by decide : 0 < 2) takenBack
  refine ⟨by decide, (hrule _ _).mp hrolled, ?_, hwaits, ?_⟩
  · obtain ⟨-, -, hfailed, -⟩ := hlater (.ofMillis 21000) (.ofMillis 201000) (by decide)
    exact hfailed _ hrolled
  · obtain ⟨-, -, -, hwaited⟩ := hlater (.ofMillis 5000) (.ofMillis 20000) (by decide)
    exact hwaited hwaits

end Deadlines

end ChainWatch
