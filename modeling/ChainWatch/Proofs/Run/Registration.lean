import ChainWatch.Proofs.Run.Event

/-!
# Registering transactions

A run takes a transaction if it wants one and watches none of this id (`submit_snd_iff`); what it
then changes is its table of watches and one counter (`submit_of_taken`), and else nothing
(`submit_eq_self`).

The table is sorted by ids, so it does not show in which order its watches came. Therefore a block
of registrations that a run takes one after the other leads to the same run in any other order, and
is taken in any other order (`Takes.perm`). The argument exchanges two neighbours
(`submit_comm`), which the induction over permutations spreads over the block.
-/

namespace ChainWatch

namespace Run

variable {r : Run} {id : CorrelationId} {now : Moment}

/-! ### One registration -/

/-- A transaction that is not taken changes nothing. -/
theorem submit_eq_self (h : (r.submit id now).2 = false) : (r.submit id now).1 = r := by
  unfold submit at h ⊢
  split
  · next hwants =>
    rw [if_pos hwants] at h
    split
    · next watches heq => simp [heq] at h
    · rfl
  · rfl

/-- A transaction is taken if the run wants one and does not watch this one. -/
theorem submit_snd_iff :
    (r.submit id now).2 = true ↔ r.wantsSubmission = true ∧ r.watches.get? id = none := by
  have hadd : (r.watches.add id now).2 = (r.watches.get? id).isNone := WatchTable.add_snd ..
  unfold submit
  -- a run that wants no submission does not ask its table
  by_cases hwants : r.wantsSubmission = true
  · rw [if_pos hwants]
    split
    · next watches heq =>
      rw [heq] at hadd
      simpa [hwants] using hadd.symm
    · next watches heq =>
      rw [heq] at hadd
      simpa [hwants, Option.isSome_iff_ne_none] using hadd.symm
  · rw [if_neg hwants]
    simp [hwants]

/-- A transaction that is taken gets a watch and is counted. -/
theorem submit_of_taken (h : (r.submit id now).2 = true) :
    (r.submit id now).1
      = { r with watches := (r.watches.add id now).1, submitted := r.submitted + 1 } := by
  obtain ⟨hwants, hnew⟩ := submit_snd_iff.mp h
  have hadd : r.watches.add id now = ((r.watches.add id now).1, true) :=
    Prod.ext rfl (by rw [WatchTable.add_snd, hnew]; rfl)
  unfold submit
  rw [if_pos hwants, hadd]

/-- A watch is added for an id that is taken, and none else. -/
theorem mem_ids_submit_iff {i : CorrelationId} :
    i ∈ (r.submit id now).1.watches.ids ↔
      i ∈ r.watches.ids ∨ i = id ∧ (r.submit id now).2 = true := by
  cases h : (r.submit id now).2 with
  | false =>
    rw [submit_eq_self h]
    simp
  | true =>
    obtain ⟨-, hnew⟩ := submit_snd_iff.mp h
    have hwatches : (r.submit id now).1.watches = (r.watches.add id now).1 := by
      rw [submit_of_taken h]
    rw [hwatches]
    -- the watches are the old ones and the one that is added
    constructor
    · intro hi
      obtain ⟨w, hw, rfl⟩ := List.mem_map.mp hi
      rcases (WatchTable.mem_add_iff hnew now).mp hw with rfl | hold
      · exact Or.inr ⟨rfl, rfl⟩
      · exact Or.inl (List.mem_map_of_mem hold)
    · rintro (hi | ⟨rfl, -⟩)
      · obtain ⟨w, hw, rfl⟩ := List.mem_map.mp hi
        exact List.mem_map_of_mem ((WatchTable.mem_add_iff hnew now).mpr (Or.inr hw))
      · exact List.mem_map_of_mem
          (f := Watch.id) ((WatchTable.mem_add_iff hnew now).mpr (Or.inl rfl))

/-! ### Two registrations -/

/-- Two transactions that are taken one after the other are taken the other way round, and the run
is the same. -/
theorem submit_comm {i j : CorrelationId} {s t : Moment} (hi : (r.submit i s).2 = true)
    (hj : ((r.submit i s).1.submit j t).2 = true) :
    (r.submit j t).2 = true ∧ ((r.submit j t).1.submit i s).2 = true ∧
      ((r.submit j t).1.submit i s).1 = ((r.submit i s).1.submit j t).1 := by
  obtain ⟨hwants, hnew⟩ := submit_snd_iff.mp hi
  obtain ⟨hmore, hnone⟩ := submit_snd_iff.mp hj
  -- the second id was not watched before the first one came, and is another one
  have hids : j ∉ r.watches.ids ∧ j ≠ i := by
    have hnot : j ∉ (r.submit i s).1.watches.ids := by
      rw [WatchTable.mem_ids_iff, hnone]
      exact Bool.false_ne_true
    rw [mem_ids_submit_iff, not_or] at hnot
    exact ⟨hnot.1, fun heq => hnot.2 ⟨heq, hi⟩⟩
  obtain ⟨hnotMem, hne⟩ := hids
  have hnew' : r.watches.get? j = none := by
    rwa [WatchTable.mem_ids_iff, Bool.not_eq_true, Option.isSome_eq_false_iff,
      Option.isNone_iff_eq_none] at hnotMem
  have hj' : (r.submit j t).2 = true := submit_snd_iff.mpr ⟨hwants, hnew'⟩
  have hi' : ((r.submit j t).1.submit i s).2 = true := by
    refine submit_snd_iff.mpr ⟨?_, ?_⟩
    · -- whether there is more to submit is a matter of the counter alone
      rw [submit_of_taken hi] at hmore
      rw [submit_of_taken hj']
      exact hmore
    · rw [submit_of_taken hj']
      exact (WatchTable.get?_add_of_ne hne t).trans hnew
  refine ⟨hj', hi', ?_⟩
  rw [submit_of_taken hi', submit_of_taken hj, submit_of_taken hi, submit_of_taken hj']
  simp only [WatchTable.add_comm hnew' hnew hne t s]

/-! ### A block of registrations -/

/-- A transaction is submitted at its moment. -/
def registration (p : CorrelationId × Moment) : RunEvent := .submit p.1 p.2

/-- The run takes every one of some transactions that are submitted one after the other. -/
def Takes (r : Run) (ps : List (CorrelationId × Moment)) : Prop :=
  ∀ reply ∈ r.replies (ps.map registration), reply = .taken true

instance (r : Run) (ps : List (CorrelationId × Moment)) : Decidable (r.Takes ps) :=
  inferInstanceAs (Decidable (∀ reply ∈ r.replies (ps.map registration), reply = .taken true))

variable {p : CorrelationId × Moment} {ps qs : List (CorrelationId × Moment)}

theorem takes_cons_iff :
    r.Takes (p :: ps) ↔ (r.submit p.1 p.2).2 = true ∧ (r.submit p.1 p.2).1.Takes ps := by
  have hfirst : r.react (registration p) = ((r.submit p.1 p.2).1, .taken (r.submit p.1 p.2).2) := rfl
  unfold Takes
  rw [List.map_cons, replies_cons, List.forall_mem_cons, hfirst, RunReply.taken.injEq]

theorem Takes.replies_eq (h : r.Takes ps) :
    r.replies (ps.map registration) = List.replicate ps.length (.taken true) := by
  refine List.eq_replicate_iff.mpr ⟨?_, h⟩
  rw [length_replies, List.length_map]

/-- A block of transactions is taken in any order, and in any order it leads to the same run. -/
theorem Takes.perm (hperm : ps.Perm qs) (h : r.Takes ps) :
    r.Takes qs ∧ r.after (qs.map registration) = r.after (ps.map registration) := by
  induction hperm generalizing r with
  | nil => exact ⟨h, rfl⟩
  | cons p _ ih =>
    obtain ⟨hfirst, hrest⟩ := takes_cons_iff.mp h
    obtain ⟨htakes, hafter⟩ := ih hrest
    exact ⟨takes_cons_iff.mpr ⟨hfirst, htakes⟩, hafter⟩
  | swap p q ps =>
    -- the neighbours change places, and the run after them is the same
    obtain ⟨hq, hrest⟩ := takes_cons_iff.mp h
    obtain ⟨hp, hrest⟩ := takes_cons_iff.mp hrest
    obtain ⟨hp', hq', heq⟩ := submit_comm hq hp
    refine ⟨takes_cons_iff.mpr ⟨hp', takes_cons_iff.mpr ⟨hq', ?_⟩⟩, ?_⟩
    · rw [heq]
      exact hrest
    · change ((r.submit p.1 p.2).1.submit q.1 q.2).1.after _ = _
      rw [heq]
      rfl
  | trans _ _ ih₁ ih₂ =>
    obtain ⟨hmid, hafter⟩ := ih₁ h
    obtain ⟨hlast, hafter'⟩ := ih₂ hmid
    exact ⟨hlast, hafter'.trans hafter⟩

end Run

end ChainWatch
