import ChainWatch.Proofs.Run.Reaction

/-!
# No transaction is lost or counted twice

A run keeps two counters and a table of watches, and changes them in different places. This file
shows that they stay in step, over every history: each transaction that the run has taken is either
in flight or counted as final, exactly once (`conservation_after`).

The counters are words of thirty-two bits, and the statement is about the numbers they stand for. It
therefore also says that they never wrap: `submitted` grows only below the target, and `finalized`
only by a watch that leaves the table, which by the balance is one of those submitted
(`Balance.retire`).

`Balance` is the invariant. Once the run has settled its table is empty, and the balance is the one
of the report (`Snapshot`), where the verdict shows: success leaves nothing in flight and everything
counted, and a failure always leaves the watch that caused it.
-/

namespace ChainWatch

namespace Run

/-- The counters that a report tells: those of the run as it settled. -/
structure Snapshot (r : Run) (rep : RunReport) : Prop where
  target : rep.progress.target = r.target
  submitted : rep.progress.submitted = r.submitted
  finalized : rep.progress.finalized = r.finalized
  /-- Every transaction that was taken is counted or was in flight. -/
  balance : r.submitted.toNat = r.finalized.toNat + rep.progress.inFlight
  /-- Success means that everything is counted. -/
  success : rep.verdict = .success → r.submitted = r.target ∧ rep.progress.inFlight = 0
  /-- A failure leaves the watch that caused it. -/
  failure : rep.verdict ≠ .success → rep.progress.inFlight ≠ 0

/-- The counters of a run that has taken `n` transactions. -/
structure Balance (r : Run) (n : Nat) : Prop where
  submitted_eq : r.submitted.toNat = n
  le_target : r.submitted ≤ r.target
  /-- Until the run settles, every transaction that was taken is counted or in flight. -/
  running : r.report = none → r.submitted.toNat = r.finalized.toNat + r.watches.size
  /-- A run that has everything behind it has settled, unless there never was anything. -/
  busy : r.report = none → 0 < r.target → ¬ r.IsComplete
  settled : ∀ rep, r.report = some rep → r.Snapshot rep

/-- A counter below some word can be raised by one. -/
theorem toNat_add_one {c bound : UInt32} (h : c.toNat < bound.toNat) :
    (c + 1).toNat = c.toNat + 1 := by
  have hbound : bound.toNat < 2 ^ 32 := bound.toNat_lt
  have hlt : c.toNat + 1 < 2 ^ 32 := by omega
  calc (c + 1).toNat = (c.toNat + 1) % 2 ^ 32 := UInt32.toNat_add c 1
    _ = c.toNat + 1 := Nat.mod_eq_of_lt hlt

theorem size_eq_zero_iff {t : WatchTable} : t.size = 0 ↔ t.watches = [] :=
  List.length_eq_zero_iff

theorem balance_start (nodes : NodeList) (target : UInt32) (deadlines : Deadlines) :
    (start nodes target deadlines).Balance 0 where
  submitted_eq := rfl
  le_target := UInt32.zero_le
  running := fun _ => rfl
  busy := by
    intro _ hpos hdone
    -- a target that nothing reaches is zero
    exact absurd hpos (UInt32.not_lt.mpr hdone.1)
  settled := fun rep h => by cases h

section Step

variable {r : Run} {n : Nat}

theorem settled_of_report_eq_none (hr : r.report = none) :
    ∀ rep, r.report = some rep → r.Snapshot rep := by
  intro rep hrep
  rw [hr] at hrep
  cases hrep

/-- Settling turns the balance of the table into that of the report. -/
theorem balance_ended {v : Verdict} {d : Option Diagnosis} (hsubmitted : r.submitted.toNat = n)
    (hle : r.submitted ≤ r.target)
    (hrunning : r.submitted.toNat = r.finalized.toNat + r.watches.size)
    (hsuccess : v = .success → r.IsComplete) (hfailure : v ≠ .success → r.watches.watches ≠ []) :
    (r.ended v d).Balance n where
  submitted_eq := hsubmitted
  le_target := hle
  running := fun h => by cases h
  busy := fun h => by cases h
  settled := by
    intro rep hrep
    obtain rfl := Option.some.inj hrep
    refine ⟨rfl, rfl, rfl, hrunning, fun hv => ?_, fun hv => ?_⟩
    · obtain ⟨hge, hempty⟩ := hsuccess hv
      exact ⟨UInt32.le_antisymm hle hge, size_eq_zero_iff.mpr hempty⟩
    · intro hzero
      exact hfailure hv (size_eq_zero_iff.mp hzero)

/-- What retiring a watch does to the counters. The counter of final transactions cannot wrap: the
watch that leaves the table is one of those submitted. -/
theorem Balance.retire (h : r.Balance n) (hr : r.report = none) {id : CorrelationId} {w : Watch}
    (hw : r.watches.get? id = some w) :
    (r.retire id).submitted.toNat
      = (r.retire id).finalized.toNat + (r.retire id).watches.size := by
  have hsize := WatchTable.size_remove hw
  have hrunning := h.running hr
  -- at least one watch is in flight, so the counter is below another one
  have hlt : r.finalized.toNat < r.submitted.toNat := by omega
  have hfinalized := toNat_add_one hlt
  rw [retire_eq hw]
  calc r.submitted.toNat = r.finalized.toNat + r.watches.size := hrunning
    _ = (r.finalized.toNat + 1) + (r.watches.remove id).1.size := by omega
    _ = (r.finalized + 1).toNat + (r.watches.remove id).1.size := by rw [hfinalized]

theorem Balance.register (h : r.Balance n) (hr : r.report = none) {id : CorrelationId}
    {now : Moment} (hwanted : r.submitted < r.target) (hnew : r.watches.get? id = none) :
    Balance { r with watches := (r.watches.add id now).1, submitted := r.submitted + 1 }
      (n + 1) := by
  have hsize := WatchTable.size_add hnew now
  have hrunning := h.running hr
  have hlt : r.submitted.toNat < r.target.toNat := UInt32.lt_iff_toNat_lt.mp hwanted
  have hsubmitted := toNat_add_one hlt
  refine ⟨?_, ?_, fun _ => ?_, fun _ _ hdone => ?_, settled_of_report_eq_none hr⟩
  · rw [hsubmitted, h.submitted_eq]
  · rw [UInt32.le_iff_toNat_le, hsubmitted]
    exact hlt
  · calc (r.submitted + 1).toNat = (r.finalized.toNat + r.watches.size) + 1 := by
          rw [hsubmitted, hrunning]
      _ = r.finalized.toNat + (r.watches.add id now).1.size := by
          rw [hsize, Nat.add_assoc]
  · -- the watch that was just added is in flight
    have hzero := size_eq_zero_iff.mpr hdone.2
    change (r.watches.add id now).1.size = 0 at hzero
    omega

/-- **Invariant preservation.** -/
theorem Balance.reaction {e : RunEvent} {r' : Run} {reply : RunReply} (h : r.Balance n)
    (hr : r.report = none) (hreact : Reaction r e r' reply) :
    r'.Balance (n + if reply = .taken true then 1 else 0) := by
  have hsubmitted : ∀ id, (r.retire id).submitted = r.submitted := by
    intro id
    unfold Run.retire
    split <;> rfl
  cases hreact with
  | refused _ => exact h
  | registered hwanted hnew => exact h.register hr hwanted hnew
  | informed =>
    exact ⟨h.submitted_eq, h.le_target, h.running, h.busy, settled_of_report_eq_none hr⟩
  | @noted id node a now _ =>
    -- an answer changes a watch in its place
    have hsize : (r.learn id node a).watches.size = r.watches.size :=
      WatchTable.size_observe _ _ _ _ _
    refine ⟨h.submitted_eq, h.le_target, fun _ => ?_, fun _ hpos hdone => ?_,
      settled_of_report_eq_none hr⟩
    · rw [hsize]
      exact h.running hr
    · refine h.busy hr hpos ⟨hdone.1, ?_⟩
      rw [← size_eq_zero_iff, ← hsize, size_eq_zero_iff]
      exact hdone.2
  | @retired id node a now w hw _ _ hmore =>
    -- the run is not complete, or it would have settled
    have hunsettled : (r.retire id).report = none := by
      rw [retire_eq hw]
      exact hr
    refine ⟨?_, ?_, fun _ => h.retire hr hw, fun _ _ => hmore,
      settled_of_report_eq_none hunsettled⟩
    · rw [hsubmitted]
      exact h.submitted_eq
    · rw [hsubmitted, (sameTask_retire r id).target]
      exact h.le_target
  | @completed id node a now w hw _ _ hdone =>
    refine balance_ended ?_ ?_ (h.retire hr hw) (fun _ => hdone) (fun hv => absurd rfl hv)
    · rw [hsubmitted]
      exact h.submitted_eq
    · rw [hsubmitted, (sameTask_retire r id).target]
      exact h.le_target
  | @forked id node a now w hw _ =>
    have hsize : (r.learn id node a).watches.size = r.watches.size :=
      WatchTable.size_observe _ _ _ _ _
    refine balance_ended h.submitted_eq h.le_target ?_ (fun hv => by cases hv) (fun _ => ?_)
    · rw [hsize]
      exact h.running hr
    · -- the forked watch is in flight as the run settles
      exact List.ne_nil_of_mem (WatchTable.get?_eq_some_iff.mp (get?_learn hw node a now)).1
  | waited _ _ => exact h
  | @failed now w v hw hfail _ =>
    refine balance_ended h.submitted_eq h.le_target (h.running hr) ?_ fun _ => List.ne_nil_of_mem hw
    rintro rfl
    exact absurd hfail (Deadlines.assess_ne_failed_success _ _ _)
  | vacuous hdone =>
    exact balance_ended h.submitted_eq h.le_target (h.running hr) (fun _ => hdone)
      (fun hv => absurd rfl hv)

end Step

/-- The counters of a run after a history stand for what it has taken along it. -/
theorem balance_after (nodes : NodeList) (target : UInt32) (deadlines : Deadlines)
    (es : List RunEvent) :
    ((start nodes target deadlines).after es).Balance
      ((start nodes target deadlines).registrations es) := by
  induction es using List.reverseRecOn with
  | nil => exact balance_start nodes target deadlines
  | append_singleton es e ih =>
    have horderly := orderly_after nodes target deadlines es
    rw [after_concat, registrations_concat]
    cases hr : ((start nodes target deadlines).after es).report with
    | none => exact ih.reaction hr (reaction_of_allOpen hr horderly.allOpen e)
    | some rep =>
      -- a settled run takes nothing more, whatever the event
      rw [react_of_isSettled (isSettled_eq_true hr)]
      cases e <;> exact ih

/-- **Conservation of transactions.** After every history the submissions that the run has taken are
counted, within the target; until the run settles each of them is final or in flight, and a run that
has something to submit never stays with everything behind it. The report of a settled run keeps the
balance, and shows everything counted exactly if the run has succeeded. -/
theorem conservation_after (nodes : NodeList) (target : UInt32) (deadlines : Deadlines)
    (es : List RunEvent) :
    let r := (start nodes target deadlines).after es
    r.submitted.toNat = (start nodes target deadlines).registrations es ∧
    r.finalized ≤ r.submitted ∧ r.submitted ≤ target ∧
    (r.report = none → r.submitted.toNat = r.finalized.toNat + r.watches.size ∧
      (0 < target → ¬ (r.submitted = target ∧ r.watches.size = 0))) ∧
    ∀ rep, r.report = some rep →
      rep.progress.target = target ∧ rep.progress.submitted = r.submitted ∧
      rep.progress.finalized = r.finalized ∧
      rep.progress.submitted.toNat = rep.progress.finalized.toNat + rep.progress.inFlight ∧
      (rep.verdict = .success ↔
        rep.progress.submitted = target ∧ rep.progress.finalized = target ∧
          rep.progress.inFlight = 0) ∧
      (rep.verdict ≠ .success →
        1 ≤ rep.progress.inFlight ∧ rep.progress.finalized < rep.progress.submitted) := by
  intro r
  have hbalance : r.Balance ((start nodes target deadlines).registrations es) :=
    balance_after nodes target deadlines es
  have htarget : r.target = target :=
    (sameTask_after (orderly_start nodes target deadlines) es).target
  -- what is counted as final was submitted, before and after settling
  have hfinalized : r.finalized.toNat ≤ r.submitted.toNat := by
    cases hr : r.report with
    | none =>
      rw [hbalance.running hr]
      exact Nat.le_add_right _ _
    | some rep =>
      rw [(hbalance.settled rep hr).balance]
      exact Nat.le_add_right _ _
  refine ⟨hbalance.submitted_eq, UInt32.le_iff_toNat_le.mpr hfinalized,
    htarget ▸ hbalance.le_target, fun hr => ⟨hbalance.running hr, ?_⟩, fun rep hrep => ?_⟩
  · rintro hpos ⟨hall, hempty⟩
    rw [← htarget] at hpos hall
    exact hbalance.busy hr hpos ⟨UInt32.le_of_eq hall.symm, size_eq_zero_iff.mp hempty⟩
  · have hsnapshot := hbalance.settled rep hrep
    have hcount := hsnapshot.balance
    rw [hsnapshot.submitted, hsnapshot.finalized, ← htarget]
    refine ⟨hsnapshot.target, rfl, rfl, hcount, ⟨fun hv => ?_, fun hall => ?_⟩, fun hv => ?_⟩
    · obtain ⟨hsubmitted, hzero⟩ := hsnapshot.success hv
      refine ⟨hsubmitted, ?_, hzero⟩
      rw [← hsubmitted, ← UInt32.toNat_inj, hcount, hzero, Nat.add_zero]
    · by_contra hv
      exact hsnapshot.failure hv hall.2.2
    · have hsome := hsnapshot.failure hv
      rw [UInt32.lt_iff_toNat_lt]
      omega

end Run

end ChainWatch
