import ChainWatch.Proofs.Run.Balance
import ChainWatch.Proofs.Run.Registration

/-!
# Judging by the order of the ids

A run that judges its watches goes through them in the order of their ids and stops at the first
that fails. `Run.FailsFirst` says which one that is without speaking of a loop: it is in flight, it
fails, and no watch of a lesser id does. There is at most one such watch (`FailsFirst.unique`), and
judging settles the run by it if there is one, and else leaves the run as it is (`evaluate_cases`).

What a judgement depends on is therefore the set of the watches, and not the order in which they
came. `judgement_by_ids` says both: that no failing watch is missed and the least id decides, and
that a run whose transactions were registered in another order goes on in the same way.
-/

namespace ChainWatch

namespace Deadlines

/-- An open watch that is past the hard deadline fails. -/
theorem assess_of_hard_lt {d : Deadlines} {w : Watch} {now : Moment} (hw : w.IsOpen)
    (hhard : d.hard < w.age now) : d.assess w now = .failed .timedOut := by
  have hfork : w.fork?.isSome = false := by
    rw [Watch.fork?_eq_none_iff.mpr hw.agrees]
    rfl
  unfold assess
  rw [hfork, hw.not_final, if_neg Bool.false_ne_true, if_neg Bool.false_ne_true, if_pos hhard]

end Deadlines

namespace Run

variable {r : Run} {now : Moment} {w w' : Watch} {v v' : Verdict}

/-- Of the watches that fail at a moment, this one has the least id, and it fails with `v`. -/
structure FailsFirst (r : Run) (now : Moment) (w : Watch) (v : Verdict) : Prop where
  inFlight : w ∈ r.watches.watches
  fails : r.deadlines.assess w now = .failed v
  first : ∀ u ∈ r.watches.watches, u.id < w.id → ∀ v', r.deadlines.assess u now ≠ .failed v'

theorem FailsFirst.unique (h : r.FailsFirst now w v) (h' : r.FailsFirst now w' v') :
    w = w' ∧ v = v' := by
  have heq : w = w' := by
    by_contra hne
    have hids : w.id ≠ w'.id := fun hid => hne (WatchTable.eq_of_id_eq h.inFlight h'.inFlight hid)
    by_cases hlt : w.id < w'.id
    · exact h'.first w h.inFlight hlt v h.fails
    · exact h.first w' h'.inFlight (CorrelationId.lt_of_not_lt_of_ne hlt hids) v' h'.fails
  subst heq
  exact ⟨rfl, Assessment.failed.inj (h.fails.symm.trans h'.fails)⟩

/-- Judging a run that has something left to do settles it by the watch that fails first, or finds
that all watches wait and leaves the run as it is. -/
theorem evaluate_cases (h : r.Orderly) (hr : r.report = none) (hbusy : ¬ r.IsComplete)
    (now : Moment) :
    (∃ w v, r.FailsFirst now w v ∧
        r.evaluate now = (r.ended v (some (r.diagnose w now)), some v)) ∨
      (∀ w ∈ r.watches.watches, r.deadlines.assess w now = .waiting) ∧
        r.evaluate now = (r, none) := by
  have hreact : Reaction r (.evaluate now) (r.evaluate now).1 (.verdict (r.evaluate now).2) :=
    reaction_of_allOpen hr h.allOpen (.evaluate now)
  generalize r.evaluate now = p at hreact ⊢
  obtain ⟨r', v⟩ := p
  cases hreact with
  | waited _ hcalm => exact Or.inr ⟨hcalm, rfl⟩
  | @failed _ w v hw hfail hfirst =>
    refine Or.inl ⟨w, v, ⟨hw, hfail, fun u hu hlt v' hfails => ?_⟩, rfl⟩
    -- the watches before the one that decides are known to wait
    rw [hfirst u hu hlt] at hfails
    cases hfails
  | vacuous hdone => exact absurd hdone hbusy

theorem evaluate_of_failsFirst (h : r.Orderly) (hr : r.report = none) (hbusy : ¬ r.IsComplete)
    (hfirst : r.FailsFirst now w v) :
    r.evaluate now = (r.ended v (some (r.diagnose w now)), some v) := by
  rcases evaluate_cases h hr hbusy now with ⟨w', v', hfirst', heq⟩ | ⟨hcalm, -⟩
  · obtain ⟨rfl, rfl⟩ := hfirst.unique hfirst'
    exact heq
  · have hwaits := hcalm w hfirst.inFlight
    rw [hfirst.fails] at hwaits
    cases hwaits

theorem evaluate_snd_iff (h : r.Orderly) (hr : r.report = none) (hbusy : ¬ r.IsComplete) :
    (r.evaluate now).2 = some v ↔ ∃ w, r.FailsFirst now w v := by
  constructor
  · intro hv
    rcases evaluate_cases h hr hbusy now with ⟨w, v', hfirst, heq⟩ | ⟨-, heq⟩
    · rw [heq] at hv
      obtain rfl : v' = v := Option.some.inj hv
      exact ⟨w, hfirst⟩
    · rw [heq] at hv
      cases hv
  · rintro ⟨w, hfirst⟩
    rw [evaluate_of_failsFirst h hr hbusy hfirst]

/-- No watch that fails is missed. -/
theorem isSome_evaluate_iff (h : r.Orderly) (hr : r.report = none) (hbusy : ¬ r.IsComplete) :
    (r.evaluate now).2.isSome = true ↔
      ∃ w ∈ r.watches.watches, ∃ v, r.deadlines.assess w now = .failed v := by
  rcases evaluate_cases h hr hbusy now with ⟨w, v, hfirst, heq⟩ | ⟨hcalm, heq⟩
  · rw [heq]
    exact iff_of_true rfl ⟨w, hfirst.inFlight, v, hfirst.fails⟩
  · rw [heq]
    refine iff_of_false Bool.false_ne_true ?_
    rintro ⟨w, hw, v, hfail⟩
    rw [hcalm w hw] at hfail
    cases hfail

/-- **Judging misses no failing watch and depends on ids only.** A run that has something to submit
and has not settled is settled by a judgement exactly if some watch fails, as every watch does that
is past the hard deadline; and then the failing watch with the least id decides. Transactions that
are taken one after the other may as well have come in another order: the run goes on in the same
way, in every reply and in every state. -/
theorem judgement_by_ids (nodes : NodeList) (target : UInt32) (deadlines : Deadlines)
    (es : List RunEvent) :
    let first := start nodes target deadlines
    let r := first.after es
    (0 < target → r.report = none → ∀ now,
      ((r.evaluate now).2.isSome = true ↔
        ∃ w ∈ r.watches.watches, ∃ v, r.deadlines.assess w now = .failed v) ∧
      (∀ w ∈ r.watches.watches, r.deadlines.hard < w.age now →
        (r.evaluate now).2.isSome = true) ∧
      (∀ v, (r.evaluate now).2 = some v ↔ ∃ w, r.FailsFirst now w v) ∧
      ∀ w v, r.FailsFirst now w v →
        (r.evaluate now).1.report = some ⟨v, some (r.diagnose w now), r.progress⟩) ∧
    ∀ ps qs later, ps.Perm qs → r.Takes ps →
      first.replies (es ++ qs.map registration ++ later)
          = first.replies (es ++ ps.map registration ++ later) ∧
        first.after (es ++ qs.map registration ++ later)
          = first.after (es ++ ps.map registration ++ later) := by
  intro first r
  have h : r.Orderly := orderly_after nodes target deadlines es
  refine ⟨fun hpos hr now => ?_, fun ps qs later hperm htakes => ?_⟩
  · have htarget : r.target = target :=
      (sameTask_after (orderly_start nodes target deadlines) es).target
    have hbusy : ¬ r.IsComplete :=
      (balance_after nodes target deadlines es).busy hr (by rwa [htarget])
    refine ⟨isSome_evaluate_iff h hr hbusy, fun w hw hhard => ?_,
      fun v => evaluate_snd_iff h hr hbusy, fun w v hfirst => ?_⟩
    · have hfail := Deadlines.assess_of_hard_lt (h.allOpen w hw) hhard
      exact (isSome_evaluate_iff h hr hbusy).mpr ⟨w, hw, _, hfail⟩
    · rw [evaluate_of_failsFirst h hr hbusy hfirst]
      rfl
  · -- the block leads to one run in both orders, so the rest does not tell them apart
    obtain ⟨htakes', hafter⟩ := htakes.perm hperm
    have hblock : r.replies (qs.map registration) = r.replies (ps.map registration) := by
      rw [htakes.replies_eq, htakes'.replies_eq, hperm.length_eq]
    constructor
    · calc first.replies (es ++ qs.map registration ++ later)
          = first.replies es ++ r.replies (qs.map registration)
              ++ (r.after (qs.map registration)).replies later := by
            rw [replies_append, replies_append, after_append]
        _ = first.replies es ++ r.replies (ps.map registration)
              ++ (r.after (ps.map registration)).replies later := by
            rw [hblock, hafter]
        _ = first.replies (es ++ ps.map registration ++ later) := by
            rw [replies_append, replies_append, after_append]
    · rw [after_append, after_append, after_append, after_append]
      exact congrArg (fun q => q.after later) hafter

/-- Two transactions, of which the one with the greater id comes first. -/
def lateComers : List (CorrelationId × Moment) :=
  [(.ofNat 1, .start), (.zero, .ofMillis 1000)]

/-- Both are given up at once, and it is the lesser id that decides, whichever came first. -/
theorem judgement_by_ids_late :
    let r := (start .pair 2 {}).after (lateComers.map registration)
    (∃ w, r.FailsFirst (.ofMillis 300000) w .timedOut ∧ w.id = .zero) ∧
    (start .pair 2 {}).replies (lateComers.reverse.map registration ++ [.evaluate (.ofMillis 300000)])
      = (start .pair 2 {}).replies (lateComers.map registration ++ [.evaluate (.ofMillis 300000)]) := by
  intro r
  constructor
  · have hopen : r.report = none := by decide +kernel
    obtain ⟨-, -, hwho, hreport⟩ :=
      (judgement_by_ids .pair 2 {} (lateComers.map registration)).1 (by decide) hopen
        (.ofMillis 300000)
    obtain ⟨w, hfirst⟩ := (hwho .timedOut).mp (by decide +kernel)
    refine ⟨w, hfirst, ?_⟩
    -- the report names the watch that was given up
    have hnamed : (r.evaluate (.ofMillis 300000)).1.report.bind (fun x =>
        x.diagnosis.map (·.correlationId)) = some .zero := by decide +kernel
    rw [hreport w .timedOut hfirst] at hnamed
    exact Option.some.inj hnamed
  · have hsame := (judgement_by_ids .pair 2 {} []).2 lateComers lateComers.reverse
      [.evaluate (.ofMillis 300000)] (List.reverse_perm lateComers).symm (by decide +kernel)
    exact hsame.1

end Run

end ChainWatch
