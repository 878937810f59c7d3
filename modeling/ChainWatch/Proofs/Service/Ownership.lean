import ChainWatch.Proofs.Service.Orderly

/-!
# One live run, ended by its owner's means

Many callers wait for runs at the same time, most of them for runs that are over, and each comes
back to the service when it likes. This file says what they can do to each other
(`live_run_owned`): at most one run is live, it is ended by settling, by a command that dismisses it
or by its own caller, and whoever clears up after another run leaves it alone.

* `Task.EndedBy` — what ends a live run;
* `Service.EndsAt` — the event of a history that has ended a run.

That there is one live run follows from the invariant that it is the service's own. A caller who
gets the report of its run makes the service forget its own run only if it is the one that has
settled, so not the live one.
-/

namespace ChainWatch

namespace Service

variable {s : Service} {e : ServiceEvent} {t : Task} {run run' : RunId} {es : List ServiceEvent}

/-- Along a history `es`, the event `e` that follows `before` ends a live run. -/
structure EndsAt (s : Service) (es before : List ServiceEvent) (e : ServiceEvent) (run : RunId) :
    Prop where
  split : ∃ later, es = before ++ e :: later
  ended : ∃ t, (s.after before).task? run = some t ∧ t.phase = .driving ∧ t.EndedBy e

theorem EndsAt.concat {before : List ServiceEvent} (h : s.EndsAt es before e run)
    (last : ServiceEvent) : s.EndsAt (es ++ [last]) before e run := by
  obtain ⟨later, rfl⟩ := h.split
  exact ⟨⟨later ++ [last], by simp⟩, h.ended⟩

namespace Orderly

theorem eq_of_isLive (h : s.Orderly) (hrun : s.IsLive run) (hrun' : s.IsLive run') :
    run = run' := by
  obtain ⟨t, ht, hlive⟩ := hrun
  obtain ⟨t', ht', hlive'⟩ := hrun'
  have hown := (h.of_isLive ht hlive).1
  have hown' := (h.of_isLive ht' hlive').1
  exact Option.some.inj (hown.symm.trans hown')

/-- What an event starts is there afterwards, as new. -/
theorem task?_of_started (h : s.Orderly) (hstarted : (s.react e).2.started? = some run) :
    ∃ params, (s.react e).1.task? run = some (s.newTask params) := by
  have hids := s.started?_react e
  rw [hstarted] at hids
  have hmem : run ∈ (s.newcomers e).map Task.id := by
    rw [← hids]
    exact List.mem_singleton_self run
  obtain ⟨t, ht, hid⟩ := List.mem_map.mp hmem
  obtain ⟨-, -, r, params, -, -, rfl⟩ := active_react_of_newcomers ht
  refine ⟨params, (h.react e).task?_eq_some_iff.mpr ⟨?_, hid⟩⟩
  rw [tasks_react h.nodup]
  exact List.mem_append_right _ ht

/-- A run becomes live only by being started. -/
theorem started_of_isLive (h : s.Orderly) (hover : ¬ s.IsLive run)
    (hlive : (s.react e).1.IsLive run) : (s.react e).2.started? = some run := by
  -- no passage leads to a live run but from one
  obtain ⟨t', ht', hlive'⟩ := hlive
  rcases h.task?_or_newcomer ht' with ⟨t, ht⟩ | ⟨-, hnew⟩
  · -- a run that there was before would have been live
    obtain ⟨u, hu, hpassage⟩ := h.passage_react ht e
    obtain rfl := Option.some.inj (ht'.symm.trans hu)
    exact absurd ⟨t, ht, hpassage.live hlive'⟩ hover
  · have hid := ((h.react e).task?_eq_some_iff.mp ht').2
    have hids := s.started?_react e
    have hmem : run ∈ (s.react e).2.started?.toList := by
      rw [hids, ← hid]
      exact List.mem_map_of_mem hnew
    exact Option.mem_toList.mp hmem

/-- Whoever comes back for a run, or leaves it, changes no other run and does not make the service
forget another one. -/
theorem cleanUp_other (h : s.Orderly) (hne : run ≠ run')
    (he : e = .resume run ∨ e = .hangUp run) :
    (s.react e).1.task? run' = s.task? run' ∧
      (s.active = some run' → (s.react e).1.active = some run') := by
  have hcommand : e.command? = none := by rcases he with rfl | rfl <;> rfl
  constructor
  -- the tasks first, and then what the service calls its own
  · cases ht : s.task? run' with
    | some t =>
      have hid := (h.task?_eq_some_iff.mp ht).2
      have hother : t.id ≠ run := by
        rw [hid]
        exact hne.symm
      have hundergo : s.undergo e t = t := by
        rcases he with rfl | rfl <;> exact if_neg hother
      rw [h.task?_react ht e, hundergo]
    | none =>
      rw [Option.eq_none_iff_forall_ne_some]
      intro t' ht'
      rcases h.task?_or_newcomer ht' with ⟨t, hsome⟩ | ⟨-, hnew⟩
      · rw [ht] at hsome
        cases hsome
      · rw [newcomers, hcommand] at hnew
        cases hnew
  · intro hactive
    rcases (react_of_command?_eq_none (s := s) hcommand).2.2 with
      hsame | ⟨t, report, -, heq, hown, -⟩
    · exact hsame.trans hactive
    · -- the service forgets the run of the caller, which is not this one
      have hid : t.id = run := by
        rcases he with rfl | rfl
        · cases heq
          rfl
        · cases heq
      rw [hactive, hid] at hown
      exact absurd (Option.some.inj hown).symm hne

end Orderly

/-- A run that was started is live, or some event has ended it. -/
theorem isLive_or_endsAt (schedule : Schedule) (defaultUrl : String)
    (hperiods : schedule.hasPeriods = true)
    (hrun : run ∈ (initial schedule defaultUrl).started es) :
    ((initial schedule defaultUrl).after es).IsLive run ∨
      ∃ before e, (initial schedule defaultUrl).EndsAt es before e run := by
  induction es using List.reverseRecOn with
  | nil => cases hrun
  | append_singleton es e ih =>
    have h := orderly_after schedule defaultUrl es
    rw [started_concat, List.mem_append] at hrun
    rw [after_concat]
    rcases hrun with hold | hnew
    · rcases ih hold with ⟨t, ht, hlive⟩ | ⟨before, e', hends⟩
      · by_cases hended : t.EndedBy e
        · exact Or.inr ⟨es, e, ⟨[], rfl⟩, t, ht, hlive, hended⟩
        · exact Or.inl ((h.isLive_react_iff ht hlive e).mpr hended)
      · exact Or.inr ⟨before, e', hends.concat e⟩
    · -- it has just been started
      obtain ⟨params, ht⟩ := h.task?_of_started (Option.mem_toList.mp hnew)
      refine Or.inl ⟨_, ht, ?_⟩
      have hschedule := (initial schedule defaultUrl).schedule_after es
      exact if_pos (by rw [hschedule]; exact hperiods)

/-- **One live run, ended by its owner's means.** Whatever happens to a service, at most one of its
runs is live. A live run is ended exactly by what `Task.EndedBy` lists: it settles, a list of nodes
is given that is one, the service is told to stop, or its own caller hangs up; one that was told to
end sends nothing more and is cancelled at its next turn. A run becomes live only by being started,
and under a schedule with periods every run that was started is live until one of these events. A
caller who comes back for its run or hangs up changes no other run, and the service does not forget
another run because of it. -/
theorem live_run_owned (schedule : Schedule) (defaultUrl : String) (es : List ServiceEvent) :
    let s := (initial schedule defaultUrl).after es
    (∀ run run', s.IsLive run → s.IsLive run' → run = run') ∧
    (∀ run t e, s.task? run = some t → t.phase = .driving →
      (¬ (s.react e).1.IsLive run ↔ t.EndedBy e)) ∧
    (∀ run t event now, s.task? run = some t → t.phase = .aborting →
      (s.drive run event now).2 = [] ∧
        (s.drive run event now).1.task? run = some { t with phase := .cancelled }) ∧
    (∀ run e, ¬ s.IsLive run → (s.react e).1.IsLive run → (s.react e).2.started? = some run) ∧
    (schedule.hasPeriods = true → ∀ run ∈ (initial schedule defaultUrl).started es,
      s.IsLive run ∨ ∃ before e, (initial schedule defaultUrl).EndsAt es before e run) ∧
    (∀ run run' e, run ≠ run' → e = .resume run ∨ e = .hangUp run →
      (s.react e).1.task? run' = s.task? run' ∧
        (s.active = some run' → (s.react e).1.active = some run')) := by
  intro s
  have h : s.Orderly := orderly_after schedule defaultUrl es
  refine ⟨fun run run' => h.eq_of_isLive, fun run t e ht hlive => ?_,
    fun run t event now ht haborting => h.drive_of_aborting ht haborting event now,
    fun run e => h.started_of_isLive,
    fun hperiods run => isLive_or_endsAt schedule defaultUrl hperiods,
    fun run run' e => h.cleanUp_other⟩
  rw [h.isLive_react_iff ht hlive e, not_not]

end Service

end ChainWatch
