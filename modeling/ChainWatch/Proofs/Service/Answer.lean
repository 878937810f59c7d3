import ChainWatch.Proofs.Run.Diagnosis
import ChainWatch.Proofs.Service.Orderly

/-!
# Every caller gets one answer, and a true one

Whoever asks for a run waits for it, and the run's end travels a long way to its caller: through the
phase of the task, past commands that cancel this run and start others, to a caller who comes back
at any time. This file says that the answer is right whatever the way (`run_answered_truthfully`).

* `Task.delivered` — the responses that the caller of a task has got. It is a function of the task,
  and what a history delivers to the caller of a run is what the task says (`answers_eq`);
* `Service.outcomes` — the same apart from HTTP: what the caller of a run is told, and that it stays
  true (`answers_eq_map_outcomes`, `Orderly.outcome?_of_mem_outcomes`);
* `Http.Response.ofReport`, `Http.Response.gone` — the two answers that there are, as they go over
  HTTP.

The phase of a task is the one place that an end is read from, and it is written once: a run that
has settled is not cancelled any more, and a cancelled run never settles. So it makes no difference
to the answer what happens between the end of a run and the moment at which its caller looks.
-/

namespace ChainWatch

namespace Http.Response

/-- The answer to the caller of a run that has settled. -/
def ofReport (report : RunReport) : Response where
  status := 200
  mediaType := some jsonMediaType
  body := encodeUtf8 (Reply.write ⟨.verdict, report.verdict.message, report.diagnosis⟩)

/-- The answer to the caller of a run that was cancelled. -/
def gone : Response where
  status := 410
  body := []

end Http.Response

namespace Task

variable {t t' : Task} {e : ServiceEvent} {own : Prop} {deadlines : Deadlines}

/-- What the caller of a task has got. -/
def delivered (t : Task) : List Http.Response :=
  if t.caller = .answered then (t.phase.outcome?.map Http.Response.ofOutcome).toList else []

theorem delivered_of_caller_ne (h : t.caller ≠ .answered) : t.delivered = [] := if_neg h

theorem delivered_of_answered (h : t.caller = .answered) :
    t.delivered = (t.phase.outcome?.map Http.Response.ofOutcome).toList := if_pos h

/-- A response is delivered to a caller who waits, and it is the one that tells the phase. -/
theorem delivered_resume (t : Task) :
    t.resume.delivered = t.delivered ++ (t.answer?.map Http.Response.ofOutcome).toList := by
  by_cases hready : t.caller = .waiting ∧ t.phase.isFinished = true
  · have hresume : t.resume = { t with caller := .answered } := if_pos hready
    -- nothing had been delivered, and now the caller gets what the phase tells
    have hbefore : t.delivered = [] := delivered_of_caller_ne (by simp [hready.1])
    rw [hresume, hbefore, answer?, if_pos hready.1]
    rfl
  · have hresume : t.resume = t := if_neg hready
    rw [hresume, answer?_eq_none hready]
    exact (List.append_nil _).symm

/-- Nothing else delivers anything. -/
theorem Passage.delivered_eq (h : Passage own t e t') (horderly : t.Orderly deadlines)
    (he : e ≠ .resume t.id) : t'.delivered = t.delivered := by
  -- the caller of a run that has not finished was not answered
  have hunfinished {u : Task} (hfinished : t.phase.isFinished = false)
      (hcaller : u.caller = .answered → t.caller = .answered) : u.delivered = t.delivered := by
    have hnot : t.caller ≠ .answered := fun h => by simp [horderly.finished h] at hfinished
    rw [delivered_of_caller_ne hnot, delivered_of_caller_ne fun h => hnot (hcaller h)]
  cases h with
  | driven hlive _ => exact hunfinished (by rw [hlive]; rfl) fun h => h
  | settled hlive _ => exact hunfinished (by rw [hlive]; rfl) fun h => h
  | dismissed hlive _ _ => exact hunfinished (by rw [hlive]; rfl) fun h => h
  | abandoned hlive _ => exact hunfinished (by rw [hlive]; rfl) nofun
  -- a caller who waited has got nothing, and gets nothing any more
  | left _ hwaiting =>
    rw [delivered_of_caller_ne (t := t) (by simp [hwaiting])]
    exact delivered_of_caller_ne (by simp)
  | cancelled haborting _ => exact hunfinished (by rw [haborting]; rfl) fun h => h
  | answered _ _ => exact absurd rfl he
  | kept _ _ _ => rfl

end Task

namespace Run

/-- A diagnosis comes with every failure, and with no success. -/
theorem diagnosis_eq_none_iff {nodes : NodeList} {target : UInt32} {deadlines : Deadlines}
    {es : List RunEvent} {report : RunReport}
    (hreport : ((start nodes target deadlines).after es).report = some report) :
    report.diagnosis = none ↔ report.verdict = .success := by
  obtain ⟨before, e, hsettles⟩ := exists_settlesAt rfl hreport
  have horderly := orderly_after nodes target deadlines before
  have hreact := reaction_of_allOpen hsettles.unsettled horderly.allOpen e
  rcases justified_of_reaction horderly hsettles.unsettled hreact hsettles.settles with
    ⟨hv, hd⟩ | ⟨d, w, now, hd, hv, -⟩
  · exact iff_of_true hd hv
  · exact iff_of_false (by simp [hd]) hv

end Run

namespace Service

variable {s : Service} {e : ServiceEvent} {t : Task} {run : RunId} {es : List ServiceEvent}

/-- The report of a run that has settled. -/
def report? (s : Service) (run : RunId) : Option RunReport :=
  (s.task? run).bind fun t => t.loop.run.report

/-! ### What is delivered -/

theorem resume_snd (s : Service) (run : RunId) :
    (s.resume run).2 = (s.task? run).bind Task.answer? := by
  have hresumes := s.resumes_resume run
  generalize (s.resume run).1 = s', (s.resume run).2 = outcome at hresumes
  cases hresumes with
  | waits hnot =>
    exact (Option.bind_eq_none_iff.mpr fun t ht => Task.answer?_eq_none (hnot t ht)).symm
  | settled ht hwaiting hphase =>
    rw [ht, Option.bind_some, Task.answer?, if_pos hwaiting, hphase]
    rfl
  | cancelled ht hwaiting hphase =>
    rw [ht, Option.bind_some, Task.answer?, if_pos hwaiting, hphase]
    rfl

/-- The caller of a run gets something only when it looks. -/
theorem answer?_react_of_ne (he : e ≠ .resume run) : (s.react e).2.answer? run = none := by
  cases e with
  | resume run' => exact if_neg fun hrun => he (by rw [hrun])
  | _ => rfl

theorem answer?_react_resume (s : Service) (run : RunId) :
    (s.react (.resume run)).2.answer? run
      = ((s.task? run).bind Task.answer?).map Http.Response.ofOutcome := by
  rw [← resume_snd]
  exact if_pos rfl

theorem Orderly.delivered_react (h : s.Orderly) (ht : s.task? run = some t) (e : ServiceEvent) :
    (s.undergo e t).delivered = t.delivered ++ ((s.react e).2.answer? run).toList := by
  obtain ⟨hmem, rfl⟩ := h.task?_eq_some_iff.mp ht
  by_cases he : e = .resume t.id
  · subst he
    have hundergo : s.undergo (.resume t.id) t = t.resume := if_pos rfl
    rw [hundergo, answer?_react_resume, ht]
    exact t.delivered_resume
  · rw [answer?_react_of_ne he, (Task.passage_undergo s e t).delivered_eq (h.tasks t hmem) he]
    exact (List.append_nil _).symm

/-- What a history delivers to the caller of a run is what the task of the run says. -/
theorem answers_eq (schedule : Schedule) (defaultUrl : String) (run : RunId)
    (es : List ServiceEvent) :
    (initial schedule defaultUrl).answers run es
      = (((initial schedule defaultUrl).after es).task? run).elim [] Task.delivered := by
  induction es using List.reverseRecOn with
  | nil => rfl
  | append_singleton es e ih =>
    have h := orderly_after schedule defaultUrl es
    rw [answers_concat, ih, after_concat]
    -- both sides grow by what the last event delivers
    generalize (initial schedule defaultUrl).after es = s at h
    cases ht : s.task? run with
    | some t =>
      rw [h.task?_react ht e]
      exact (h.delivered_react ht e).symm
    | none =>
      have hnothing : (s.react e).2.answer? run = none := by
        by_cases he : e = .resume run
        · rw [he, answer?_react_resume, ht]
          rfl
        · exact answer?_react_of_ne he
      rw [hnothing]
      cases ht' : (s.react e).1.task? run with
      | none => rfl
      | some t' =>
        -- a run that has just been started has delivered nothing
        rcases h.task?_or_newcomer ht' with ⟨t, hsome⟩ | ⟨-, hnew⟩
        · rw [ht] at hsome
          cases hsome
        · obtain ⟨-, -, r, params, -, -, rfl⟩ := Orderly.active_react_of_newcomers hnew
          exact (Task.delivered_of_caller_ne (by simp [newTask])).symm

/-- A caller who has hung up did so along the history. -/
theorem caller_ne_hungUp {schedule : Schedule} {defaultUrl : String}
    (ht : ((initial schedule defaultUrl).after es).task? run = some t)
    (hstays : .hangUp run ∉ es) : t.caller ≠ .hungUp := by
  have hid := ((orderly_after schedule defaultUrl es).task?_eq_some_iff.mp ht).2
  refine of_task?_after (P := fun t => t.id = run → t.caller ≠ .hungUp)
    (fun s params _ => by simp [newTask]) (fun e he hpassage hP hid => ?_) ht hid
  have hkept := hP (hpassage.id_eq ▸ hid)
  cases hpassage with
  | abandoned _ _ => exact absurd (hid ▸ he) hstays
  | left _ _ => exact absurd (hid ▸ he) hstays
  | answered _ _ => simp
  | _ => exact hkept

namespace Orderly

/-- A run that has settled has the report that its task tells. -/
theorem phase_of_report? (h : s.Orderly) {report : RunReport}
    (hreport : s.report? run = some report) :
    ∃ t, s.task? run = some t ∧ t.phase = .settled report ∧
      (report.diagnosis = none ↔ report.verdict = .success) := by
  obtain ⟨t, ht, hrun⟩ := Option.bind_eq_some_iff.mp hreport
  have horderly := h.tasks t (h.task?_eq_some_iff.mp ht).1
  refine ⟨t, ht, ?_, ?_⟩
  · have hphase : t.phase.report? = some report := horderly.report?_eq.symm.trans hrun
    cases hcases : t.phase with
    | settled report' =>
      rw [hcases] at hphase
      rw [Option.some.inj hphase]
    | _ =>
      rw [hcases] at hphase
      cases hphase
  · obtain ⟨told, hrun_eq⟩ := horderly.run_eq
    rw [hrun_eq] at hrun
    exact Run.diagnosis_eq_none_iff hrun

theorem report?_of_phase (h : s.Orderly) (ht : s.task? run = some t) :
    s.report? run = t.phase.report? := by
  rw [report?, ht]
  exact (h.tasks t (h.task?_eq_some_iff.mp ht).1).report?_eq

theorem task?_after_of_settled (h : s.Orderly) {report : RunReport}
    (hreport : s.report? run = some report) (es : List ServiceEvent) :
    ∃ t, (s.after es).task? run = some t ∧ t.phase = .settled report := by
  obtain ⟨t, ht, hphase, -⟩ := h.phase_of_report? hreport
  obtain ⟨t', ht', -, hstays⟩ := h.task?_after_of_isFinished ht (by rw [hphase]; rfl) es
  exact ⟨t', ht', hstays.trans hphase⟩

/-- A run that was dismissed while it was live never settles. -/
theorem task?_after_of_dismissed (h : s.Orderly) (hlive : s.IsLive run)
    (he : e.dismisses = true) (es : List ServiceEvent) :
    ∃ t, (s.after (e :: es)).task? run = some t ∧ (t.phase = .aborting ∨ t.phase = .cancelled) := by
  obtain ⟨t, ht, hdriving⟩ := hlive
  obtain ⟨hown, hwaiting⟩ := h.of_isLive ht hdriving
  obtain ⟨t', ht', hpassage⟩ := h.passage_react ht e
  have hended := hpassage.phase_of_endedBy hdriving hown hwaiting (Task.endedBy_iff.mpr (Or.inl he))
  have haborting : t'.phase = .aborting :=
    hended.resolve_left fun hsettled => by rw [he] at hsettled; cases hsettled.2
  obtain ⟨u, hu, -, hover⟩ := (h.react e).task?_after_of_aborting ht' haborting es
  exact ⟨u, hu, hover⟩

/-- A caller who waits gets the answer of a finished run by looking. -/
theorem delivered_react_resume (h : s.Orderly) (ht : s.task? run = some t)
    (hfinished : t.phase.isFinished = true) (hstays : t.caller ≠ .hungUp) :
    ∃ t', (s.react (.resume run)).1.task? run = some t' ∧ t'.phase = t.phase ∧
      t'.caller = .answered := by
  refine ⟨_, h.task?_react ht (.resume run), ?_, ?_⟩
  · exact (Task.passage_undergo s _ t).phase_of_isFinished hfinished
  · have hundergo : s.undergo (.resume run) t = t.resume := if_pos (h.task?_eq_some_iff.mp ht).2
    rw [hundergo, Task.resume]
    split
    · rfl
    · next hnot =>
      cases hcaller : t.caller with
      | waiting => exact absurd ⟨hcaller, hfinished⟩ hnot
      | answered => rfl
      | hungUp => exact absurd hcaller hstays

end Orderly

/-! ### What is told -/

/-- What the caller of a run is told at an event. -/
def told? (s : Service) (run : RunId) : ServiceEvent → Option Outcome
  | .resume run' => if run' = run then (s.resume run).2 else none
  | _ => none

/-- What the caller of a run is told along some events. -/
def outcomes (s : Service) (run : RunId) : List ServiceEvent → List Outcome
  | [] => []
  | e :: es => (s.told? run e).toList ++ (s.react e).1.outcomes run es

theorem answer?_react (s : Service) (run : RunId) (e : ServiceEvent) :
    (s.react e).2.answer? run = (s.told? run e).map .ofOutcome := by
  cases e with
  | resume run' =>
    by_cases hrun : run' = run
    · subst hrun
      have hanswer : (s.react (.resume run')).2.answer? run'
          = (s.resume run').2.map .ofOutcome := if_pos rfl
      rw [hanswer, told?, if_pos rfl]
    · have hanswer : (s.react (.resume run')).2.answer? run = none := if_neg hrun
      rw [hanswer, told?, if_neg hrun]
      rfl
  | _ => rfl

/-- What a caller gets over HTTP is what it is told. -/
theorem answers_eq_map_outcomes (s : Service) (run : RunId) (es : List ServiceEvent) :
    s.answers run es = (s.outcomes run es).map .ofOutcome := by
  induction es generalizing s with
  | nil => rfl
  | cons e es ih =>
    have hcons : s.answers run (e :: es)
        = ((s.react e).2.answer? run).toList ++ (s.react e).1.answers run es := by
      rw [answers, replies_cons, List.filterMap_cons]
      cases (s.react e).2.answer? run <;> rfl
    rw [hcons, ih, answer?_react, outcomes, List.map_append]
    cases s.told? run e <;> rfl

/-- What a caller was told stays true. -/
theorem Orderly.outcome?_of_mem_outcomes (h : s.Orderly) {o : Outcome} (ho : o ∈ s.outcomes run es) :
    ∃ t, (s.after es).task? run = some t ∧ t.phase.outcome? = some o := by
  induction es generalizing s with
  | nil => cases ho
  | cons e es ih =>
    rw [outcomes, List.mem_append, Option.mem_toList] at ho
    rcases ho with hnow | hlater
    · -- the run has ended when its caller is told, and nothing changes its end
      cases e with
      | resume run' =>
        rw [told?] at hnow
        split at hnow
        · next hrun =>
          subst hrun
          rw [resume_snd, Option.bind_eq_some_iff] at hnow
          obtain ⟨t, ht, hanswer⟩ := hnow
          have houtcome : t.phase.outcome? = some o := by
            unfold Task.answer? at hanswer
            split at hanswer
            · exact hanswer
            · cases hanswer
          have hfinished : t.phase.isFinished = true := by
            by_contra hgoing
            rw [Phase.outcome?_eq_none (Bool.eq_false_iff.mpr hgoing)] at houtcome
            cases houtcome
          obtain ⟨t', ht', -, hphase⟩ :=
            h.task?_after_of_isFinished ht hfinished (.resume run' :: es)
          exact ⟨t', ht', by rw [hphase, houtcome]⟩
        · cases hnow
      | _ => cases hnow
    · exact ih (h.react e) hlater

/-! ### The answer -/

section Answer

variable {schedule : Schedule} {defaultUrl : String}

/-- The caller has got nothing yet, or what has come of its run. -/
theorem answers_of_task? (ht : ((initial schedule defaultUrl).after es).task? run = some t) :
    (initial schedule defaultUrl).answers run es = [] ∨
      (initial schedule defaultUrl).answers run es
        = (t.phase.outcome?.map Http.Response.ofOutcome).toList := by
  rw [answers_eq, ht, Option.elim_some]
  by_cases hanswered : t.caller = .answered
  · exact Or.inr (Task.delivered_of_answered hanswered)
  · exact Or.inl (Task.delivered_of_caller_ne hanswered)

/-- A caller who has not hung up has got what has come of its run after it has looked. -/
theorem answers_concat_resume (hstays : .hangUp run ∉ es)
    (ht : ((initial schedule defaultUrl).after es).task? run = some t)
    (hfinished : t.phase.isFinished = true) :
    (initial schedule defaultUrl).answers run (es ++ [.resume run])
      = (t.phase.outcome?.map Http.Response.ofOutcome).toList := by
  have h := orderly_after schedule defaultUrl es
  obtain ⟨t', ht', hphase, hanswered⟩ :=
    h.delivered_react_resume ht hfinished (caller_ne_hungUp ht hstays)
  rw [answers_eq, after_concat, ht', Option.elim_some, Task.delivered_of_answered hanswered, hphase]

/-- A run that was dismissed is cancelled by its next turn. -/
theorem cancelled_of_turn (ht : ((initial schedule defaultUrl).after es).task? run = some t)
    (hover : t.phase = .aborting ∨ t.phase = .cancelled) {turn : ServiceEvent}
    (hturn : turn.IsTurn run) :
    ∃ t', ((initial schedule defaultUrl).after (es ++ [turn])).task? run = some t' ∧
      t'.phase = .cancelled := by
  have h := orderly_after schedule defaultUrl es
  obtain ⟨t', ht', hpassage⟩ := h.passage_react ht turn
  rw [after_concat]
  refine ⟨t', ht', ?_⟩
  rcases hover with haborting | hcancelled
  · rw [← (h.task?_eq_some_iff.mp ht).2] at hturn
    exact ((hpassage.phase_of_aborting haborting).resolve_left fun hnot => hnot.1 hturn).2
  · exact (hpassage.phase_of_isFinished (by rw [hcancelled]; rfl)).trans hcancelled

/-- An answer tells that the run was cancelled, or how it has settled. -/
theorem eq_of_mem_answers {response : Http.Response}
    (hmem : response ∈ (initial schedule defaultUrl).answers run es) :
    response = .gone ∨ ∃ report,
      ((initial schedule defaultUrl).after es).report? run = some report ∧
        response = .ofReport report := by
  have h := orderly_after schedule defaultUrl es
  cases ht : ((initial schedule defaultUrl).after es).task? run with
  | none =>
    rw [answers_eq, ht] at hmem
    cases hmem
  | some t =>
    rcases answers_of_task? ht with hnone | hsome
    · rw [hnone] at hmem
      cases hmem
    · rw [hsome, Option.mem_toList] at hmem
      cases hphase : t.phase with
      | settled report =>
        rw [hphase] at hmem
        refine Or.inr ⟨report, ?_, (Option.some.inj hmem).symm⟩
        rw [h.report?_of_phase ht, hphase]
        rfl
      | cancelled =>
        rw [hphase] at hmem
        exact Or.inl (Option.some.inj hmem).symm
      | _ =>
        rw [hphase] at hmem
        cases hmem

theorem answers_of_settled {before later : List ServiceEvent} {report : RunReport}
    (hstays : .hangUp run ∉ before ++ later)
    (hreport : ((initial schedule defaultUrl).after before).report? run = some report) :
    (report.diagnosis = none ↔ report.verdict = .success) ∧
      ((initial schedule defaultUrl).answers run (before ++ later) = [] ∨
        (initial schedule defaultUrl).answers run (before ++ later) = [.ofReport report]) ∧
      (initial schedule defaultUrl).answers run (before ++ later ++ [.resume run])
        = [.ofReport report] := by
  have h := orderly_after schedule defaultUrl before
  obtain ⟨-, -, -, hdiagnosis⟩ := h.phase_of_report? hreport
  -- the end is still there when the caller looks
  obtain ⟨t, ht, hphase⟩ := h.task?_after_of_settled hreport later
  rw [← after_append] at ht
  have houtcome : (t.phase.outcome?.map Http.Response.ofOutcome).toList = [.ofReport report] := by
    rw [hphase]
    rfl
  rw [← houtcome]
  exact ⟨hdiagnosis, answers_of_task? ht, answers_concat_resume hstays ht (by rw [hphase]; rfl)⟩

theorem answers_of_dismissed {before later : List ServiceEvent}
    (hstays : .hangUp run ∉ before ++ e :: later)
    (hlive : ((initial schedule defaultUrl).after before).IsLive run) (he : e.dismisses = true) :
    ((initial schedule defaultUrl).after (before ++ e :: later)).report? run = none ∧
      ((initial schedule defaultUrl).answers run (before ++ e :: later) = [] ∨
        (initial schedule defaultUrl).answers run (before ++ e :: later) = [.gone]) ∧
      ∀ turn, turn.IsTurn run →
        (initial schedule defaultUrl).answers run (before ++ e :: later ++ [turn, .resume run])
          = [.gone] := by
  obtain ⟨t, ht, hover⟩ :=
    (orderly_after schedule defaultUrl before).task?_after_of_dismissed hlive he later
  rw [← after_append] at ht
  -- until its turn the run is aborting, and there is no answer; from then on it is cancelled
  refine ⟨?_, ?_, fun turn hturn => ?_⟩
  · rw [(orderly_after schedule defaultUrl _).report?_of_phase ht]
    rcases hover with hphase | hphase <;> rw [hphase] <;> rfl
  · rcases answers_of_task? ht with hnone | hsome
    · exact Or.inl hnone
    · rw [hsome]
      rcases hover with hphase | hphase
      · exact Or.inl (by rw [hphase]; rfl)
      · exact Or.inr (by rw [hphase]; rfl)
  · obtain ⟨t', ht', hcancelled⟩ := cancelled_of_turn ht hover hturn
    have hstays' : .hangUp run ∉ (before ++ e :: later) ++ [turn] := by
      rw [List.mem_append, List.mem_singleton]
      rintro (hmem | rfl)
      · exact hstays hmem
      · exact hturn
    have hanswers := answers_concat_resume hstays' ht' (by rw [hcancelled]; rfl)
    rw [hcancelled, List.append_assoc (before ++ e :: later)] at hanswers
    exact hanswers

end Answer

/-- **Exactly one answer, and a true one.** The caller of a run who does not hang up gets at most
one answer, and none while the run is live.
If the run has settled, the answer is a response of status 200 whose reply is of the kind of
verdicts and tells the verdict of this run and its diagnosis, which there is unless the verdict is
success; the caller has it after it has looked once, whatever has happened in between. If the run
was dismissed while it was live, it never has a report, and the answer is an empty response of
status 410, which the caller has once the run had its turn and the caller has looked. There is no
other answer. -/
theorem run_answered_truthfully (schedule : Schedule) (defaultUrl : String)
    (es : List ServiceEvent) (run : RunId) (hstays : .hangUp run ∉ es) :
    let s₀ := initial schedule defaultUrl
    let s := s₀.after es
    (s₀.answers run es).length ≤ 1 ∧
    (s.IsLive run → s₀.answers run es = []) ∧
    (∀ before later report, es = before ++ later →
      (s₀.after before).report? run = some report →
        (report.diagnosis = none ↔ report.verdict = .success) ∧
        (s₀.answers run es = [] ∨ s₀.answers run es = [.ofReport report]) ∧
        s₀.answers run (es ++ [.resume run]) = [.ofReport report]) ∧
    (∀ before e later, es = before ++ e :: later → (s₀.after before).IsLive run →
      e.dismisses = true →
        s.report? run = none ∧
        (s₀.answers run es = [] ∨ s₀.answers run es = [.gone]) ∧
        ∀ turn, turn.IsTurn run → s₀.answers run (es ++ [turn, .resume run]) = [.gone]) ∧
    (∀ response ∈ s₀.answers run es, response = .gone ∨
      ∃ report, s.report? run = some report ∧ response = .ofReport report) := by
  intro s₀ s
  refine ⟨?_, ?_, ?_, ?_, fun response => eq_of_mem_answers⟩
  · -- what is delivered comes from one option
    rw [answers_eq]
    cases s.task? run with
    | none => exact Nat.zero_le 1
    | some t =>
      rw [Option.elim_some, Task.delivered]
      split
      · exact Option.length_toList_le
      · exact Nat.zero_le 1
  · rintro ⟨t, ht, hlive⟩
    rcases answers_of_task? ht with hnone | hsome
    · exact hnone
    · rw [hsome, hlive]
      rfl
  · rintro before later report rfl hreport
    exact answers_of_settled hstays hreport
  · rintro before e later rfl hlive he
    exact answers_of_dismissed hstays hlive he

/-- One transaction, asked for once. -/
private def oneTransaction : RunRequest := ⟨⟨0x3FF0000000000000⟩, 1, none, none, none⟩

/-- A run that is judged half a minute after its transaction was submitted and never seen. -/
private def lateRun : List ServiceEvent :=
  [.command (.watches ["a"]), .command (.run oneTransaction), .drive 0 (.submitDue .zero) .start,
    .drive 0 .checkDue (.ofMillis 30000)]

/-- A run that is stopped before anything happens to it. -/
private def stoppedRun : List ServiceEvent := [.command (.run oneTransaction), .command .stop]

/-- Two runs, one after the other; both callers come back at the end. -/
theorem run_answered_truthfully_two :
    (∃ report, report.verdict = .neverPacked ∧
      (initial {} "").answers 0 (lateRun ++ stoppedRun ++ [.resume 0]) = [.ofReport report]) ∧
      (initial {} "").answers 1 (lateRun ++ stoppedRun ++ [.yield, .resume 1]) = [.gone] := by
  constructor
  · have hverdict : (((initial {} "").after lateRun).report? 0).map RunReport.verdict
        = some .neverPacked := by decide
    obtain ⟨report, hreport, hverdict⟩ := Option.map_eq_some_iff.mp hverdict
    obtain ⟨-, -, hsettled, -⟩ :=
      run_answered_truthfully {} "" (lateRun ++ stoppedRun) 0 (by simp [lateRun, stoppedRun])
    exact ⟨report, hverdict, (hsettled lateRun stoppedRun report rfl hreport).2.2⟩
  · have hlive : ((initial {} "").after (lateRun ++ [.command (.run oneTransaction)])).IsLive 1 :=
      ⟨_, rfl, rfl⟩
    obtain ⟨-, -, -, hdismissed, -⟩ :=
      run_answered_truthfully {} "" (lateRun ++ stoppedRun) 1 (by simp [lateRun, stoppedRun])
    exact (hdismissed _ (.command .stop) [] rfl hlive rfl).2.2 .yield trivial

end Service

end ChainWatch
