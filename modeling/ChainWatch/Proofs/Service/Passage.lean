import ChainWatch.Proofs.Service.Event

/-!
# Everything that an event can do to a run of a service

The tasks of a service after an event are those before it, each changed by the event on its own, and
the one that the event has started (`tasks_react`). What an event can do to a task is listed once,
in `Task.Passage`, one constructor for each outcome (`passage_undergo`); whatever holds of a run
along every history is a case analysis on it.

The list shows how a run comes to its end. It is live while its phase is `driving`, and it leaves
this phase in two ways only: its run settles, or it is told to end and is aborting. An aborting run
is driven no more, and its next turn cancels it. A run that has settled or is cancelled stays so.

`Service.Orderly` is what every service satisfies: a run that is live is the service's own and has a
caller who waits, and the phase of a task tells truly whether its run has settled.
-/

namespace ChainWatch

namespace Phase

/-- The report of a run that has settled. -/
def report? : Phase → Option RunReport
  | .settled report => some report
  | _ => none

/-- What has come of a run that has finished. -/
def outcome? : Phase → Option Outcome
  | .settled report => some (.reply (.verdict report.verdict report.diagnosis))
  | .cancelled => some .cancelled
  | _ => none

theorem outcome?_eq_none {phase : Phase} (h : phase.isFinished = false) :
    phase.outcome? = none := by
  cases phase with
  | driving => rfl
  | aborting => rfl
  | settled report => cases h
  | cancelled => cases h

end Phase

namespace Task

/-- The caller looks whether the run has finished. -/
def resume (t : Task) : Task :=
  if t.caller = .waiting ∧ t.phase.isFinished = true then { t with caller := .answered } else t

/-- What the caller then gets. -/
def answer? (t : Task) : Option Outcome :=
  if t.caller = .waiting then t.phase.outcome? else none

/-- The caller hangs up. -/
def hangUp (t : Task) : Task :=
  if t.caller = .waiting then { t.abort with caller := .hungUp } else t

/-- What ends a live run. -/
inductive EndedBy (t : Task) : ServiceEvent → Prop
  /-- It settles. -/
  | settled {event now report} (hreport : (t.loop.step event now).1.report? = some report) :
      EndedBy t (.drive t.id event now)
  /-- A list of nodes is given that is one. -/
  | reconfigured {e urls nodes} (hcommand : e.command? = some (.watches urls))
      (hnodes : NodeList.ofUrls urls = .ok nodes) : EndedBy t e
  /-- The service is told to stop. -/
  | stopped {e} (hcommand : e.command? = some .stop) : EndedBy t e
  /-- Its caller hangs up. -/
  | abandoned : EndedBy t (.hangUp t.id)

/-- What an event can do to a task; `own` says that its run is the service's own. -/
inductive Passage (own : Prop) (t : Task) : ServiceEvent → Task → Prop
  /-- The run goes on. -/
  | driven {event now} (hlive : t.phase = .driving)
      (hreport : (t.loop.step event now).1.report? = none) :
      Passage own t (.drive t.id event now) { t with loop := (t.loop.step event now).1 }
  /-- The run settles. -/
  | settled {event now report} (hlive : t.phase = .driving)
      (hreport : (t.loop.step event now).1.report? = some report) :
      Passage own t (.drive t.id event now)
        { t with loop := (t.loop.step event now).1, phase := .settled report }
  /-- The run is told to end by a command. -/
  | dismissed {e} (hlive : t.phase = .driving) (hown : own) (hdismisses : e.dismisses = true) :
      Passage own t e { t with phase := .aborting }
  /-- The run is told to end by its caller, who hangs up. -/
  | abandoned (hlive : t.phase = .driving) (hwaiting : t.caller = .waiting) :
      Passage own t (.hangUp t.id) { t with phase := .aborting, caller := .hungUp }
  /-- The caller hangs up, and the run had been told to end or has finished. -/
  | left (hover : t.phase ≠ .driving) (hwaiting : t.caller = .waiting) :
      Passage own t (.hangUp t.id) { t with caller := .hungUp }
  /-- An aborting run gets its turn. -/
  | cancelled {e} (haborting : t.phase = .aborting) (hturn : e.IsTurn t.id) :
      Passage own t e { t with phase := .cancelled }
  /-- The caller of a finished run gets its answer. -/
  | answered (hfinished : t.phase.isFinished = true) (hwaiting : t.caller = .waiting) :
      Passage own t (.resume t.id) { t with caller := .answered }
  /-- Nothing happens: the event does not end the run, is no turn of it that matters, and does not
  answer its caller. -/
  | kept {e} (hlive : t.phase = .driving → own → t.caller = .waiting → ¬ t.EndedBy e)
      (haborting : t.phase = .aborting → ¬ e.IsTurn t.id)
      (hanswer : e = .resume t.id → t.answer? = none) : Passage own t e t

end Task

namespace Service

/-- What an event does to a task. -/
def undergo (s : Service) (e : ServiceEvent) (t : Task) : Task :=
  match e with
  | .resume run => if t.id = run then t.resume else t
  | .hangUp run => if t.id = run then t.hangUp else t
  | .drive run event now => if t.id = run then (t.drive event now).1 else t
  | .yield => t.yield
  | e => if e.dismisses = true ∧ s.active = some t.id then t.abort else t

/-- The task that an event starts, if it does. -/
def newcomers (s : Service) (e : ServiceEvent) : List Task :=
  match e.command? with
  | some (.run r) =>
    match s.paramsOf r with
    | .ok params => [s.newTask params]
    | .error _ => []
  | _ => []

end Service

/-! ### What happens to one task -/

namespace ServiceEvent

variable {e : ServiceEvent} {urls : List String} {nodes : NodeList}

/-- A run is cancelled by a stop, and by a list of nodes that is one. -/
theorem dismisses_iff : e.dismisses = true ↔ e.command? = some .stop ∨
    ∃ urls nodes, e.command? = some (.watches urls) ∧ NodeList.ofUrls urls = .ok nodes := by
  unfold dismisses
  cases hcommand : e.command? with
  | none => simp
  | some c =>
    cases c with
    | watches urls =>
      -- urls that are no list of nodes are refused, and nothing else happens
      cases hnodes : NodeList.ofUrls urls <;>
        simp [Command.dismisses, hnodes, Except.isOk, Except.toBool]
    | run r => simp [Command.dismisses]
    | stop => simp [Command.dismisses]

end ServiceEvent

namespace Task

variable {t t' : Task} {e : ServiceEvent} {own : Prop}

/-- A live run is ended by what dismisses it, by its caller, or by settling. -/
theorem endedBy_iff : t.EndedBy e ↔ e.dismisses = true ∨ e = .hangUp t.id ∨
    ∃ event now report, e = .drive t.id event now ∧
      (t.loop.step event now).1.report? = some report := by
  rw [ServiceEvent.dismisses_iff]
  constructor
  · rintro (hreport | ⟨hcommand, hnodes⟩ | hcommand | _)
    · exact Or.inr (Or.inr ⟨_, _, _, rfl, hreport⟩)
    · exact Or.inl (Or.inr ⟨_, _, hcommand, hnodes⟩)
    · exact Or.inl (Or.inl hcommand)
    · exact Or.inr (Or.inl rfl)
  · rintro ((hcommand | ⟨urls, nodes, hcommand, hnodes⟩) | rfl | ⟨event, now, report, rfl, hreport⟩)
    · exact .stopped hcommand
    · exact .reconfigured hcommand hnodes
    · exact .abandoned
    · exact .settled hreport

theorem abort_of_live (h : t.phase = .driving) : t.abort = { t with phase := .aborting } := by
  rw [abort, h]
  rfl

theorem abort_of_not_live (h : t.phase ≠ .driving) : t.abort = t := by
  obtain ⟨id, loop, phase, caller⟩ := t
  cases phase with
  | driving => exact absurd rfl h
  | _ => rfl

section Drive

variable {event : LoopEvent} {now : Moment}

theorem drive_of_report?_eq_none (hlive : t.phase = .driving)
    (hreport : (t.loop.step event now).1.report? = none) :
    t.drive event now
      = ({ t with loop := (t.loop.step event now).1 }, (t.loop.step event now).2) := by
  unfold drive
  rw [hlive]
  simp only [hreport]

theorem drive_of_report?_eq_some (hlive : t.phase = .driving) {report : RunReport}
    (hreport : (t.loop.step event now).1.report? = some report) :
    t.drive event now
      = ({ t with loop := (t.loop.step event now).1, phase := .settled report },
          (t.loop.step event now).2) := by
  unfold drive
  rw [hlive]
  simp only [hreport]

/-- Only a live run sends anything. -/
theorem drive_snd_of_not_live (hlive : t.phase ≠ .driving) : (t.drive event now).2 = [] := by
  unfold drive
  cases hphase : t.phase with
  | driving => exact absurd hphase hlive
  | _ => rfl

end Drive

theorem answer?_eq_none (h : ¬ (t.caller = .waiting ∧ t.phase.isFinished = true)) :
    t.answer? = none := by
  unfold answer?
  split
  · next hwaiting =>
    exact Phase.outcome?_eq_none (Bool.eq_false_iff.mpr fun hfinished => h ⟨hwaiting, hfinished⟩)
  · rfl

/-- An event that neither dismisses the run nor is its caller's or its turn passes by. -/
theorem Passage.other (hdismisses : ¬ (e.dismisses = true ∧ own)) (hhangUp : e ≠ .hangUp t.id)
    (hdrive : ∀ event now, e ≠ .drive t.id event now) (hyield : t.phase = .aborting → e ≠ .yield)
    (hresume : e ≠ .resume t.id) : Passage own t e t := by
  refine .kept (fun _ hown _ hended => ?_) (fun haborting hturn => ?_) fun heq => absurd heq hresume
  · rcases endedBy_iff.mp hended with h | h | ⟨event, now, -, h, -⟩
    · exact hdismisses ⟨h, hown⟩
    · exact hhangUp h
    · exact hdrive event now h
  · -- the turns are those of this run and of all runs
    cases e with
    | drive run event now => exact hdrive event now (by rw [show run = t.id from hturn])
    | yield => exact hyield haborting rfl
    | _ => exact hturn

theorem passage_resume : Passage own t (.resume t.id) t.resume := by
  unfold resume
  split
  · next h => exact .answered h.2 h.1
  · next h =>
    -- to look at the run is none of the ways to end it
    refine .kept (fun _ _ _ hended => ?_) (fun _ hturn => hturn) fun _ => answer?_eq_none h
    rcases endedBy_iff.mp hended with hdismisses | heq | ⟨event, now, -, heq, -⟩
    · cases hdismisses
    · cases heq
    · cases heq

theorem passage_hangUp : Passage own t (.hangUp t.id) t.hangUp := by
  unfold hangUp
  split
  · next hwaiting =>
    by_cases hlive : t.phase = .driving
    · rw [abort_of_live hlive]
      exact .abandoned hlive hwaiting
    · rw [abort_of_not_live hlive]
      exact .left hlive hwaiting
  · next hnot =>
    -- the caller has gone already, or has got its answer
    exact .kept (fun _ _ hwaiting => absurd hwaiting hnot) (fun _ hturn => hturn) fun heq => by
      cases heq

theorem passage_drive (event : LoopEvent) (now : Moment) :
    Passage own t (.drive t.id event now) (t.drive event now).1 := by
  -- a run that has finished is driven no more
  have hkept (hlive : t.phase ≠ .driving) (haborting : t.phase ≠ .aborting) :
      Passage own t (.drive t.id event now) t :=
    .kept (fun h => absurd h hlive) (fun h => absurd h haborting) fun heq => by cases heq
  cases hphase : t.phase with
  | driving =>
    cases hreport : (t.loop.step event now).1.report? with
    | none =>
      rw [drive_of_report?_eq_none hphase hreport]
      exact .driven hphase hreport
    | some report =>
      rw [drive_of_report?_eq_some hphase hreport]
      exact .settled hphase hreport
  | aborting =>
    -- its turn is what an aborting run has waited for
    have hdrive : (t.drive event now).1 = { t with phase := .cancelled } := by
      rw [drive, hphase]
    rw [hdrive]
    exact .cancelled hphase rfl
  | settled report =>
    rw [drive, hphase]
    exact hkept (by simp [hphase]) (by simp [hphase])
  | cancelled =>
    rw [drive, hphase]
    exact hkept (by simp [hphase]) (by simp [hphase])

theorem passage_yield : Passage own t .yield t.yield := by
  have hother (haborting : t.phase ≠ .aborting) : Passage own t .yield t :=
    .other (fun h => by cases h.1) (by simp) (by simp) (fun h => absurd h haborting) (by simp)
  unfold yield
  cases hphase : t.phase with
  | aborting => exact .cancelled hphase trivial
  | _ => exact hother (by simp [hphase])

/-- A command or a request dismisses the run, or passes it by. -/
theorem passage_command [Decidable own] (he : ∀ run, e ≠ .resume run ∧ e ≠ .hangUp run)
    (hturn : ∀ run, ¬ e.IsTurn run) :
    Passage own t e (if e.dismisses = true ∧ own then t.abort else t) := by
  have hresume := (he t.id).1
  have hhangUp := (he t.id).2
  have hdrive : ∀ event now, e ≠ .drive t.id event now := by
    rintro event now rfl
    exact hturn t.id rfl
  have hyield : e ≠ .yield := by
    rintro rfl
    exact hturn t.id trivial
  split
  · next hdismissed =>
    by_cases hlive : t.phase = .driving
    · rw [abort_of_live hlive]
      exact .dismissed hlive hdismissed.2 hdismissed.1
    · -- the command comes too late to end it
      rw [abort_of_not_live hlive]
      exact .kept (fun h => absurd h hlive) (fun _ => hturn t.id) fun heq => absurd heq hresume
  · next hnot => exact .other hnot hhangUp hdrive (fun _ => hyield) hresume

/-- An event that names a run passes all other tasks by. -/
theorem passage_of_run? {run : RunId} (hrun : e.run? = some run)
    (h : t.id = run → Passage own t e t') : Passage own t e (if t.id = run then t' else t) := by
  split
  · next hid => exact h hid
  · next hid =>
    -- the event names another run, so it is none of those that name this one
    have hne {e' : ServiceEvent} (he' : e'.run? = some t.id) : e ≠ e' := by
      rintro rfl
      exact hid (Option.some.inj (he'.symm.trans hrun))
    -- nor does it bring a command
    have hdismisses : e.dismisses = false := by
      cases e with
      | command c => cases hrun
      | request a uptime => cases hrun
      | _ => rfl
    have hyield : e ≠ .yield := by
      rintro rfl
      cases hrun
    refine .other (fun hdismissed => ?_) (hne rfl) (fun _ _ => hne rfl) (fun _ => hyield) (hne rfl)
    rw [hdismisses] at hdismissed
    cases hdismissed.1

/-- **Inversion.** Whatever an event does to a task is listed in `Passage`. -/
theorem passage_undergo (s : Service) (e : ServiceEvent) (t : Task) :
    Passage (s.active = some t.id) t e (s.undergo e t) := by
  cases e with
  | command c => exact passage_command (by simp) fun _ hturn => hturn
  | request a uptime => exact passage_command (by simp) fun _ hturn => hturn
  -- the events that name a run: they pass by, or the run is this one
  | resume run =>
    refine passage_of_run? rfl ?_
    rintro rfl
    exact passage_resume
  | hangUp run =>
    refine passage_of_run? rfl ?_
    rintro rfl
    exact passage_hangUp
  | drive run event now =>
    refine passage_of_run? rfl ?_
    rintro rfl
    exact passage_drive event now
  | yield => exact passage_yield

end Task

end ChainWatch
