import ChainWatch.Proofs.Service.Passage

/-!
# What every service satisfies

The tasks of a service are numbered in the order in which they were started, and an event changes
each of them on its own and may start one more (`tasks_react`). With the invariant `Service.Orderly`
this says what becomes of the task of a run (`task?_react`), and from there on a run can be followed
along a history without looking at the others.

The invariant ties the service to its runs. The service knows one run as its own, and any other is
live no more (`own`): a run is only started when the service's own has finished, and the service
lets go of its own only by cancelling it or when it has settled. The rest is about one task and kept
by every passage (`Task.Orderly.passage`).
-/

namespace ChainWatch

namespace Task

variable {t t' : Task} {e : ServiceEvent} {own : Prop} {deadlines : Deadlines}

/-! ### Reading a passage -/

namespace Passage

theorem id_eq (h : Passage own t e t') : t'.id = t.id := by cases h <;> rfl

/-- No run comes to life again. -/
theorem live (h : Passage own t e t') (hlive : t'.phase = .driving) : t.phase = .driving := by
  cases h with
  | driven h _ => exact h
  | left _ _ => exact hlive
  | answered _ _ => exact hlive
  | kept _ _ _ => exact hlive
  | _ => cases hlive

/-- A live run of the service's own goes on unless the event ends it. -/
theorem live_iff (h : Passage own t e t') (hlive : t.phase = .driving) (hown : own)
    (hwaiting : t.caller = .waiting) : t'.phase = .driving ↔ ¬ t.EndedBy e := by
  -- what a passage has not ended goes on, and else it is over
  have hgoes (hon : t'.phase = .driving) (hnot : ¬ t.EndedBy e) :
      t'.phase = .driving ↔ ¬ t.EndedBy e := iff_of_true hon hnot
  have hends (hover : t'.phase ≠ .driving) (hended : t.EndedBy e) :
      t'.phase = .driving ↔ ¬ t.EndedBy e := iff_of_false hover (not_not_intro hended)
  cases h with
  | @driven event now _ hreport =>
    refine hgoes hlive fun hended => ?_
    rcases endedBy_iff.mp hended with hdismisses | heq | ⟨event', now', report, heq, hsome⟩
    · cases hdismisses
    · cases heq
    · cases heq
      rw [hreport] at hsome
      cases hsome
  | settled _ hreport => exact hends (by simp) (.settled hreport)
  | dismissed _ _ hdismisses => exact hends (by simp) (endedBy_iff.mpr (Or.inl hdismisses))
  | abandoned _ _ => exact hends (by simp) .abandoned
  | left hover _ => exact absurd hlive hover
  | cancelled haborting _ => simp [hlive] at haborting
  | answered hfinished _ => simp [hlive, Phase.isFinished] at hfinished
  | kept hstays _ _ => exact hgoes hlive (hstays hlive hown hwaiting)

/-- What ends a live run either settles it or tells it to end. -/
theorem phase_of_endedBy (h : Passage own t e t') (hlive : t.phase = .driving) (hown : own)
    (hwaiting : t.caller = .waiting) (hended : t.EndedBy e) :
    (∃ report, t'.phase = .settled report) ∧ e.dismisses = false ∨ t'.phase = .aborting := by
  have hover : t'.phase ≠ .driving :=
    (h.live_iff hlive hown hwaiting).not.mpr (not_not_intro hended)
  cases h with
  | settled _ _ => exact Or.inl ⟨⟨_, rfl⟩, rfl⟩
  | dismissed _ _ _ => exact Or.inr rfl
  | abandoned _ _ => exact Or.inr rfl
  | cancelled haborting _ =>
    rw [hlive] at haborting
    cases haborting
  | _ => exact absurd hlive hover

/-- A run that is not live does nothing. -/
theorem loop_eq (h : Passage own t e t') (hover : t.phase ≠ .driving) : t'.loop = t.loop := by
  cases h with
  | driven hlive _ => exact absurd hlive hover
  | settled hlive _ => exact absurd hlive hover
  | _ => rfl

/-- What has finished stays as it is. -/
theorem phase_of_isFinished (h : Passage own t e t') (hfinished : t.phase.isFinished = true) :
    t'.phase = t.phase := by
  cases h with
  | driven hlive _ => simp [hlive, Phase.isFinished] at hfinished
  | settled hlive _ => simp [hlive, Phase.isFinished] at hfinished
  | dismissed hlive _ _ => simp [hlive, Phase.isFinished] at hfinished
  | abandoned hlive _ => simp [hlive, Phase.isFinished] at hfinished
  | cancelled haborting _ => simp [haborting, Phase.isFinished] at hfinished
  | _ => rfl

/-- An aborting run waits for its turn, which cancels it. -/
theorem phase_of_aborting (h : Passage own t e t') (haborting : t.phase = .aborting) :
    ¬ e.IsTurn t.id ∧ t'.phase = .aborting ∨ e.IsTurn t.id ∧ t'.phase = .cancelled := by
  cases h with
  | driven hlive _ => simp [haborting] at hlive
  | settled hlive _ => simp [haborting] at hlive
  | dismissed hlive _ _ => simp [haborting] at hlive
  | abandoned hlive _ => simp [haborting] at hlive
  | left _ _ => exact Or.inl ⟨fun hturn => hturn, haborting⟩
  | cancelled _ hturn => exact Or.inr ⟨hturn, rfl⟩
  | answered hfinished _ => simp [haborting, Phase.isFinished] at hfinished
  | kept _ hturn _ => exact Or.inl ⟨hturn haborting, haborting⟩

end Passage

/-! ### What every task satisfies -/

/-- What every task satisfies. -/
structure Orderly (deadlines : Deadlines) (t : Task) : Prop where
  /-- The caller of a live run waits. -/
  attended : t.phase = .driving → t.caller = .waiting
  /-- Nobody is answered before the run has finished. -/
  finished : t.caller = .answered → t.phase.isFinished = true
  /-- The phase tells whether the run has settled, and how. -/
  report?_eq : t.loop.report? = t.phase.report?
  /-- The run has come about by what it was told. -/
  run_eq : ∃ told,
    t.loop.run = (Run.start t.loop.params.nodes t.loop.params.amount deadlines).after told

namespace Orderly

/-- Another caller or another way not to be live makes no difference to the run. -/
theorem of_loop_eq (h : t.Orderly deadlines) (hloop : t'.loop = t.loop)
    (hreport : t'.phase.report? = t.phase.report?)
    (hattended : t'.phase = .driving → t'.caller = .waiting)
    (hfinished : t'.caller = .answered → t'.phase.isFinished = true) : t'.Orderly deadlines where
  attended := hattended
  finished := hfinished
  report?_eq := by rw [hloop, hreport, h.report?_eq]
  run_eq := by
    rw [hloop]
    exact h.run_eq

theorem run_eq_step (h : t.Orderly deadlines) (event : LoopEvent) (now : Moment) :
    ∃ told, (t.loop.step event now).1.run
      = (Run.start (t.loop.step event now).1.params.nodes
          (t.loop.step event now).1.params.amount deadlines).after told := by
  obtain ⟨told, hrun⟩ := h.run_eq
  refine ⟨told ++ t.loop.news event now, ?_⟩
  rw [Loop.run_step, Loop.params_step, hrun]
  exact (Run.after_append ..).symm

/-- **Invariant preservation.** -/
theorem passage (h : t.Orderly deadlines) (hpassage : Passage own t e t') :
    t'.Orderly deadlines := by
  cases hpassage with
  | driven hlive hreport =>
    -- the loop has no report yet, as the phase says
    refine ⟨h.attended, h.finished, ?_, h.run_eq_step _ _⟩
    change _ = t.phase.report?
    rw [hreport, hlive]
    rfl
  | settled hlive hreport =>
    exact ⟨nofun, fun _ => rfl, hreport, h.run_eq_step _ _⟩
  | dismissed hlive _ _ =>
    refine h.of_loop_eq rfl (by rw [hlive]; rfl) nofun fun hanswered => ?_
    -- the caller of a live run has not been answered
    rw [show t.caller = .waiting from h.attended hlive] at hanswered
    cases hanswered
  | abandoned hlive _ =>
    exact h.of_loop_eq rfl (by rw [hlive]; rfl) nofun nofun
  | left hover _ =>
    exact h.of_loop_eq rfl rfl (fun hlive => absurd hlive hover) nofun
  | cancelled haborting _ =>
    exact h.of_loop_eq rfl (by rw [haborting]; rfl) nofun fun _ => rfl
  | answered hfinished _ =>
    refine h.of_loop_eq rfl rfl (fun hlive => ?_) fun _ => hfinished
    rw [show t.phase = .driving from hlive] at hfinished
    cases hfinished
  | kept _ _ _ => exact h

end Orderly

end Task

namespace Service

variable {s : Service} {e : ServiceEvent} {t : Task} {run : RunId}

/-! ### The tasks after an event -/

/-- Among tasks with numbers of their own, the task of a run is the one with its number. -/
theorem task?_eq_some_iff (hids : (s.tasks.map Task.id).Nodup) :
    s.task? run = some t ↔ t ∈ s.tasks ∧ t.id = run := by
  unfold task?
  constructor
  · intro h
    exact ⟨List.mem_of_find?_eq_some h, by simpa using List.find?_some h⟩
  · rintro ⟨ht, hid⟩
    cases hfind : s.tasks.find? fun t => t.id = run with
    | none =>
      have hnone := List.find?_eq_none.mp hfind t ht
      simp [hid] at hnone
    | some u =>
      have hu := List.mem_of_find?_eq_some hfind
      have huid : u.id = run := by simpa using List.find?_some hfind
      -- two tasks with the number of the run are one
      rw [List.inj_on_of_nodup_map hids hu ht (huid.trans hid.symm)]

/-- To change the task of a run is to change the one with its number. -/
theorem map_tasks_congr (hids : (s.tasks.map Task.id).Nodup) {u : Task}
    (hu : s.task? run = some u) {f g : Task → Task} (hfg : f u = g u) :
    (s.tasks.map fun t => if t.id = run then f t else t)
      = s.tasks.map fun t => if t.id = run then g t else t := by
  refine List.map_congr_left fun t ht => ?_
  split
  · next hid =>
    have ht' : s.task? run = some t := (task?_eq_some_iff hids).mpr ⟨ht, hid⟩
    rw [Option.some.inj (hu.symm.trans ht')] at hfg
    exact hfg
  · rfl

theorem map_tasks_of_eq_none (h : s.task? run = none) (f : Task → Task) :
    (s.tasks.map fun t => if t.id = run then f t else t) = s.tasks := by
  refine (List.map_congr_left fun t ht => ?_).trans (List.map_id _)
  have hid := List.find?_eq_none.mp h t ht
  rw [if_neg (by simpa using hid)]
  rfl

theorem tasks_stop (s : Service) :
    s.stop.1.tasks = s.tasks.map fun t => if s.active = some t.id then t.abort else t := by
  unfold stop
  cases s.active with
  | none => simp
  | some id =>
    refine List.map_congr_left fun t _ => ?_
    simp only [Option.some.injEq, eq_comm]

theorem tasks_handle {c : Command} (h : e.command? = some c) :
    (s.handle c).1.tasks
      = (s.tasks.map fun t => if c.dismisses = true ∧ s.active = some t.id then t.abort else t)
        ++ s.newcomers e := by
  have hhandles := s.handles_handle c
  generalize (s.handle c).1 = s', (s.handle c).2 = handling at hhandles
  cases hhandles with
  | unlisted hnodes => simp [newcomers, h, Command.dismisses, hnodes, Except.isOk, Except.toBool]
  | configured hnodes =>
    simp [newcomers, h, Command.dismisses, hnodes, Except.isOk, Except.toBool, tasks_stop]
  | stopped => simp [newcomers, h, Command.dismisses, tasks_stop]
  | refused hparams => simp [newcomers, h, Command.dismisses, hparams]
  | started hparams => simp [newcomers, h, Command.dismisses, hparams, launch]

/-- A command or a request can only dismiss the run of the service. -/
theorem undergo_of_command? {c : Command} (h : e.command? = some c) (t : Task) :
    s.undergo e t = if c.dismisses = true ∧ s.active = some t.id then t.abort else t := by
  have hdismisses : e.dismisses = c.dismisses := by rw [ServiceEvent.dismisses, h]; rfl
  rw [← hdismisses]
  cases e with
  | command c' => rfl
  | request a uptime => rfl
  | _ => cases h

theorem tasks_resume (hids : (s.tasks.map Task.id).Nodup) (run : RunId) :
    (s.resume run).1.tasks = s.tasks.map fun t => if t.id = run then t.resume else t := by
  -- whoever is answered is the caller of the task of the run
  have hanswered {u : Task} (hu : s.task? run = some u) (hwaiting : u.caller = .waiting)
      (hfinished : u.phase.isFinished = true) :
      (s.tasks.map fun t => if t.id = run then { t with caller := .answered } else t)
        = s.tasks.map fun t => if t.id = run then t.resume else t :=
    map_tasks_congr hids hu (f := fun t => { t with caller := .answered })
      (if_pos ⟨hwaiting, hfinished⟩).symm
  have hresumes := s.resumes_resume run
  generalize (s.resume run).1 = s', (s.resume run).2 = outcome at hresumes
  cases hresumes with
  | waits hnot =>
    refine ((List.map_congr_left fun t ht => ?_).trans (List.map_id _)).symm
    split
    · next hid =>
      have htask : s.task? run = some t := (task?_eq_some_iff hids).mpr ⟨ht, hid⟩
      exact if_neg (hnot t htask)
    · rfl
  | settled ht hwaiting hphase =>
    rw [← hanswered ht hwaiting (by rw [hphase]; rfl)]
    unfold finish
    split <;> rfl
  | cancelled ht hwaiting hphase => exact hanswered ht hwaiting (by rw [hphase]; rfl)

theorem tasks_drive (hids : (s.tasks.map Task.id).Nodup) (run : RunId) (event : LoopEvent)
    (now : Moment) :
    (s.drive run event now).1.tasks
      = s.tasks.map fun t => if t.id = run then (t.drive event now).1 else t := by
  cases ht : s.task? run with
  | none =>
    rw [map_tasks_of_eq_none ht]
    unfold drive
    rw [ht]
  | some t =>
    rw [map_tasks_congr hids ht (g := fun _ => (t.drive event now).1) rfl]
    unfold drive
    rw [ht]
    rfl

/-- The tasks after an event are those before it, each changed on its own, and the one that the
event has started. -/
theorem tasks_react (hids : (s.tasks.map Task.id).Nodup) (e : ServiceEvent) :
    (s.react e).1.tasks = s.tasks.map (s.undergo e) ++ s.newcomers e := by
  cases hcommand : e.command? with
  | some c =>
    rw [react_of_command? hcommand, tasks_handle hcommand]
    rw [funext (undergo_of_command? hcommand)]
  | none =>
    have hnobody : s.newcomers e = [] := by rw [newcomers, hcommand]
    rw [hnobody, List.append_nil]
    cases e with
    | command c => cases hcommand
    | request a uptime =>
      obtain ⟨response, hreceive⟩ := receive_of_command?_eq_none (s := s) hcommand uptime
      have hdismisses : (ServiceEvent.request a uptime).dismisses = false := by
        rw [ServiceEvent.dismisses, hcommand]
        rfl
      have hpasses : ∀ t, s.undergo (.request a uptime) t = t :=
        fun t => if_neg fun h => by rw [hdismisses] at h; cases h.1
      rw [react, hreceive, funext hpasses]
      exact (List.map_id _).symm
    | resume run => exact tasks_resume hids run
    | hangUp run => rfl
    | drive run event now => exact tasks_drive hids run event now
    | yield => rfl

theorem started?_react (s : Service) (e : ServiceEvent) :
    (s.react e).2.started?.toList = (s.newcomers e).map Task.id := by
  cases hcommand : e.command? with
  | some c =>
    rw [react_of_command? hcommand]
    have hhandles := s.handles_handle c
    generalize (s.handle c).1 = s', (s.handle c).2 = handling at hhandles
    cases hhandles with
    | refused hparams =>
      simp [newcomers, hcommand, hparams, ServiceReply.started?, Reception.ofHandling]
    | started hparams =>
      simp [newcomers, hcommand, hparams, ServiceReply.started?, Reception.ofHandling, newTask]
    | _ => simp [newcomers, hcommand, ServiceReply.started?, Reception.ofHandling]
  | none =>
    rw [newcomers, hcommand]
    cases e with
    | command c => cases hcommand
    | request a uptime =>
      obtain ⟨response, hreceive⟩ := receive_of_command?_eq_none (s := s) hcommand uptime
      rw [react, hreceive]
      rfl
    | _ => rfl

/-! ### What an event leaves alone -/

/-- What a service was set up with. -/
def settings (s : Service) : Schedule × String := (s.schedule, s.defaultUrl)

theorem settings_stop (s : Service) : s.stop.1.settings = s.settings := by
  unfold stop
  split <;> rfl

theorem nextRun_stop (s : Service) : s.stop.1.nextRun = s.nextRun := by
  unfold stop
  split <;> rfl

/-- What can happen besides commands does not start a run, and makes the service let go of one only
if it has settled and its caller gets the report. -/
theorem react_of_command?_eq_none (h : e.command? = none) :
    (s.react e).1.settings = s.settings ∧ (s.react e).1.nextRun = s.nextRun ∧
      ((s.react e).1.active = s.active ∨
        ∃ t report, s.task? t.id = some t ∧ e = .resume t.id ∧ s.active = some t.id ∧
          t.phase = .settled report) := by
  cases e with
  | command c => cases h
  | request a uptime =>
    obtain ⟨response, hreceive⟩ := receive_of_command?_eq_none (s := s) h uptime
    rw [react, hreceive]
    exact ⟨rfl, rfl, Or.inl rfl⟩
  | resume run =>
    change (s.resume run).1.settings = _ ∧ (s.resume run).1.nextRun = _ ∧
      ((s.resume run).1.active = _ ∨ _)
    have hresumes := s.resumes_resume run
    generalize (s.resume run).1 = s', (s.resume run).2 = outcome at hresumes
    cases hresumes with
    | waits _ => exact ⟨rfl, rfl, Or.inl rfl⟩
    | @settled t report ht _ hphase =>
      have hid : t.id = run := by simpa using List.find?_some ht
      subst hid
      unfold finish
      split
      · next hown => exact ⟨rfl, rfl, Or.inr ⟨t, report, ht, rfl, hown, hphase⟩⟩
      · exact ⟨rfl, rfl, Or.inl rfl⟩
    | cancelled _ _ _ => exact ⟨rfl, rfl, Or.inl rfl⟩
  | hangUp run => exact ⟨rfl, rfl, Or.inl rfl⟩
  | drive run event now =>
    unfold react drive
    dsimp only
    split <;> exact ⟨rfl, rfl, Or.inl rfl⟩
  | yield => exact ⟨rfl, rfl, Or.inl rfl⟩

theorem settings_react (s : Service) (e : ServiceEvent) : (s.react e).1.settings = s.settings := by
  cases hcommand : e.command? with
  | none => exact (react_of_command?_eq_none hcommand).1
  | some c =>
    rw [react_of_command? hcommand]
    have hhandles := s.handles_handle c
    generalize (s.handle c).1 = s', (s.handle c).2 = handling at hhandles
    cases hhandles with
    | configured _ => exact s.settings_stop
    | stopped => exact s.settings_stop
    | _ => rfl

theorem schedule_react (s : Service) (e : ServiceEvent) : (s.react e).1.schedule = s.schedule :=
  congrArg Prod.fst (s.settings_react e)

/-- Runs are numbered one after the other. -/
theorem nextRun_react (s : Service) (e : ServiceEvent) :
    (s.react e).1.nextRun = s.nextRun + (s.newcomers e).length ∧
      (s.newcomers e).map Task.id = List.range' s.nextRun (s.newcomers e).length := by
  cases hcommand : e.command? with
  | none =>
    rw [(react_of_command?_eq_none hcommand).2.1, newcomers, hcommand]
    exact ⟨rfl, rfl⟩
  | some c =>
    rw [react_of_command? hcommand]
    have hhandles := s.handles_handle c
    generalize (s.handle c).1 = s', (s.handle c).2 = handling at hhandles
    cases hhandles with
    | @started r params hparams =>
      have hnew : s.newcomers e = [s.newTask params] := by
        simp only [newcomers, hcommand, hparams]
      rw [hnew]
      exact ⟨rfl, rfl⟩
    | refused hparams =>
      have hnobody : s.newcomers e = [] := by simp only [newcomers, hcommand, hparams]
      rw [hnobody]
      exact ⟨rfl, rfl⟩
    | unlisted _ =>
      rw [newcomers, hcommand]
      exact ⟨rfl, rfl⟩
    | configured _ =>
      rw [newcomers, hcommand]
      exact ⟨s.nextRun_stop, rfl⟩
    | stopped =>
      rw [newcomers, hcommand]
      exact ⟨s.nextRun_stop, rfl⟩

/-! ### The invariant -/

/-- What every service satisfies. -/
structure Orderly (s : Service) : Prop where
  /-- The runs are numbered in the order in which they were started. -/
  ids : s.tasks.map Task.id = List.range s.nextRun
  /-- A live run is the service's own. -/
  own : ∀ t ∈ s.tasks, t.phase = .driving → s.active = some t.id
  tasks : ∀ t ∈ s.tasks, t.Orderly s.schedule.deadlines

namespace Orderly

theorem nodup (h : s.Orderly) : (s.tasks.map Task.id).Nodup := by
  rw [h.ids]
  exact List.nodup_range

theorem task?_eq_some_iff (h : s.Orderly) : s.task? run = some t ↔ t ∈ s.tasks ∧ t.id = run :=
  Service.task?_eq_some_iff h.nodup

theorem initial (schedule : Schedule) (defaultUrl : String) :
    (Service.initial schedule defaultUrl).Orderly where
  ids := rfl
  own := fun _ ht => absurd ht List.not_mem_nil
  tasks := fun _ ht => absurd ht List.not_mem_nil

theorem isRunning (h : s.Orderly) (ht : t ∈ s.tasks) (hlive : t.phase = .driving) :
    s.isRunning = true := by
  have htask : s.task? t.id = some t := h.task?_eq_some_iff.mpr ⟨ht, rfl⟩
  unfold Service.isRunning
  rw [h.own t ht hlive, Option.bind_some, htask]
  simp [hlive, Phase.isFinished]

/-- A run is only started while no other is live. -/
theorem not_live_of_paramsOf (h : s.Orderly) {r : RunRequest} {params : RunParams}
    (hparams : s.paramsOf r = .ok params) (ht : t ∈ s.tasks) : t.phase ≠ .driving := by
  intro hlive
  have hrunning := h.isRunning ht hlive
  have hidle : s.isRunning = false := ((s.isOk_paramsOf_iff r).mp (by rw [hparams]; rfl)).2.2.2
  rw [hrunning] at hidle
  cases hidle

/-- A run that stays live stays the service's own. -/
theorem active_react (h : s.Orderly) (ht : t ∈ s.tasks)
    (hlive : (s.undergo e t).phase = .driving) : (s.react e).1.active = some t.id := by
  have hbefore : t.phase = .driving := (Task.passage_undergo s e t).live hlive
  have hown := h.own t ht hbefore
  cases hcommand : e.command? with
  | none =>
    rcases (react_of_command?_eq_none (s := s) hcommand).2.2 with
      hsame | ⟨u, report, hu, -, hactive, hphase⟩
    · exact hsame.trans hown
    · -- the service lets go of a settled run only
      have hid : u.id = t.id := Option.some.inj (hactive.symm.trans hown)
      have htask : s.task? u.id = some t := h.task?_eq_some_iff.mpr ⟨ht, hid.symm⟩
      obtain rfl := Option.some.inj (hu.symm.trans htask)
      rw [hbefore] at hphase
      cases hphase
  | some c =>
    rw [undergo_of_command? hcommand] at hlive
    have hnot : ¬ c.dismisses = true := by
      intro hdismisses
      rw [if_pos ⟨hdismisses, hown⟩, Task.abort_of_live hbefore] at hlive
      cases hlive
    rw [react_of_command? hcommand]
    have hhandles := s.handles_handle c
    generalize (s.handle c).1 = s', (s.handle c).2 = handling at hhandles
    cases hhandles with
    | unlisted _ => exact hown
    | configured hnodes => exact absurd (by rw [Command.dismisses, hnodes]; rfl) hnot
    | stopped => exact absurd rfl hnot
    | refused _ => exact hown
    | started hparams => exact absurd hbefore (h.not_live_of_paramsOf hparams ht)

/-- The run that an event has started is the service's own. -/
theorem active_react_of_newcomers (ht : t ∈ s.newcomers e) :
    t.id = s.nextRun ∧ (s.react e).1.active = some t.id ∧
      ∃ r params, e.command? = some (.run r) ∧ s.paramsOf r = .ok params ∧
        t = s.newTask params := by
  unfold newcomers at ht
  split at ht
  · next r hcommand =>
    cases hparams : s.paramsOf r with
    | error fault => simp [hparams] at ht
    | ok params =>
      rw [hparams] at ht
      obtain rfl := List.mem_singleton.mp ht
      refine ⟨rfl, ?_, r, params, hcommand, hparams, rfl⟩
      rw [react_of_command? hcommand, handle, start, hparams]
      rfl
  · cases ht

theorem orderly_newTask (s : Service) (params : RunParams) :
    (s.newTask params).Orderly s.schedule.deadlines where
  attended := fun _ => rfl
  finished := nofun
  report?_eq := by
    unfold newTask
    dsimp only
    split <;> rfl
  run_eq := ⟨[], rfl⟩

/-- **Invariant preservation.** -/
theorem react (h : s.Orderly) (e : ServiceEvent) : (s.react e).1.Orderly where
  ids := by
    -- no passage changes a number, and a new number follows the last one
    obtain ⟨hnext, hnew⟩ := s.nextRun_react e
    rw [tasks_react h.nodup, List.map_append, List.map_map, hnew, hnext]
    have hids : (Task.id ∘ s.undergo e) = Task.id :=
      funext fun t => (Task.passage_undergo s e t).id_eq
    rw [hids, h.ids, List.range_eq_range', List.range_eq_range']
    have happend := List.range'_append_1 (s := 0) (m := s.nextRun) (n := (s.newcomers e).length)
    rwa [Nat.zero_add] at happend
  own := by
    -- an old run that is still live is still the service's own, and a new one has become it
    intro t ht hlive
    rw [tasks_react h.nodup] at ht
    rcases List.mem_append.mp ht with hold | hnew
    · obtain ⟨u, hu, rfl⟩ := List.mem_map.mp hold
      rw [(Task.passage_undergo s e u).id_eq]
      exact h.active_react hu hlive
    · exact (active_react_of_newcomers hnew).2.1
  tasks := by
    intro t ht
    rw [schedule_react]
    rw [tasks_react h.nodup] at ht
    rcases List.mem_append.mp ht with hold | hnew
    · obtain ⟨u, hu, rfl⟩ := List.mem_map.mp hold
      exact (h.tasks u hu).passage (Task.passage_undergo s e u)
    · obtain ⟨-, -, r, params, -, -, rfl⟩ := active_react_of_newcomers hnew
      exact orderly_newTask s params

theorem after (h : s.Orderly) (es : List ServiceEvent) : (s.after es).Orderly := by
  induction es generalizing s with
  | nil => exact h
  | cons e es ih => exact ih (h.react e)

/-! ### Following one run -/

theorem task?_react (h : s.Orderly) (ht : s.task? run = some t) (e : ServiceEvent) :
    (s.react e).1.task? run = some (s.undergo e t) := by
  obtain ⟨hmem, hid⟩ := h.task?_eq_some_iff.mp ht
  refine (h.react e).task?_eq_some_iff.mpr ⟨?_, (Task.passage_undergo s e t).id_eq.trans hid⟩
  rw [tasks_react h.nodup]
  exact List.mem_append_left _ (List.mem_map_of_mem hmem)

/-- So the task of a run after an event comes about by a passage. -/
theorem passage_react (h : s.Orderly) (ht : s.task? run = some t) (e : ServiceEvent) :
    ∃ t', (s.react e).1.task? run = some t' ∧ t.Passage (s.active = some run) e t' := by
  refine ⟨_, h.task?_react ht e, ?_⟩
  rw [← (h.task?_eq_some_iff.mp ht).2]
  exact Task.passage_undergo s e t

/-- A run that there is after an event was there before it, or the event has started it. -/
theorem task?_or_newcomer (h : s.Orderly) {t' : Task} (ht : (s.react e).1.task? run = some t') :
    (∃ t, s.task? run = some t) ∨ s.task? run = none ∧ t' ∈ s.newcomers e := by
  cases htask : s.task? run with
  | some t => exact Or.inl ⟨t, rfl⟩
  | none =>
    -- its number would be that of a task from before, which there is not
    obtain ⟨hmem, hid⟩ := (h.react e).task?_eq_some_iff.mp ht
    rw [tasks_react h.nodup] at hmem
    rcases List.mem_append.mp hmem with hold | hnew
    · obtain ⟨u, hu, rfl⟩ := List.mem_map.mp hold
      rw [(Task.passage_undergo s e u).id_eq] at hid
      have hsome : s.task? run = some u := h.task?_eq_some_iff.mpr ⟨hu, hid⟩
      rw [htask] at hsome
      cases hsome
    · exact Or.inr ⟨rfl, hnew⟩

end Orderly

/-! ### Live runs -/

/-- A run is live: it has not settled and was not told to end. -/
def IsLive (s : Service) (run : RunId) : Prop := ∃ t, s.task? run = some t ∧ t.phase = .driving

namespace Orderly

/-- A live run is the service's own, and its caller waits. -/
theorem of_isLive (h : s.Orderly) (ht : s.task? run = some t) (hlive : t.phase = .driving) :
    s.active = some run ∧ t.caller = .waiting := by
  obtain ⟨hmem, rfl⟩ := h.task?_eq_some_iff.mp ht
  exact ⟨h.own t hmem hlive, (h.tasks t hmem).attended hlive⟩

theorem isLive_react_iff (h : s.Orderly) (ht : s.task? run = some t) (hlive : t.phase = .driving)
    (e : ServiceEvent) : (s.react e).1.IsLive run ↔ ¬ t.EndedBy e := by
  obtain ⟨t', ht', hpassage⟩ := h.passage_react ht e
  obtain ⟨hown, hwaiting⟩ := h.of_isLive ht hlive
  rw [← hpassage.live_iff hlive hown hwaiting]
  constructor
  · rintro ⟨u, hu, hu'⟩
    rwa [Option.some.inj (ht'.symm.trans hu)]
  · exact fun hlive' => ⟨t', ht', hlive'⟩

/-- A run that was told to end does nothing more, and its next turn cancels it. -/
theorem drive_of_aborting (h : s.Orderly) (ht : s.task? run = some t)
    (haborting : t.phase = .aborting) (event : LoopEvent) (now : Moment) :
    (s.drive run event now).2 = [] ∧
      (s.drive run event now).1.task? run = some { t with phase := .cancelled } := by
  have hdrive : t.drive event now = ({ t with phase := .cancelled }, []) := by
    rw [Task.drive, haborting]
  constructor
  · unfold drive
    rw [ht]
    dsimp only
    rw [hdrive]
  · have hid := (h.task?_eq_some_iff.mp ht).2
    have hundergo : s.undergo (.drive run event now) t = { t with phase := .cancelled } := by
      rw [undergo, if_pos hid, hdrive]
    rw [← hundergo]
    exact h.task?_react ht (.drive run event now)

/-- What every passage keeps holds of the task of a run after all events. -/
theorem exists_task?_after {P : Task → Prop}
    (hkeeps : ∀ {own : Prop} {t t' : Task} {e : ServiceEvent}, t.Passage own e t' → P t → P t')
    (h : s.Orderly) (ht : s.task? run = some t) (hP : P t) (es : List ServiceEvent) :
    ∃ t', (s.after es).task? run = some t' ∧ P t' := by
  -- each event makes the task go through one passage
  induction es generalizing s t with
  | nil => exact ⟨t, ht, hP⟩
  | cons e es ih =>
    obtain ⟨t', ht', hpassage⟩ := h.passage_react ht e
    exact ih (h.react e) ht' (hkeeps hpassage hP)

theorem task?_after_of_not_live (h : s.Orderly) (ht : s.task? run = some t)
    (hover : t.phase ≠ .driving) (es : List ServiceEvent) :
    ∃ t', (s.after es).task? run = some t' ∧ t'.phase ≠ .driving ∧ t'.loop = t.loop := by
  refine h.exists_task?_after (P := fun u => u.phase ≠ .driving ∧ u.loop = t.loop)
    (fun hpassage hP => ?_) ht ⟨hover, rfl⟩ es
  exact ⟨fun hlive => hP.1 (hpassage.live hlive), (hpassage.loop_eq hP.1).trans hP.2⟩

/-- A run that was told to end never settles. -/
theorem task?_after_of_aborting (h : s.Orderly) (ht : s.task? run = some t)
    (haborting : t.phase = .aborting) (es : List ServiceEvent) :
    ∃ t', (s.after es).task? run = some t' ∧ t'.loop = t.loop ∧
      (t'.phase = .aborting ∨ t'.phase = .cancelled) := by
  refine h.exists_task?_after
    (P := fun u => u.loop = t.loop ∧ (u.phase = .aborting ∨ u.phase = .cancelled))
    (fun {_ u _ _} hpassage hP => ?_) ht ⟨rfl, Or.inl haborting⟩ es
  obtain ⟨hloop, hphase⟩ := hP
  have hover : u.phase ≠ .driving := by rcases hphase with hphase | hphase <;> simp [hphase]
  refine ⟨(hpassage.loop_eq hover).trans hloop, ?_⟩
  rcases hphase with haborting | hcancelled
  · exact (hpassage.phase_of_aborting haborting).imp And.right And.right
  · exact Or.inr ((hpassage.phase_of_isFinished (by rw [hcancelled]; rfl)).trans hcancelled)

theorem task?_after_of_isFinished (h : s.Orderly) (ht : s.task? run = some t)
    (hfinished : t.phase.isFinished = true) (es : List ServiceEvent) :
    ∃ t', (s.after es).task? run = some t' ∧ t'.loop = t.loop ∧ t'.phase = t.phase := by
  refine h.exists_task?_after (P := fun u => u.loop = t.loop ∧ u.phase = t.phase)
    (fun {_ u _ _} hpassage hP => ?_) ht ⟨rfl, rfl⟩ es
  have hended : u.phase.isFinished = true := by rwa [hP.2]
  have hover : u.phase ≠ .driving := by
    intro hlive
    rw [hlive] at hended
    cases hended
  exact ⟨(hpassage.loop_eq hover).trans hP.1, (hpassage.phase_of_isFinished hended).trans hP.2⟩

end Orderly

/-- Every service that a history leads to is orderly. -/
theorem orderly_after (schedule : Schedule) (defaultUrl : String) (es : List ServiceEvent) :
    ((initial schedule defaultUrl).after es).Orderly :=
  (Orderly.initial schedule defaultUrl).after es

/-- What holds of new tasks, and is kept by every passage, holds of every task of a history. -/
theorem of_task?_after {P : Task → Prop} (hnew : ∀ s params, P (newTask s params))
    {schedule : Schedule} {defaultUrl : String} {es : List ServiceEvent}
    (hkeeps : ∀ {own : Prop} {t t' : Task}, ∀ e ∈ es, t.Passage own e t' → P t → P t')
    (ht : ((initial schedule defaultUrl).after es).task? run = some t) : P t := by
  induction es using List.reverseRecOn generalizing t with
  | nil => cases ht
  | append_singleton es e ih =>
    have h := orderly_after schedule defaultUrl es
    rw [after_concat] at ht
    -- the run was there before the last event, or this one has started it
    rcases h.task?_or_newcomer ht with ⟨u, hu⟩ | ⟨-, hmem⟩
    · obtain ⟨t', ht', hpassage⟩ := h.passage_react hu e
      obtain rfl := Option.some.inj (ht.symm.trans ht')
      refine hkeeps e (by simp) hpassage (ih (fun e' he' => ?_) hu)
      exact hkeeps e' (List.mem_append_left _ he')
    · obtain ⟨-, -, r, params, -, -, rfl⟩ := Orderly.active_react_of_newcomers hmem
      exact hnew _ params

theorem settings_after (s : Service) (es : List ServiceEvent) :
    (s.after es).settings = s.settings := by
  induction es generalizing s with
  | nil => rfl
  | cons e es ih => rw [after_cons, ih, settings_react]

theorem schedule_after (s : Service) (es : List ServiceEvent) :
    (s.after es).schedule = s.schedule :=
  congrArg Prod.fst (s.settings_after es)

end Service

end ChainWatch
