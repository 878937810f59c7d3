import ChainWatch.Config
import ChainWatch.Service.Clockwork
import ChainWatch.Proofs.Decimal.Seconds
import ChainWatch.Proofs.Service.Refusal
import ChainWatch.Proofs.Service.Orderly

/-!
# No ticker without a period

A ticker whose period is zero would tick for ever at one moment, and a run with such a ticker could
do nothing but end. There are two ways for a period to reach a ticker, and each is guarded where it
begins:

* three periods come from the configuration, and a configuration that was loaded has been validated,
  whatever is in its file (`Config.validate?_of_load`). So its schedule is sound
  (`Config.sound_schedule`), and no event changes the schedule of a service;
* the period of the submissions comes with the request for a run, which is refused unless its number
  of seconds makes a span that is not zero (`Binary64.positiveSpan?_eq_some_iff`).

A run is therefore never started with a ticker without a period (`Service.wellTimed_of_start`), and
tickers keep their periods as they tick. `Clockwork.Timely` is the invariant: it adds to an orderly
service and a sound schedule that the tickers of all runs have periods, and every event of a
clockwork keeps it (`Timely.react`).
-/

namespace ChainWatch

/-! ### Configurations and their schedules -/

/-- The periods of a schedule are not zero, and its deadlines are in order. -/
structure Schedule.IsSound (s : Schedule) : Prop where
  refresh_pos : 0 < s.refresh
  poll_pos : 0 < s.poll
  check_pos : 0 < s.check
  ordered : s.deadlines.soft ≤ s.deadlines.hard

theorem Schedule.IsSound.hasPeriods {s : Schedule} (h : s.IsSound) : s.hasPeriods = true :=
  decide_eq_true ⟨h.refresh_pos.ne', h.poll_pos.ne', h.check_pos.ne'⟩

namespace Config

variable {c : Config} {named : Bool} {content : Except FileFault (List UInt8)}

/-- Nothing is wrong with a configuration iff none of its periods is zero and its deadlines are in
order. -/
theorem validate?_eq_none_iff :
    c.validate? = none ↔ (∀ p ∈ c.periods, p.2 ≠ 0) ∧ c.softDeadlineSecs ≤ c.hardDeadlineSecs := by
  unfold validate?
  -- a period of zero is told before the deadlines are looked at
  cases hfind : c.periods.find? fun p => p.2 == 0 with
  | some p =>
    have hzero : p.2 = 0 := by simpa using List.find?_some hfind
    exact iff_of_false nofun fun h => h.1 p (List.mem_of_find?_eq_some hfind) hzero
  | none =>
    have hperiods : ∀ p ∈ c.periods, p.2 ≠ 0 := by simpa using List.find?_eq_none.mp hfind
    dsimp only
    split
    · next hlt => exact iff_of_false nofun fun h => absurd hlt (UInt64.not_lt.mpr h.2)
    · next hle => exact iff_of_true rfl ⟨hperiods, UInt64.not_lt.mp hle⟩

theorem validate?_of_parse {text : String} (h : parse text = .ok c) : c.validate? = none := by
  unfold parse at h
  split at h
  · cases h
  · split at h
    · cases h
    · next hvalid =>
      cases h
      exact hvalid

/-- Whatever a file holds, a configuration that is loaded makes sense. -/
theorem validate?_of_load (h : load named content = .ok c) : c.validate? = none := by
  unfold load at h
  split at h
  · unfold ofBytes at h
    split at h
    · cases h
    · exact validate?_of_parse h
  · -- without a file there are the defaults
    split at h
    · cases h
      rfl
    · cases h

theorem sound_schedule (h : c.validate? = none) : c.schedule.IsSound := by
  obtain ⟨hperiods, hdeadlines⟩ := validate?_eq_none_iff.mp h
  have hmillis (p : String × UInt64) (hp : p ∈ c.periods) : 0 < Span.millis p.2.toNat := by
    refine Nat.mul_pos (Nat.pos_of_ne_zero fun hzero => hperiods p hp ?_) (by decide)
    exact UInt64.toNat_inj.mp hzero
  exact {
    refresh_pos := hmillis ("refresh_interval_ms", c.refreshMillis) (by simp [periods])
    poll_pos := hmillis ("poll_interval_ms", c.pollMillis) (by simp [periods])
    check_pos := hmillis ("check_interval_ms", c.checkMillis) (by simp [periods])
    ordered := Nat.mul_le_mul_right _ (UInt64.le_iff_toNat_le.mp hdeadlines) }

end Config

/-! ### Tickers -/

namespace Beats

variable {b : Beats}

/-- Each of the tickers has a period. -/
def AllPositive (b : Beats) : Prop := ∀ beat, 0 < (b.get beat).period

theorem allPositive_start {schedule : Schedule} (h : schedule.IsSound) {period : Span}
    (hperiod : 0 < period) (now : Nat) : (start now schedule period).AllPositive
  | .refresh => h.refresh_pos
  | .submit => hperiod
  | .poll => h.poll_pos
  | .check => h.check_pos

/-- A ticker that ticks keeps its period. -/
theorem period_get_tick (b : Beats) (beat : Beat) (now : Nat) (beat' : Beat) :
    ((b.tick beat now).get beat').period = (b.get beat').period := by
  cases beat <;> cases beat' <;> rfl

theorem AllPositive.tick (h : b.AllPositive) (beat : Beat) (now : Nat) :
    (b.tick beat now).AllPositive := by
  intro beat'
  rw [period_get_tick]
  exact h beat'

end Beats

/-! ### Starting a run -/

/-- What is right about the time of a task that has just been started for a request. -/
structure Task.IsWellTimed (schedule : Schedule) (r : RunRequest) (t : Task) : Prop where
  /-- It is going on. -/
  phase_eq : t.phase = .driving
  /-- Whenever its tickers begin, each of them has a period. -/
  beats : ∀ now, (Beats.start now schedule t.loop.params.period).AllPositive
  /-- It submits once in the time that was asked for. -/
  period : RoundsTo (r.freq.value * 10 ^ 9) t.loop.params.period
  /-- Its hard deadline does not come before the soft one. -/
  ordered : t.loop.run.deadlines.soft ≤ t.loop.run.deadlines.hard

namespace Service

variable {s s' : Service} {r : RunRequest} {run : RunId}

/-- A run that is started is one more task, whose time is right. -/
theorem wellTimed_of_start (hsound : s.schedule.IsSound) (hstart : s.start r = .ok (s', run)) :
    ∃ t, s'.tasks = s.tasks ++ [t] ∧ t.id = run ∧ t.IsWellTimed s.schedule r := by
  unfold start at hstart
  split at hstart
  · cases hstart
  · next params hparams =>
    cases hstart
    -- the request has been accepted, so its number of seconds makes a span
    obtain ⟨nodes, period, -, -, hperiod, -, rfl⟩ := paramsOf_eq_ok_iff.mp hparams
    obtain ⟨-, -, hrounds, hpos⟩ := Binary64.positiveSpan?_eq_some_iff.mp hperiod
    exact ⟨_, rfl, rfl, {
      phase_eq := if_pos hsound.hasPeriods
      beats := Beats.allPositive_start hsound hpos
      period := hrounds
      ordered := hsound.ordered }⟩

theorem period?_eq_none_iff : r.period? = none ↔ r.freq.Unusable :=
  Binary64.positiveSpan?_eq_none_iff

/-- A request is refused if its number of seconds is no time between submissions. -/
theorem exists_start_eq_error (s : Service) (h : r.freq.Unusable) :
    ∃ fault, s.start r = .error fault := by
  cases hparams : s.paramsOf r with
  | error fault => exact ⟨fault, by rw [start, hparams]⟩
  | ok params =>
    obtain ⟨nodes, period, -, -, hperiod, -, -⟩ := paramsOf_eq_ok_iff.mp hparams
    rw [period?_eq_none_iff.mpr h] at hperiod
    cases hperiod

/-- It is refused for this reason if there are nodes and there is something to submit, and for no
other number of seconds. -/
theorem start_eq_invalidFreq_iff (s : Service) :
    s.start r = .error (.invalidFreq r.freq) ↔
      s.nodes ≠ none ∧ r.amount ≠ 0 ∧ r.freq.Unusable := by
  rw [← period?_eq_none_iff]
  unfold start paramsOf
  cases s.nodes with
  | none => simp
  | some nodes =>
    dsimp only
    by_cases hamount : r.amount = 0
    · simp [hamount]
    · rw [if_neg hamount]
      cases r.period? with
      | none => simp [hamount]
      | some period => cases s.isRunning <;> simp

/-- A request that makes its caller wait has started a run. -/
theorem exists_start_of_receive {a : Http.Arrival} {uptime : UInt64}
    (h : s.receive a uptime = (s', .waiting run)) :
    ∃ r, a.command? = some (.run r) ∧ s.start r = .ok (s', run) := by
  cases hcommand : a.command? with
  | none =>
    obtain ⟨response, hreceive⟩ := receive_of_command?_eq_none (s := s) hcommand uptime
    rw [hreceive] at h
    cases h
  | some c =>
    -- every other command is answered at once
    rw [receive_of_command? hcommand] at h
    have hhandles := s.handles_handle c
    generalize (s.handle c).1 = s₁, (s.handle c).2 = handling at hhandles h
    cases hhandles with
    | started hparams =>
      cases h
      exact ⟨_, rfl, by rw [start, hparams]; rfl⟩
    | _ => cases h

end Service

/-! ### Clockworks along events -/

/-- One thing that happens to a clockwork. -/
inductive ClockworkEvent where
  /-- A request arrives. -/
  | receive (a : Http.Arrival) (now : Nat) (uptimeSeconds : UInt64)
  /-- A beat of a run ticks if it is due; a submission goes under the id. -/
  | tick (run : RunId) (beat : Beat) (id : CorrelationId) (now : Nat)
  /-- An event happens to a run. -/
  | drive (run : RunId) (event : LoopEvent) (now : Nat)
  /-- The caller of a run looks what has come of it. -/
  | resume (run : RunId)
  /-- The caller of a run hangs up. -/
  | hangUp (run : RunId)
  /-- Every aborting run gets its turn. -/
  | yield

namespace Clockwork

/-- The clockwork of a configuration to which nothing has happened yet. -/
def initial (c : Config) : Clockwork where
  service := .initial c.schedule c.defaultUrl

/-- The clockwork after an event. -/
def react (k : Clockwork) : ClockworkEvent → Clockwork
  | .receive a now uptime => (k.receive a now uptime).1
  | .tick run beat id now => (k.tickIfDue run beat id now).1
  | .drive run event now => (k.drive run event now).1
  | .resume run => (k.resume run).1
  | .hangUp run => k.hangUp run
  | .yield => k.yield

/-- The clockwork after some events. -/
def after (k : Clockwork) (es : List ClockworkEvent) : Clockwork := es.foldl react k

variable {k : Clockwork}

theorem service_receive (k : Clockwork) (a : Http.Arrival) (now : Nat) (uptime : UInt64) :
    (k.receive a now uptime).1.service = (k.service.receive a uptime).1 := by
  unfold receive
  rcases k.service.receive a uptime with ⟨s, response | run⟩
  · rfl
  · dsimp only
    split <;> rfl

/-- No tickers begin for a request that is answered at once. -/
theorem beats_receive_of_answered {a : Http.Arrival} {uptime : UInt64} {response : Http.Response}
    (h : (k.service.receive a uptime).2 = .answered response) (now : Nat) :
    (k.receive a now uptime).1.beats = k.beats := by
  have hpair : k.service.receive a uptime
      = ((k.service.receive a uptime).1, .answered response) := Prod.ext rfl h
  unfold receive
  rw [hpair]

/-- To its service, what happens to a clockwork is one event or nothing. -/
theorem service_react (k : Clockwork) (e : ClockworkEvent) :
    (k.react e).service = k.service ∨
      ∃ f : ServiceEvent, (k.react e).service = (k.service.react f).1 := by
  cases e with
  | receive a now uptime =>
    refine Or.inr ⟨.request a uptime, ?_⟩
    rw [react, service_receive, Service.react]
  | tick run beat id now =>
    unfold react tickIfDue
    dsimp only
    split
    · exact Or.inr ⟨.drive run (beat.event id) (.ofNanos now), rfl⟩
    · exact Or.inl rfl
  | drive run event now => exact Or.inr ⟨.drive run event (.ofNanos now), rfl⟩
  | resume run => exact Or.inr ⟨.resume run, rfl⟩
  | hangUp run => exact Or.inr ⟨.hangUp run, rfl⟩
  | yield => exact Or.inr ⟨.yield, rfl⟩

/-! ### The invariant -/

/-- What every clockwork with a sound schedule satisfies. -/
structure Timely (schedule : Schedule) (k : Clockwork) : Prop where
  orderly : k.service.Orderly
  schedule_eq : k.service.schedule = schedule
  /-- Each ticker of each run has a period. -/
  beats : ∀ p ∈ k.beats, p.2.AllPositive

namespace Timely

variable {schedule : Schedule}

/-- A request that makes its caller wait has asked for a run, and has started one that is well
timed and whose tickers begin. -/
theorem receive_waiting (hsound : schedule.IsSound) (h : k.Timely schedule) {a : Http.Arrival}
    {uptime : UInt64} {run : RunId} (now : Nat)
    (hwaiting : (k.service.receive a uptime).2 = .waiting run) :
    ∃ r t, a.command? = some (.run r) ∧ (k.receive a now uptime).1.service.task? run = some t ∧
      t.IsWellTimed schedule r ∧
      (k.receive a now uptime).1.beats
        = (run, Beats.start now schedule t.loop.params.period) :: k.beats := by
  have horderly := h.orderly.react (.request a uptime)
  have hschedule := (k.service.schedule_react (.request a uptime)).trans h.schedule_eq
  rw [Service.react] at horderly hschedule
  obtain ⟨s, hs⟩ : ∃ s, k.service.receive a uptime = (s, .waiting run) := ⟨_, Prod.ext rfl hwaiting⟩
  rw [hs] at horderly hschedule
  obtain ⟨r, hcommand, hstart⟩ := Service.exists_start_of_receive hs
  obtain ⟨t, htasks, hid, htimed⟩ :=
    Service.wellTimed_of_start (by rw [h.schedule_eq]; exact hsound) hstart
  rw [h.schedule_eq] at htimed
  -- the new task is the one with the number of the run, and it goes on, so its tickers begin
  have ht : s.task? run = some t := horderly.task?_eq_some_iff.mpr ⟨by simp [htasks], hid⟩
  have hloop : ({ k with service := s } : Clockwork).loop? run = some t.loop := by
    unfold loop?
    simp only [ht, htimed.phase_eq]
  refine ⟨r, t, hcommand, ?_, htimed, ?_⟩
  · rw [service_receive, hs]
    exact ht
  · unfold receive
    rw [hs]
    dsimp only at hschedule ⊢
    rw [hloop, ← hschedule]

/-- **Invariant preservation.** -/
theorem react (hsound : schedule.IsSound) (h : k.Timely schedule) (e : ClockworkEvent) :
    (k.react e).Timely schedule := by
  -- the service goes its own way, whatever becomes of the tickers
  have hservice : (k.react e).service.Orderly ∧ (k.react e).service.schedule = schedule := by
    rcases k.service_react e with hsame | ⟨f, hreact⟩
    · rw [hsame]
      exact ⟨h.orderly, h.schedule_eq⟩
    · rw [hreact]
      exact ⟨h.orderly.react f, (k.service.schedule_react f).trans h.schedule_eq⟩
  refine ⟨hservice.1, hservice.2, ?_⟩
  cases e with
  | receive a now uptime =>
    rw [Clockwork.react]
    cases hreception : (k.service.receive a uptime).2 with
    | answered response =>
      rw [beats_receive_of_answered hreception]
      exact h.beats
    | waiting run =>
      obtain ⟨r, t, -, -, htimed, hbeats⟩ := h.receive_waiting hsound now hreception
      rw [hbeats]
      exact List.forall_mem_cons.mpr ⟨htimed.beats now, h.beats⟩
  | tick run beat id now =>
    rw [Clockwork.react, tickIfDue]
    split
    · -- one of the tickers has ticked
      intro p hp
      obtain ⟨⟨i, b⟩, hb, rfl⟩ := List.mem_map.mp hp
      dsimp only
      split
      · exact (h.beats _ hb).tick beat now
      · exact h.beats _ hb
    · exact h.beats
  | _ => exact h.beats

theorem initial (c : Config) : (Clockwork.initial c).Timely c.schedule where
  orderly := .initial c.schedule c.defaultUrl
  schedule_eq := rfl
  beats := nofun

theorem after (hsound : schedule.IsSound) (h : k.Timely schedule) (es : List ClockworkEvent) :
    (k.after es).Timely schedule := by
  induction es generalizing k with
  | nil => exact h
  | cons e es ih => exact ih (h.react hsound e)

/-- No run comes by other deadlines than those of the schedule. -/
theorem deadlines_eq (h : k.Timely schedule) {t : Task} (ht : t ∈ k.service.tasks) :
    t.loop.run.deadlines = schedule.deadlines := by
  obtain ⟨told, hrun⟩ := (h.orderly.tasks t ht).run_eq
  rw [hrun, ← h.schedule_eq]
  exact (Run.sameTask_after (Run.orderly_start _ _ _) told).deadlines

end Timely

/-- **No run has a ticker without a period.** Whatever is in the file of a configuration, or if
there is none: if a configuration is loaded, then a run that a service with its schedule starts is
well timed, and a request is refused whose number of seconds is no number, infinite, zero, negative,
too large or rounded to nothing; and no other number is given as the reason. Whatever happens to a
clockwork of the configuration, each ticker of each run has a period, and no hard deadline comes
before the soft one; and a request that makes its caller wait has started a run that is well timed,
with tickers of the periods of the schedule. -/
theorem timers_positive {named : Bool} {content : Except FileFault (List UInt8)} {c : Config}
    (hload : Config.load named content = .ok c) :
    (∀ (s : Service) (r : RunRequest), s.schedule = c.schedule →
      (∀ s' run, s.start r = .ok (s', run) →
        ∃ t, s'.tasks = s.tasks ++ [t] ∧ t.id = run ∧ t.IsWellTimed c.schedule r) ∧
      (r.freq.Unusable → ∃ fault, s.start r = .error fault) ∧
      (s.start r = .error (.invalidFreq r.freq) ↔
        s.nodes ≠ none ∧ r.amount ≠ 0 ∧ r.freq.Unusable)) ∧
    ∀ es : List ClockworkEvent,
      let k := (initial c).after es
      k.service.schedule = c.schedule ∧
      (∀ p ∈ k.beats, p.2.AllPositive) ∧
      (∀ t ∈ k.service.tasks, t.loop.run.deadlines.soft ≤ t.loop.run.deadlines.hard) ∧
      ∀ a now uptime run, (k.receive a now uptime).2 = .waiting run →
        ∃ r t, a.command? = some (.run r) ∧
          (k.receive a now uptime).1.service.task? run = some t ∧ t.IsWellTimed c.schedule r ∧
          (k.receive a now uptime).1.beats
            = (run, Beats.start now c.schedule t.loop.params.period) :: k.beats := by
  have hsound : c.schedule.IsSound := Config.sound_schedule (Config.validate?_of_load hload)
  refine ⟨fun s r hschedule => ⟨fun s' run hstart => ?_, s.exists_start_eq_error,
    s.start_eq_invalidFreq_iff⟩, fun es => ?_⟩
  · rw [← hschedule] at hsound ⊢
    exact Service.wellTimed_of_start hsound hstart
  · have h : ((initial c).after es).Timely c.schedule := (Timely.initial c).after hsound es
    refine ⟨h.schedule_eq, h.beats, fun t ht => ?_, fun a now uptime run hwaiting => ?_⟩
    · rw [h.deadlines_eq ht]
      exact hsound.ordered
    · rw [receive_snd] at hwaiting
      exact h.receive_waiting hsound now hwaiting

/-- A configuration with a period of its own. -/
private def quick : Config := { pollMillis := 7 }

/-- A service of this configuration that watches a node. -/
private def quickService : Service :=
  (Service.initial quick.schedule quick.defaultUrl).after [.command (.watches ["a"])]

/-- One transaction. -/
private def oneEvery (freq : Binary64) : RunRequest := ⟨freq, 1, none, none, none⟩

/-- A file changes one period. A run with one second between submissions is started, and one with a
tenth of a nanosecond is not. -/
theorem timers_positive_quick :
    Config.load true (.ok (encodeUtf8 "[schedule]\npoll_interval_ms = 7\n")) = .ok quick ∧
      (∃ s' t, quickService.start (oneEvery ⟨0x3FF0000000000000⟩) = .ok (s', 0) ∧
        s'.tasks = [t] ∧ t.IsWellTimed quick.schedule (oneEvery ⟨0x3FF0000000000000⟩) ∧
        t.loop.params.period = Span.secs 1) ∧
      quickService.start (oneEvery ⟨0x3DDB7CDFD9D7BDBB⟩)
        = .error (.invalidFreq ⟨0x3DDB7CDFD9D7BDBB⟩) := by
  have hload : Config.load true (.ok (encodeUtf8 "[schedule]\npoll_interval_ms = 7\n"))
      = .ok quick := rfl
  refine ⟨hload, ?_, ?_⟩
  · have hstart : ∃ s', quickService.start (oneEvery ⟨0x3FF0000000000000⟩) = .ok (s', 0) := ⟨_, rfl⟩
    obtain ⟨s', hstart⟩ := hstart
    obtain ⟨t, htasks, -, htimed⟩ := ((timers_positive hload).1 quickService _ rfl).1 s' 0 hstart
    refine ⟨s', t, hstart, htasks, htimed, ?_⟩
    cases hstart
    cases htasks
    decide +kernel
  · have hunusable : (oneEvery ⟨0x3DDB7CDFD9D7BDBB⟩).freq.Unusable :=
      Binary64.positiveSpan?_eq_none_iff.mp (by decide)
    exact ((timers_positive hload).1 quickService _ rfl).2.2.mpr ⟨nofun, by decide, hunusable⟩

end Clockwork

end ChainWatch
