import ChainWatch.Proofs.Service.Answer
import ChainWatch.Service.Clockwork

/-!
# A run that has ended is silent

What a run sends does not go outside at once. The run hands its requests over, and each of them has
its own turn later, in any order; a request whose turn comes when its run has ended is dropped and
never goes outside. A `Traffic` is a service with the requests that were handed over and wait for
their turn, and with those that did go outside, to a node or to the submitter.

A run that has settled or was cancelled hands nothing over, hears nothing and never comes to life
again, so from then on no request of it goes outside (`ended_run_silent`). A run that was told to
end is in between: it does nothing any more, but what it has handed over may still go outside, until
its next turn cancels it.
-/

namespace ChainWatch

/-- One thing that happens where requests go outside. -/
inductive TrafficEvent where
  /-- Something happens to the service. -/
  | happens (e : ServiceEvent)
  /-- The request that waits at this place gets its turn. -/
  | turn (place : Nat)

/-- What happens to the service, if anything. -/
def TrafficEvent.event? : TrafficEvent → Option ServiceEvent
  | .happens e => some e
  | .turn _ => none

/-- What happens to the service along some events. -/
def happenings (fs : List TrafficEvent) : List ServiceEvent := fs.filterMap TrafficEvent.event?

theorem happenings_append (fs gs : List TrafficEvent) :
    happenings (fs ++ gs) = happenings fs ++ happenings gs := List.filterMap_append

theorem happenings_concat (fs : List TrafficEvent) (f : TrafficEvent) :
    happenings (fs ++ [f]) = happenings fs ++ f.event?.toList := by
  rw [happenings_append]
  cases f <;> rfl

/-- Has a run been started and not ended? -/
def Service.isGoing (s : Service) (run : RunId) : Bool :=
  (s.task? run).any fun t => !t.phase.isFinished

/-- A service and the requests of its runs. -/
structure Traffic where
  service : Service
  /-- What was handed over and has not had its turn. -/
  waiting : List (RunId × LoopRequest) := []
  /-- What did go outside. -/
  issued : List (RunId × LoopRequest) := []

namespace Traffic

/-- The traffic of a service to which nothing has happened yet. -/
def initial (schedule : Schedule) (defaultUrl : String) : Traffic where
  service := .initial schedule defaultUrl

/-- The traffic after an event. -/
def react (x : Traffic) : TrafficEvent → Traffic
  | .happens e =>
    { x with
      service := (x.service.react e).1
      waiting := x.waiting ++ (x.service.react e).2.requests }
  | .turn place =>
    match x.waiting[place]? with
    | none => x
    | some q =>
      -- a run takes its requests with it when it ends
      { x with
        waiting := x.waiting.eraseIdx place
        issued := if x.service.isGoing q.1 then x.issued ++ [q] else x.issued }

/-- The traffic after some events. -/
def after (x : Traffic) (fs : List TrafficEvent) : Traffic := fs.foldl react x

theorem after_concat (x : Traffic) (fs : List TrafficEvent) (f : TrafficEvent) :
    x.after (fs ++ [f]) = (x.after fs).react f := List.foldl_concat ..

/-- What is silent about the run of the task `t` while some events happen. -/
structure Silent (x : Traffic) (run : RunId) (t : Task) (fs : List TrafficEvent) : Prop where
  /-- None of its requests goes outside. -/
  issued : ∃ added, (x.after fs).issued = x.issued ++ added ∧ ∀ q ∈ added, q.1 ≠ run
  /-- It hands nothing over. -/
  waiting : ∀ request, (run, request) ∈ (x.after fs).waiting → (run, request) ∈ x.waiting
  /-- Neither the run nor its end changes. -/
  task : ∃ t', (x.after fs).service.task? run = some t' ∧ t'.loop = t.loop ∧ t'.phase = t.phase
  /-- The end of a request, or any other event of the run, changes no run at all. -/
  deaf : ∀ event now, (x.after fs).service.drive run event now = ((x.after fs).service, [])
  /-- Its tickers do not tick. -/
  still : ∀ c : Clockwork, c.service = (x.after fs).service →
    ∀ beat id now, c.tickIfDue run beat id now = (c, [])
  /-- Its caller gets nothing but what has come of it. -/
  answers : ∀ response ∈ x.service.answers run (happenings fs),
    t.phase.outcome?.map .ofOutcome = some response

/-- What is left of the run of the task `t`, which was told to end, while some events happen. -/
structure Ending (x : Traffic) (run : RunId) (t : Task) (fs : List TrafficEvent) : Prop where
  /-- Of its requests, only those go outside that it has handed over. -/
  issued : ∀ request, (run, request) ∈ (x.after fs).issued →
    (run, request) ∈ x.issued ∨ (run, request) ∈ x.waiting
  /-- It hands nothing over. -/
  waiting : ∀ request, (run, request) ∈ (x.after fs).waiting → (run, request) ∈ x.waiting
  /-- The run does not change, and it never settles. -/
  task : ∃ t', (x.after fs).service.task? run = some t' ∧ t'.loop = t.loop ∧
    (t'.phase = .aborting ∨ t'.phase = .cancelled)

end Traffic

namespace Service

variable {s : Service} {e : ServiceEvent} {t : Task} {run : RunId} {es : List ServiceEvent}

/-! ### Runs that are over -/

theorem isGoing_eq_false (ht : s.task? run = some t) (hfinished : t.phase.isFinished = true) :
    s.isGoing run = false := by
  rw [isGoing, ht, Option.any_some, hfinished]
  rfl

/-- Only a live run hands requests over. -/
theorem isLive_of_mem_requests {q : RunId × LoopRequest} (hq : q ∈ (s.react e).2.requests) :
    s.IsLive q.1 := by
  cases e with
  | drive run event now =>
    obtain ⟨request, hrequest, rfl⟩ := List.mem_map.mp hq
    unfold drive at hrequest
    cases ht : s.task? run with
    | none =>
      rw [ht] at hrequest
      cases hrequest
    | some t =>
      rw [ht] at hrequest
      have hsent : request ∈ (t.drive event now).2 := hrequest
      -- a task that is not live sends nothing, but this one has
      refine ⟨t, ht, by_contra fun hover => ?_⟩
      rw [Task.drive_snd_of_not_live hover] at hsent
      cases hsent
  | _ => cases hq

namespace Orderly

/-- No event of a run that has ended changes anything. -/
theorem drive_of_isFinished (h : s.Orderly) (ht : s.task? run = some t)
    (hfinished : t.phase.isFinished = true) (event : LoopEvent) (now : Moment) :
    s.drive run event now = (s, []) := by
  have hdrive : t.drive event now = (t, []) := by
    unfold Task.drive
    cases hphase : t.phase with
    | settled report => rfl
    | cancelled => rfl
    | _ =>
      rw [hphase] at hfinished
      cases hfinished
  -- the task is put back where it was
  have hsame : s.modifyTask run (fun _ => t) = s := by
    unfold modifyTask
    rw [map_tasks_congr h.nodup ht (f := fun _ => t) (g := fun u => u) rfl]
    simp
  unfold drive
  rw [ht]
  dsimp only
  rw [hdrive, hsame]

/-- The caller of a run that has ended gets nothing but what has come of it. -/
theorem outcome?_of_mem_answers (h : s.Orderly) (ht : s.task? run = some t)
    (hfinished : t.phase.isFinished = true) {response : Http.Response}
    (hresponse : response ∈ s.answers run es) :
    t.phase.outcome?.map Http.Response.ofOutcome = some response := by
  rw [answers_eq_map_outcomes] at hresponse
  obtain ⟨o, ho, rfl⟩ := List.mem_map.mp hresponse
  obtain ⟨u, hu, houtcome⟩ := h.outcome?_of_mem_outcomes ho
  -- the run has come to what it had come to before
  obtain ⟨t', ht', -, hphase⟩ := h.task?_after_of_isFinished ht hfinished es
  obtain rfl := Option.some.inj (ht'.symm.trans hu)
  rw [← hphase, houtcome]
  rfl

/-- If all runs have ended, they have until another one is started. -/
theorem isFinished_after (h : s.Orderly) (hall : ∀ t ∈ s.tasks, t.phase.isFinished = true)
    (hstarted : s.started es = []) : ∀ t ∈ (s.after es).tasks, t.phase.isFinished = true := by
  induction es using List.reverseRecOn with
  | nil => exact hall
  | append_singleton es e ih =>
    rw [started_concat, List.append_eq_nil_iff, started?_react, List.map_eq_nil_iff] at hstarted
    rw [after_concat, tasks_react (h.after es).nodup, hstarted.2, List.append_nil]
    intro t ht
    obtain ⟨u, hu, rfl⟩ := List.mem_map.mp ht
    have hended := ih hstarted.1 u hu
    rwa [(Task.passage_undergo _ e u).phase_of_isFinished hended]

end Orderly

end Service

/-- The tickers of a run that is live no more do not tick. -/
theorem Clockwork.tickIfDue_of_not_live {c : Clockwork} {run : RunId} {t : Task}
    (ht : c.service.task? run = some t) (hover : t.phase ≠ .driving) (beat : Beat)
    (id : CorrelationId) (now : Nat) : c.tickIfDue run beat id now = (c, []) := by
  have hloop : c.loop? run = none := by
    unfold loop?
    rw [ht]
    dsimp only
    cases hphase : t.phase with
    | driving => exact absurd hphase hover
    | _ => rfl
  have hdue : c.isDue run beat now = false := by rw [isDue, hloop]
  unfold tickIfDue
  rw [hdue]
  rfl

namespace Traffic

variable {x : Traffic} {run : RunId} {t : Task}

/-! ### What goes outside -/

/-- The service does not see when requests go outside. -/
theorem service_after (x : Traffic) (fs : List TrafficEvent) :
    (x.after fs).service = x.service.after (happenings fs) := by
  induction fs using List.reverseRecOn with
  | nil => rfl
  | append_singleton fs f ih =>
    rw [after_concat, happenings_concat, Service.after_append, ← ih]
    cases f with
    | happens e => rfl
    | turn place =>
      unfold react
      dsimp only
      split <;> rfl

theorem orderly_after (schedule : Schedule) (defaultUrl : String) (fs : List TrafficEvent) :
    ((initial schedule defaultUrl).after fs).service.Orderly := by
  rw [service_after]
  exact Service.orderly_after schedule defaultUrl _

theorem issued_react (x : Traffic) (f : TrafficEvent) :
    ∃ added, (x.react f).issued = x.issued ++ added ∧
      ∀ q ∈ added, q ∈ x.waiting ∧ x.service.isGoing q.1 = true := by
  have hnone : ∃ added, x.issued = x.issued ++ added ∧
      ∀ q ∈ added, q ∈ x.waiting ∧ x.service.isGoing q.1 = true :=
    ⟨[], (List.append_nil _).symm, nofun⟩
  cases f with
  | happens e => exact hnone
  | turn place =>
    unfold react
    dsimp only
    cases hplace : x.waiting[place]? with
    | none => exact hnone
    | some q =>
      dsimp only
      cases hgoing : x.service.isGoing q.1 with
      | false => exact hnone
      -- the one request whose turn it is
      | true =>
        refine ⟨[q], rfl, fun q' hq' => ?_⟩
        obtain rfl := List.mem_singleton.mp hq'
        exact ⟨List.mem_of_getElem? hplace, hgoing⟩

/-- Whatever goes outside had waited for its turn, and its run had not ended by then. -/
theorem issued_after (x : Traffic) (fs : List TrafficEvent) :
    ∃ added, (x.after fs).issued = x.issued ++ added ∧
      ∀ q ∈ added, ∃ before later, fs = before ++ later ∧ q ∈ (x.after before).waiting ∧
        (x.after before).service.isGoing q.1 = true := by
  induction fs using List.reverseRecOn with
  | nil => exact ⟨[], (List.append_nil _).symm, nofun⟩
  | append_singleton fs f ih =>
    obtain ⟨added, hadded, hmem⟩ := ih
    -- what went outside before, and what goes outside at this event
    obtain ⟨now, hnow, hmem'⟩ := (x.after fs).issued_react f
    refine ⟨added ++ now, by rw [after_concat, hnow, hadded, List.append_assoc], fun q hq => ?_⟩
    rcases List.mem_append.mp hq with hq | hq
    · obtain ⟨before, later, rfl, hgoing⟩ := hmem q hq
      exact ⟨before, later ++ [f], List.append_assoc .., hgoing⟩
    · exact ⟨fs, [f], rfl, hmem' q hq⟩

/-- A run that is live no more hands nothing over. -/
theorem waiting_after (h : x.service.Orderly) (ht : x.service.task? run = some t)
    (hover : t.phase ≠ .driving) (fs : List TrafficEvent) {request : LoopRequest}
    (hwaiting : (run, request) ∈ (x.after fs).waiting) : (run, request) ∈ x.waiting := by
  induction fs using List.reverseRecOn with
  | nil => exact hwaiting
  | append_singleton fs f ih =>
    rw [after_concat] at hwaiting
    cases f with
    | happens e =>
      rcases List.mem_append.mp hwaiting with hbefore | hnew
      · exact ih hbefore
      · -- only a live run hands requests over, and this one does not come to life again
        obtain ⟨u, hu, hlive⟩ := Service.isLive_of_mem_requests hnew
        obtain ⟨u', hu', hover', -⟩ := h.task?_after_of_not_live ht hover (happenings fs)
        rw [← service_after] at hu'
        rw [Option.some.inj (hu'.symm.trans hu)] at hover'
        exact absurd hlive hover'
    | turn place =>
      unfold react at hwaiting
      dsimp only at hwaiting
      split at hwaiting
      · exact ih hwaiting
      · exact ih (List.mem_of_mem_eraseIdx hwaiting)

/-- A run that has ended is silent whatever follows. -/
theorem silent_of_isFinished (h : x.service.Orderly) (ht : x.service.task? run = some t)
    (hfinished : t.phase.isFinished = true) (fs : List TrafficEvent) : x.Silent run t fs := by
  have hover {u : Task} (hphase : u.phase = t.phase) : u.phase ≠ .driving := by
    intro hlive
    rw [← hphase, hlive] at hfinished
    cases hfinished
  -- it has ended at every moment of what follows
  have hstays (before : List TrafficEvent) : ∃ t', (x.after before).service.task? run = some t' ∧
      t'.loop = t.loop ∧ t'.phase = t.phase := by
    rw [service_after]
    exact h.task?_after_of_isFinished ht hfinished (happenings before)
  obtain ⟨t', ht', hloop, hphase⟩ := hstays fs
  have horderly : (x.after fs).service.Orderly := by
    rw [service_after]
    exact h.after _
  constructor
  case issued =>
    obtain ⟨added, hadded, hmem⟩ := x.issued_after fs
    refine ⟨added, hadded, fun q hq hrun => ?_⟩
    obtain ⟨before, later, -, -, hgoing⟩ := hmem q hq
    obtain ⟨u, hu, -, hphase⟩ := hstays before
    rw [hrun, Service.isGoing_eq_false hu (by rwa [hphase])] at hgoing
    cases hgoing
  case waiting => exact fun request => waiting_after h ht (hover rfl) fs
  case task => exact ⟨t', ht', hloop, hphase⟩
  case deaf => exact horderly.drive_of_isFinished ht' (by rwa [hphase])
  case still =>
    intro c hc
    rw [← hc] at ht'
    exact c.tickIfDue_of_not_live ht' (hover hphase)
  case answers => exact fun response => h.outcome?_of_mem_answers ht hfinished

/-- A run that was told to end is silent but for what it has handed over. -/
theorem ending_of_aborting (h : x.service.Orderly) (ht : x.service.task? run = some t)
    (haborting : t.phase = .aborting) (fs : List TrafficEvent) : x.Ending run t fs := by
  have hover : t.phase ≠ .driving := by simp [haborting]
  constructor
  case issued =>
    obtain ⟨added, hadded, hmem⟩ := x.issued_after fs
    intro request hissued
    rw [hadded, List.mem_append] at hissued
    rcases hissued with hbefore | hnow
    · exact Or.inl hbefore
    · -- it had waited for its turn, and nothing has been handed over since
      obtain ⟨before, -, -, hwaiting, -⟩ := hmem _ hnow
      exact Or.inr (waiting_after h ht hover before hwaiting)
  case waiting => exact fun request => waiting_after h ht hover fs
  case task =>
    rw [service_after]
    exact h.task?_after_of_aborting ht haborting (happenings fs)

end Traffic

/-- **A run that has ended is silent.** Whatever has happened to a service and to the requests of
its runs, what ends a live run settles it or tells it to end. A run that was told to end does
nothing more and is cancelled by its next turn; until then, only what it has handed over may go
outside (`Ending`). A run that has settled or was cancelled is silent for ever (`Silent`). So once
all runs have ended, nothing goes outside before another one is started. -/
theorem Traffic.ended_run_silent (schedule : Schedule) (defaultUrl : String)
    (es : List TrafficEvent) :
    let x := (initial schedule defaultUrl).after es
    (∀ run t e, x.service.task? run = some t → t.phase = .driving → t.EndedBy e →
      ∃ t', (x.service.react e).1.task? run = some t' ∧
        (t'.phase.isFinished = true ∨ t'.phase = .aborting)) ∧
    (∀ run t, x.service.task? run = some t → t.phase = .aborting →
      (∀ fs, x.Ending run t fs) ∧ ∀ turn, turn.IsTurn run →
        ∃ t', (x.service.react turn).1.task? run = some t' ∧ t'.phase = .cancelled) ∧
    (∀ run t, x.service.task? run = some t → t.phase.isFinished = true →
      ∀ fs, x.Silent run t fs) ∧
    (∀ fs, (∀ t ∈ x.service.tasks, t.phase.isFinished = true) →
      x.service.started (happenings fs) = [] → (x.after fs).issued = x.issued) := by
  intro x
  have h : x.service.Orderly := orderly_after schedule defaultUrl es
  refine ⟨?_, ?_, fun run t => silent_of_isFinished h, ?_⟩
  · intro run t e ht hlive hended
    obtain ⟨hown, hwaiting⟩ := h.of_isLive ht hlive
    obtain ⟨t', ht', hpassage⟩ := h.passage_react ht e
    refine ⟨t', ht', ?_⟩
    rcases hpassage.phase_of_endedBy hlive hown hwaiting hended with
      ⟨⟨report, hsettled⟩, -⟩ | haborting
    · exact Or.inl (by rw [hsettled]; rfl)
    · exact Or.inr haborting
  · intro run t ht haborting
    refine ⟨ending_of_aborting h ht haborting, fun turn hturn => ?_⟩
    obtain ⟨t', ht', hpassage⟩ := h.passage_react ht turn
    rw [← (h.task?_eq_some_iff.mp ht).2] at hturn
    have hcancelled := (hpassage.phase_of_aborting haborting).resolve_left fun hnot => hnot.1 hturn
    exact ⟨t', ht', hcancelled.2⟩
  · intro fs hall hstarted
    obtain ⟨added, hadded, hmem⟩ := x.issued_after fs
    have hnone : added = [] := by
      refine List.eq_nil_iff_forall_not_mem.mpr fun q hq => ?_
      obtain ⟨before, later, rfl, -, hgoing⟩ := hmem q hq
      have hbefore : x.service.started (happenings before) = [] := by
        rw [happenings_append, Service.started_append, List.append_eq_nil_iff] at hstarted
        exact hstarted.1
      -- the request would be of a run that has not ended
      rw [service_after, Service.isGoing, Option.any_eq_true] at hgoing
      obtain ⟨t, ht, hgoing⟩ := hgoing
      have hmem : t ∈ (x.service.after (happenings before)).tasks :=
        ((h.after _).task?_eq_some_iff.mp ht).1
      rw [h.isFinished_after hall hbefore t hmem] at hgoing
      cases hgoing
    rw [hadded, hnone, List.append_nil]

/-- A run is stopped between the turns of its two requests, and the second one is dropped. -/
example :
    let request : RunRequest := ⟨⟨0x3FF0000000000000⟩, 1, none, none, none⟩
    let x := (Traffic.initial {} "").after
      [.happens (.command (.watches ["a", "b"])), .happens (.command (.run request)),
        .happens (.drive 0 .refreshDue .start), .turn 0, .happens (.command .stop), .happens .yield,
        .turn 0]
    x.issued.length = 1 ∧ x.waiting.length = 0 := by decide

end ChainWatch
