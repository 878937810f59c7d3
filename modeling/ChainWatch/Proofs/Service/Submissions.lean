import ChainWatch.Proofs.Run.Account
import ChainWatch.Proofs.Run.Balance
import ChainWatch.Proofs.Service.Orderly

/-!
# What a run submits

A loop submits a transaction at the moment at which its run registers it, and at no other. This file
keeps the account of that along executions of a loop, which are lists of events in any order
(`Loop.after`, `Loop.sent`):

* `Loop.submissions_step` — what a step submits, as an equation: one transaction if the run takes
  the id that is drawn, and else none. Everything else follows from it by adding up;
* `Loop.SubmitsFor` — what is then true of a loop that works for a request, after any events and at
  the next one;
* `Service.exists_events` — the loop of a run that a service has started takes part in such an
  execution, whatever else happens to the service, and what the service sends for the run is what
  the loop sends.

`submissions_accounted` puts them together, from a request that a service has accepted on.
-/

namespace ChainWatch

namespace LoopRequest

/-- The submission that a request is, if it is one. -/
def submission? : LoopRequest → Option Submission
  | .submit s => some s
  | _ => none

end LoopRequest

/-- How a request wants a transaction submitted, where the place is the given one if the request
does not say. -/
def RunRequest.submission (r : RunRequest) (defaultUrl : String) (id : CorrelationId) :
    Submission where
  id := id
  url := r.url.getD defaultUrl
  users := r.users
  debug := r.debug

/-! ### Registering -/

namespace Run

variable {r : Run} {id : CorrelationId}

/-- What is watched after some events was watched before, or has been submitted along them. -/
theorem mem_ids_after (h : r.Orderly) {evs : List RunEvent}
    (hid : id ∈ (r.after evs).watches.ids) : id ∈ r.watches.ids ∨ ∃ t, .submit id t ∈ evs := by
  induction evs using List.reverseRecOn generalizing id with
  | nil => exact Or.inl hid
  | append_singleton evs ev ih =>
    rw [after_concat] at hid
    obtain ⟨w, hw, rfl⟩ := List.mem_map.mp hid
    -- the watch was there before the last event, or this one has added it
    rcases (h.after evs).origin hw with ⟨u, hu, rfl⟩ | ⟨t, rfl, -⟩
    · rw [told_id]
      exact (ih (List.mem_map_of_mem hu)).imp_right fun ⟨t, ht⟩ => ⟨t, List.mem_append_left _ ht⟩
    · exact Or.inr ⟨t, by simp⟩

theorem registrations_append (es fs : List RunEvent) :
    r.registrations (es ++ fs) = r.registrations es + (r.after es).registrations fs := by
  unfold registrations
  rw [replies_append, List.count_append]

theorem wantsSubmission_eq_false (h : r.isSettled = true ∨ r.target ≤ r.submitted) :
    r.wantsSubmission = false := by
  rcases h with hsettled | hreached
  · simp [wantsSubmission, hsettled]
  · simp [wantsSubmission, UInt32.not_lt.mpr hreached]

end Run

namespace Loop

variable {l first : Loop} {id : CorrelationId} {e : LoopEvent} {now : Moment}

/-! ### Executions -/

/-- The loop after some events, each at its moment. -/
def after (l : Loop) (es : List (LoopEvent × Moment)) : Loop :=
  es.foldl (fun l e => (l.step e.1 e.2).1) l

/-- What the loop sends along some events. -/
def sent (l : Loop) : List (LoopEvent × Moment) → List LoopRequest
  | [] => []
  | e :: es => (l.step e.1 e.2).2 ++ (l.step e.1 e.2).1.sent es

/-- What its run is told along them. -/
def told (l : Loop) : List (LoopEvent × Moment) → List RunEvent
  | [] => []
  | e :: es => l.news e.1 e.2 ++ (l.step e.1 e.2).1.told es

/-- What it submits. -/
def submissions (l : Loop) (es : List (LoopEvent × Moment)) : List Submission :=
  (l.sent es).filterMap LoopRequest.submission?

section Executions

variable (l) (es fs : List (LoopEvent × Moment)) (e : LoopEvent × Moment)

theorem after_append : l.after (es ++ fs) = (l.after es).after fs := List.foldl_append

theorem after_concat : l.after (es ++ [e]) = ((l.after es).step e.1 e.2).1 := l.after_append es [e]

theorem sent_append : l.sent (es ++ fs) = l.sent es ++ (l.after es).sent fs := by
  induction es generalizing l with
  | nil => rfl
  | cons e es ih =>
    show (l.step e.1 e.2).2 ++ (l.step e.1 e.2).1.sent (es ++ fs) = _
    rw [ih]
    exact (List.append_assoc ..).symm

theorem submissions_concat : l.submissions (es ++ [e])
    = l.submissions es ++ ((l.after es).step e.1 e.2).2.filterMap LoopRequest.submission? := by
  unfold submissions
  rw [sent_append, List.filterMap_append]
  simp only [sent, List.append_nil]

@[simp] theorem params_after : (l.after es).params = l.params := by
  induction es generalizing l with
  | nil => rfl
  | cons e es ih => exact (ih _).trans params_step

theorem submission_after (id : CorrelationId) : (l.after es).submission id = l.submission id := by
  unfold submission
  rw [params_after]

theorem run_after : (l.after es).run = l.run.after (l.told es) := by
  induction es generalizing l with
  | nil => rfl
  | cons e es ih =>
    show ((l.step e.1 e.2).1.after es).run = l.run.after (l.news e.1 e.2 ++ _)
    rw [ih, run_step, Run.after_append]

end Executions

/-! ### What a step submits -/

/-- The run takes the id: it is registered and submitted. -/
theorem step_submitDue_of_taken (h : (l.run.submit id now).2 = true) :
    l.step (.submitDue id) now
      = ({ l with
            run := (l.run.submit id now).1
            outstanding := l.outstanding ++ [.submit (l.submission id)] },
          [.submit (l.submission id)]) := by
  obtain ⟨hwants, -⟩ := Run.submit_snd_iff.mp h
  have hrunning : l.isOver = false := by
    cases hover : l.isOver with
    | false => rfl
    | true => rw [Run.wantsSubmission_eq_false (Or.inl hover)] at hwants; cases hwants
  have hpair : l.run.submit id now = ((l.run.submit id now).1, true) := Prod.ext rfl h
  have hsubmit : l.submitNext id now
      = { l with run := (l.run.submit id now).1 }.send [.submit (l.submission id)] := by
    unfold submitNext
    rw [hpair]
  -- registering a transaction settles no run
  have hstill : (l.submitNext id now).1.isOver = false := by
    have hreport : (l.run.submit id now).1.isSettled = l.run.isSettled := by
      rw [Run.submit_of_taken h]
      rfl
    rw [hsubmit]
    exact hreport.trans hrunning
  rw [step_of_not_isOver hrunning, react, if_pos hwants, close_of_not_isOver hstill, hsubmit]
  rfl

/-- The run does not take the id: nothing happens. -/
theorem step_submitDue_of_not_taken (h : (l.run.submit id now).2 = false) :
    l.step (.submitDue id) now = (l, []) := by
  cases hover : l.isOver with
  | true => exact step_of_isOver hover
  | false =>
    have hreact : l.react (.submitDue id) now = (l, []) := by
      have hpair : l.run.submit id now = ((l.run.submit id now).1, false) := Prod.ext rfl h
      unfold react submitNext
      dsimp only
      rw [hpair]
      split <;> rfl
    rw [step_of_not_isOver hover, hreact, close_of_not_isOver hover]

/-- **What a step submits.** The transaction that the run registers at it, if it does. -/
theorem submissions_step (l : Loop) (e : LoopEvent) (now : Moment) :
    (l.step e now).2.filterMap LoopRequest.submission? =
      match e with
      | .submitDue id => if (l.run.submit id now).2 then [l.submission id] else []
      | _ => [] := by
  -- what is sent on any other event asks something
  have hasks (h : ∀ q ∈ (l.react e now).2, q.submission? = none) :
      (l.step e now).2.filterMap LoopRequest.submission? = [] := by
    cases hover : l.isOver with
    | true =>
      rw [step_of_isOver hover]
      rfl
    | false =>
      rw [step_of_not_isOver hover]
      exact List.filterMap_eq_nil_iff.mpr h
  cases e with
  | refreshDue =>
    refine hasks fun q hq => ?_
    obtain ⟨node, url, -, -, rfl⟩ := mem_refreshNodes_iff.mp hq
    rfl
  | submitDue id =>
    dsimp only
    cases h : (l.run.submit id now).2 with
    | true =>
      rw [step_submitDue_of_taken h]
      rfl
    | false =>
      rw [step_submitDue_of_not_taken h]
      rfl
  | pollDue =>
    refine hasks fun q hq => ?_
    obtain ⟨id, -, node, url, -, -, rfl⟩ := mem_pollWatches_iff.mp hq
    rfl
  | checkDue => exact hasks fun q hq => absurd hq List.not_mem_nil
  | completed c => exact hasks fun q hq => absurd hq List.not_mem_nil

theorem run_step_submitDue (id : CorrelationId) :
    (l.step (.submitDue id) now).1.run = (l.run.submit id now).1 := by
  cases h : (l.run.submit id now).2 with
  | true => rw [step_submitDue_of_taken h]
  | false => rw [step_submitDue_of_not_taken h, Run.submit_eq_self h]

/-- A watch that there is after a step was there before, or its transaction is submitted. -/
theorem mem_ids_step (h : l.run.Orderly) {i : CorrelationId}
    (hi : i ∈ (l.step e now).1.run.watches.ids) :
    i ∈ l.run.watches.ids ∨ e = .submitDue i ∧ (l.run.submit i now).2 = true := by
  -- on any other event the run is told nothing of a submission
  have hother (hnews : ∀ i t, .submit i t ∉ l.news e now) : i ∈ l.run.watches.ids := by
    rw [run_step] at hi
    exact (Run.mem_ids_after h hi).resolve_right fun ⟨t, ht⟩ => hnews i t ht
  cases e with
  | refreshDue => exact Or.inl (hother fun _ _ => List.not_mem_nil)
  | submitDue id =>
    rw [run_step_submitDue, Run.mem_ids_submit_iff] at hi
    rcases hi with hold | ⟨rfl, htaken⟩
    · exact Or.inl hold
    · exact Or.inr ⟨rfl, htaken⟩
  | pollDue => exact Or.inl (hother fun _ _ => List.not_mem_nil)
  | checkDue => exact Or.inl (hother fun i t hmem => nomatch List.mem_singleton.mp hmem)
  | completed c =>
    refine Or.inl (hother fun i t hmem => ?_)
    unfold news at hmem
    dsimp only at hmem
    split at hmem
    · exact Completion.ne_submit_of_mem_news hmem i t rfl
    · cases hmem

/-! ### The account -/

/-- What holds of a loop that works for a request, after some events and at the next one. -/
structure SubmitsFor (r : RunRequest) (defaultUrl : String) (first : Loop)
    (es : List (LoopEvent × Moment)) : Prop where
  /-- A transaction is submitted, as the request wants it, when the run has just taken its id, and
  at no other step. -/
  submits : ∀ e now, ((first.after es).step e now).2.filterMap LoopRequest.submission? =
    match e with
    | .submitDue id =>
      if ((first.after es).run.submit id now).2 then [r.submission defaultUrl id] else []
    | _ => []
  /-- Then, and only then, it gets a watch. -/
  watches : ∀ id now i, i ∈ ((first.after es).step (.submitDue id) now).1.run.watches.ids ↔
    i ∈ (first.after es).run.watches.ids ∨ i = id ∧ ((first.after es).run.submit id now).2 = true
  /-- The id of a transaction that is taken was not watched. -/
  fresh : ∀ id now, ((first.after es).run.submit id now).2 = true →
    id ∉ (first.after es).run.watches.ids
  /-- When the run has settled or reached its target, there is nothing more to it. -/
  refuses : ∀ id now,
    (first.after es).isOver = true ∨ r.amount ≤ (first.after es).run.submitted →
      (first.after es).step (.submitDue id) now = (first.after es, [])
  /-- What was submitted is what the run has counted. -/
  counted : (first.submissions es).length = (first.after es).run.submitted.toNat
  bounded : (first.submissions es).length ≤ r.amount.toNat
  /-- All of it was submitted as the request wants. -/
  proper : ∀ s ∈ first.submissions es, s = r.submission defaultUrl s.id
  /-- A node is asked about a transaction that is watched, and that was submitted. -/
  asked : ∀ e now id node url, .resolve id node url ∈ ((first.after es).step e now).2 →
    id ∈ (first.after es).run.watches.ids ∧ ∃ s ∈ first.submissions es, s.id = id

/-- A step submits as many transactions as the run takes at it. -/
theorem length_submissions_step (l : Loop) (e : LoopEvent) (now : Moment) :
    ((l.step e now).2.filterMap LoopRequest.submission?).length
      = l.run.registrations (l.news e now) := by
  rw [submissions_step]
  cases e with
  | refreshDue => rfl
  | submitDue id =>
    dsimp only [news]
    cases h : (l.run.submit id now).2 with
    | true =>
      rw [if_pos (Run.submit_snd_iff.mp h).1]
      simp [Run.registrations, Run.react, h]
    | false =>
      rw [if_neg Bool.false_ne_true]
      split
      · simp [Run.registrations, Run.react, h]
      · rfl
  | pollDue => rfl
  | checkDue => simp [news, Run.registrations, Run.react]
  | completed c =>
    dsimp only [news]
    split
    · cases c with
      | chainInfo node result => cases result <;> simp [Completion.news, Run.registrations, Run.react]
      | resolve id node result => cases result <;> simp [Completion.news, Run.registrations, Run.react]
      | submit id result => rfl
    · rfl

theorem length_submissions (l : Loop) (es : List (LoopEvent × Moment)) :
    (l.submissions es).length = l.run.registrations (l.told es) := by
  induction es generalizing l with
  | nil => rfl
  | cons e es ih =>
    have hcons : l.submissions (e :: es)
        = (l.step e.1 e.2).2.filterMap LoopRequest.submission? ++ (l.step e.1 e.2).1.submissions es :=
      List.filterMap_append ..
    rw [hcons, List.length_append, length_submissions_step, ih, run_step]
    exact (Run.registrations_append ..).symm

section Account

variable {r : RunRequest} {defaultUrl : String} (deadlines : Deadlines) (params : RunParams)
  (es : List (LoopEvent × Moment))

theorem orderly_run_after : ((start deadlines params).after es).run.Orderly := by
  rw [run_after]
  exact Run.orderly_after ..

/-- Every watch belongs to a transaction that was submitted. -/
theorem exists_submission {id : CorrelationId}
    (hid : id ∈ ((start deadlines params).after es).run.watches.ids) :
    ∃ s ∈ (start deadlines params).submissions es, s.id = id := by
  induction es using List.reverseRecOn with
  | nil => cases hid
  | append_singleton es e ih =>
    rw [after_concat] at hid
    rw [submissions_concat]
    rcases mem_ids_step (orderly_run_after deadlines params es) hid with hold | ⟨hdue, htaken⟩
    · obtain ⟨s, hs, rfl⟩ := ih hold
      exact ⟨s, List.mem_append_left _ hs, rfl⟩
    · refine ⟨((start deadlines params).after es).submission id, List.mem_append_right _ ?_, rfl⟩
      rw [hdue, submissions_step]
      dsimp only
      rw [if_pos htaken]
      exact List.mem_singleton_self _

/-- All that is submitted is submitted as the parameters say. -/
theorem eq_submission_of_mem {l : Loop} {s : Submission} (hs : s ∈ l.submissions es) :
    s = l.submission s.id := by
  induction es using List.reverseRecOn with
  | nil => cases hs
  | append_singleton es e ih =>
    rw [submissions_concat] at hs
    rcases List.mem_append.mp hs with hold | hnew
    · exact ih hold
    · rw [submissions_step] at hnew
      split at hnew
      · split at hnew
        · rw [List.mem_singleton.mp hnew, submission_after]
          rfl
        · cases hnew
      · cases hnew

/-- The loop of a request keeps the account. -/
theorem submitsFor_start (hamount : params.amount = r.amount)
    (hsubmission : ∀ id, (start deadlines params).submission id = r.submission defaultUrl id) :
    SubmitsFor r defaultUrl (start deadlines params) es := by
  -- the run of the loop is one that was told some events, so its counters are in balance
  have hbalance := Run.balance_after params.nodes params.amount deadlines
    ((start deadlines params).told es)
  have hrun : ((start deadlines params).after es).run
      = (Run.start params.nodes params.amount deadlines).after ((start deadlines params).told es) :=
    run_after ..
  have htarget : ((start deadlines params).after es).run.target = r.amount := by
    rw [hrun, ← hamount]
    exact (Run.sameTask_after (Run.orderly_start ..) _).target
  have hcounted : ((start deadlines params).submissions es).length
      = ((start deadlines params).after es).run.submitted.toNat := by
    rw [length_submissions, hrun, hbalance.submitted_eq]
    rfl
  constructor
  case submits =>
    intro e now
    rw [submissions_step]
    cases e with
    | submitDue id =>
      dsimp only
      rw [submission_after, hsubmission]
    | _ => rfl
  case watches =>
    intro id now i
    rw [run_step_submitDue, Run.mem_ids_submit_iff]
  case fresh =>
    intro id now htaken hid
    have hsome := WatchTable.mem_ids_iff.mp hid
    rw [(Run.submit_snd_iff.mp htaken).2] at hsome
    cases hsome
  case refuses =>
    intro id now hover
    refine step_submitDue_of_not_taken (Bool.eq_false_iff.mpr fun htaken => ?_)
    have hwants := (Run.submit_snd_iff.mp htaken).1
    rw [← htarget] at hover
    rw [Run.wantsSubmission_eq_false hover] at hwants
    cases hwants
  case counted => exact hcounted
  case bounded =>
    rw [hcounted, ← htarget, hrun]
    exact UInt32.le_iff_toNat_le.mp hbalance.le_target
  case proper =>
    intro s hs
    rw [← hsubmission]
    exact eq_submission_of_mem es hs
  case asked =>
    intro e now id node url hmem
    -- a loop that is over asks nothing, and any other only about its watches
    have hid : id ∈ ((start deadlines params).after es).run.watches.ids := by
      cases hover : ((start deadlines params).after es).isOver with
      | true =>
        rw [step_of_isOver hover] at hmem
        cases hmem
      | false =>
        rw [step_of_not_isOver hover] at hmem
        exact mem_ids_of_mem_react hmem rfl
    exact ⟨hid, exists_submission deadlines params es hid⟩

end Account

end Loop

/-! ### The loop of a run of a service -/

namespace ServiceReply

/-- The requests that are sent for a run. -/
def requestsOf (run : RunId) : ServiceReply → List LoopRequest
  | .sent run' requests => if run' = run then requests else []
  | _ => []

end ServiceReply

namespace Service

variable {s : Service} {t : Task} {run : RunId}

/-- What is sent for a run along some events. -/
def sentFor (s : Service) (run : RunId) (es : List ServiceEvent) : List LoopRequest :=
  (s.replies es).flatMap (ServiceReply.requestsOf run)

/-- A turn of a task is one event of its loop, or none. -/
theorem exists_events_drive (t : Task) (event : LoopEvent) (now : Moment) :
    ∃ fs, (t.drive event now).1.loop = t.loop.after fs ∧
      (t.drive event now).2 = t.loop.sent fs := by
  -- a live task hands the event on to its loop, any other does nothing with it
  by_cases hlive : t.phase = .driving
  · refine ⟨[(event, now)], ?_⟩
    simp only [Loop.sent, List.append_nil]
    cases hreport : (t.loop.step event now).1.report? with
    | none =>
      rw [Task.drive_of_report?_eq_none hlive hreport]
      exact ⟨rfl, rfl⟩
    | some report =>
      rw [Task.drive_of_report?_eq_some hlive hreport]
      exact ⟨rfl, rfl⟩
  · have hpassage : t.Passage True (.drive t.id event now) (t.drive event now).1 :=
      Task.passage_drive event now
    exact ⟨[], hpassage.loop_eq hlive, Task.drive_snd_of_not_live hlive⟩

/-- Only a turn of its own changes the loop of a task. -/
theorem loop_undergo {e : ServiceEvent} (he : ∀ event now, e ≠ .drive t.id event now) :
    (s.undergo e t).loop = t.loop := by
  have hpassage := Task.passage_undergo s e t
  generalize s.undergo e t = t' at hpassage
  cases hpassage with
  | driven _ _ => exact absurd rfl (he _ _)
  | settled _ _ => exact absurd rfl (he _ _)
  | _ => rfl

/-- Whatever happens to the service, the loop of a run goes through events of its own, and what is
sent for the run is what the loop sends. -/
theorem exists_events (h : s.Orderly) (ht : s.task? run = some t) (es : List ServiceEvent) :
    ∃ t' fs, (s.after es).task? run = some t' ∧ t'.loop = t.loop.after fs ∧
      s.sentFor run es = t.loop.sent fs := by
  induction es generalizing s t with
  | nil => exact ⟨t, [], ht, rfl, rfl⟩
  | cons e es ih =>
    have hid := (h.task?_eq_some_iff.mp ht).2
    -- the first event, and then the rest from where it has led
    have hone : ∃ fs, (s.undergo e t).loop = t.loop.after fs ∧
        (s.react e).2.requestsOf run = t.loop.sent fs := by
      by_cases hdrive : ∃ event now, e = .drive run event now
      · obtain ⟨event, now, rfl⟩ := hdrive
        obtain ⟨fs, hloop, hsent⟩ := exists_events_drive t event now
        refine ⟨fs, ?_, ?_⟩
        · rw [undergo, if_pos hid, hloop]
        · rw [react, ServiceReply.requestsOf, if_pos rfl, ← hsent, drive, ht]
      · have hother (event now) : e ≠ .drive run event now := fun he => hdrive ⟨event, now, he⟩
        refine ⟨[], loop_undergo (by rwa [hid]), ?_⟩
        cases e with
        | drive run' event now =>
          exact if_neg fun hrun => hother event now (by rw [hrun])
        | _ => rfl
    obtain ⟨fs, hloop, hsent⟩ := hone
    obtain ⟨t', gs, ht', hloop', hsent'⟩ := ih (h.react e) (h.task?_react ht e)
    refine ⟨t', fs ++ gs, ht', ?_, ?_⟩
    · rw [hloop', hloop, Loop.after_append]
    · rw [Loop.sent_append, ← hsent, ← hloop, ← hsent']
      rfl

/-- What the task of an accepted request is to do is what the request says. -/
theorem paramsOf_eq_ok {r : RunRequest} {params : RunParams} (h : s.paramsOf r = .ok params) :
    params.amount = r.amount ∧ params.submitUrl = r.url.getD s.defaultUrl ∧
      params.users = r.users ∧ params.debug = r.debug := by
  obtain ⟨nodes, period, -, -, -, -, rfl⟩ := paramsOf_eq_ok_iff.mp h
  exact ⟨rfl, rfl, rfl, rfl⟩

/-- **The account of submissions.** A service that accepts a request starts a run whose loop, after
any events in any order, whatever ids are drawn, submits a transaction exactly when its run has just
registered it: as many as the run counts and at most those asked for, each as the request wants it,
and no node is asked about any other. Whatever else happens to the service later, this is what it
sends for the run. -/
theorem submissions_accounted (schedule : Schedule) (defaultUrl : String)
    (history : List ServiceEvent) {r : RunRequest} {s' : Service} {run : RunId}
    (hstart : ((initial schedule defaultUrl).after history).start r = .ok (s', run)) :
    ∃ t, s'.task? run = some t ∧ (∀ es, t.loop.SubmitsFor r defaultUrl es) ∧
      ∀ later, ∃ t' es, (s'.after later).task? run = some t' ∧ t'.loop = t.loop.after es ∧
        s'.sentFor run later = t.loop.sent es := by
  have hdefault : ((initial schedule defaultUrl).after history).defaultUrl = defaultUrl :=
    congrArg Prod.snd (settings_after _ history)
  have h := orderly_after schedule defaultUrl history
  generalize (initial schedule defaultUrl).after history = s at hstart hdefault h
  cases hparams : s.paramsOf r with
  | error fault =>
    rw [start, hparams] at hstart
    cases hstart
  | ok params =>
    have hhandle : s.handle (.run r) = (s.launch params, .waiting s.nextRun) := by
      simp only [handle, start, hparams, launch, newTask]
    -- starting a run is what happens on the command
    have hreact : s.react (.command (.run r))
        = (s.launch params, .received (.waiting s.nextRun)) := by
      rw [react, hhandle]
      rfl
    have hlaunch : s' = s.launch params ∧ run = s.nextRun := by
      rw [start, hparams] at hstart
      cases hstart
      exact ⟨rfl, rfl⟩
    obtain ⟨rfl, rfl⟩ := hlaunch
    have horderly : (s.launch params).Orderly := by
      have hafter := h.react (.command (.run r))
      rwa [hreact] at hafter
    have htask : (s.launch params).task? s.nextRun = some (s.newTask params) :=
      horderly.task?_eq_some_iff.mpr ⟨List.mem_append_right _ (List.mem_singleton_self _), rfl⟩
    obtain ⟨hamount, hurl, husers, hdebug⟩ := paramsOf_eq_ok hparams
    refine ⟨_, htask, fun es => ?_, exists_events horderly htask⟩
    refine Loop.submitsFor_start _ _ es hamount fun id => ?_
    show Submission.mk id params.submitUrl params.users params.debug = _
    rw [hurl, husers, hdebug, hdefault]
    rfl

/-- One transaction is asked for, and its id is drawn twice. -/
theorem submissions_accounted_drawn_twice :
    ∃ s' t, ((initial {} "here").after [.command (.watches ["a"])]).start
        ⟨⟨0x3FF0000000000000⟩, 1, none, some "u", none⟩ = .ok (s', 0) ∧ s'.task? 0 = some t ∧
      t.loop.submissions [(.submitDue .zero, .start), (.submitDue .zero, .start)]
        = [⟨.zero, "here", some "u", none⟩] ∧
      ∀ es, (t.loop.submissions es).length ≤ 1 := by
  have hstart : ∃ s', ((initial {} "here").after [.command (.watches ["a"])]).start
      ⟨⟨0x3FF0000000000000⟩, 1, none, some "u", none⟩ = .ok (s', 0) := ⟨_, rfl⟩
  obtain ⟨s', hstart⟩ := hstart
  obtain ⟨t, ht, hsubmits, -⟩ := submissions_accounted {} "here" _ hstart
  refine ⟨s', t, hstart, ht, ?_, fun es => (hsubmits es).bounded⟩
  cases hstart
  cases ht
  rfl

end Service

end ChainWatch
