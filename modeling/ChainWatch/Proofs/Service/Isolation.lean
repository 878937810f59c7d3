import ChainWatch.Proofs.Node.List
import ChainWatch.Proofs.Service.Answer
import ChainWatch.Proofs.Service.Submissions

/-!
# A run begins anew

A service lives through many runs, and each finds the service as the runs before have left it. This
file says that nothing of them shows (`runs_isolated`): a run depends on the nodes that are
configured, on the request and on what concerns the run itself, and on nothing else that has
happened or happens to the service.

* The nodes of a service are always as they were read from a list of urls
  (`exists_ofUrls_after`); what a run hears of its nodes it keeps in a list of its own. So the urls
  tell all about them (`NodeList.eq_of_urls_eq`).
* `ServiceEvent.toward` is what an event means for one run, and `Task.play` what becomes of a task
  to which such things happen, one after the other. The task of a run after a history is what the
  history means for the run played from the task before it, whatever the other runs do
  (`Orderly.play`). That a command cancels a run only if it is the service's own needs no mention
  there, as any other is live no more.
-/

namespace ChainWatch

/-! ### Where a run begins -/

namespace Loop

/-- A loop that has done nothing and knows nothing of its nodes but their urls. -/
structure Untouched (l : Loop) : Prop where
  frontiers : ∀ node, l.run.nodes.frontier node = 0
  heads : ∀ head ∈ l.run.nodes.heads, head = 0
  unrefreshed : ∀ n ∈ l.run.nodes.nodes, n.isRefreshed = false
  watches : l.run.watches.watches = []
  submitted : l.run.submitted = 0
  finalized : l.run.finalized = 0
  report : l.run.report = none
  outstanding : l.outstanding = []
  refreshing : l.refreshing = []
  polling : l.polling = []

theorem untouched_start (deadlines : Deadlines) {params : RunParams} {entries : List String}
    (h : NodeList.ofUrls entries = .ok params.nodes) : (start deadlines params).Untouched where
  frontiers := by
    intro node
    show params.nodes.frontier node = 0
    unfold NodeList.frontier NodeList.get?
    cases hget : params.nodes.nodes[node]? with
    | none => rfl
    | some n =>
      have hchain := NodeList.chain_of_ofUrls h (List.mem_of_getElem? hget)
      show (n.chain.map ChainInfo.irreversible).getD 0 = 0
      rw [hchain]
      rfl
  heads := by
    intro head hhead
    obtain ⟨n, hn, rfl⟩ := List.mem_map.mp hhead
    show (n.chain.map ChainInfo.head).getD 0 = 0
    rw [NodeList.chain_of_ofUrls h hn]
    rfl
  unrefreshed := by
    intro n hn
    show n.chain.isSome = false
    rw [NodeList.chain_of_ofUrls h hn]
    rfl
  watches := rfl
  submitted := rfl
  finalized := rfl
  report := rfl
  outstanding := rfl
  refreshing := rfl
  polling := rfl

end Loop

/-! ### What concerns one run -/

/-- What can happen to a task. -/
inductive TaskEvent where
  /-- It gets its turn, and an event happens to it. -/
  | drive (event : LoopEvent) (now : Moment)
  /-- It gets its turn if it is aborting. -/
  | yield
  /-- The service cancels its run. -/
  | dismiss
  /-- Its caller looks what has come of it. -/
  | resume
  /-- Its caller hangs up. -/
  | hangUp

namespace ServiceEvent

/-- What an event means for a run, if it concerns it. -/
def toward (run : RunId) : ServiceEvent → Option TaskEvent
  | .resume run' => if run' = run then some .resume else none
  | .hangUp run' => if run' = run then some .hangUp else none
  | .drive run' event now => if run' = run then some (.drive event now) else none
  | .yield => some .yield
  | e => if e.dismisses then some .dismiss else none

/-- What some events mean for a run. -/
def concerning (run : RunId) (es : List ServiceEvent) : List TaskEvent := es.filterMap (toward run)

end ServiceEvent

namespace Task

/-- The task after something has happened to it. -/
def meet (t : Task) : TaskEvent → Task
  | .drive event now => (t.drive event now).1
  | .yield => t.yield
  | .dismiss => t.abort
  | .resume => t.resume
  | .hangUp => t.hangUp

/-- What it sends then. -/
def sends (t : Task) : TaskEvent → List LoopRequest
  | .drive event now => (t.drive event now).2
  | _ => []

/-- What its caller gets then. -/
def tells (t : Task) : TaskEvent → Option Http.Response
  | .resume => t.answer?.map .ofOutcome
  | _ => none

/-- The task after some things have happened to it, what it has sent and what its caller has got. -/
def play (t : Task) : List TaskEvent → Task × List LoopRequest × List Http.Response
  | [] => (t, [], [])
  | x :: xs =>
    ((play (t.meet x) xs).1, t.sends x ++ (play (t.meet x) xs).2.1,
      (t.tells x).toList ++ (play (t.meet x) xs).2.2)

/-- The task under another number. -/
def renumber (t : Task) (run : RunId) : Task := { t with id := run }

section Renumbering

variable (t : Task) (run : RunId)

theorem drive_renumber (event : LoopEvent) (now : Moment) :
    (t.renumber run).drive event now
      = ((t.drive event now).1.renumber run, (t.drive event now).2) := by
  -- what a turn does depends on the phase, and on the loop of a live task
  obtain ⟨id, loop, phase, caller⟩ := t
  cases phase with
  | driving =>
    unfold drive renumber
    dsimp only
    cases (loop.step event now).1.report? <;> rfl
  | _ => rfl

theorem meet_renumber (x : TaskEvent) : (t.renumber run).meet x = (t.meet x).renumber run := by
  cases x with
  | drive event now => exact congrArg Prod.fst (t.drive_renumber run event now)
  | yield =>
    obtain ⟨id, loop, phase, caller⟩ := t
    cases phase <;> rfl
  | dismiss => rfl
  | resume =>
    unfold meet resume renumber
    dsimp only
    split <;> rfl
  | hangUp =>
    unfold meet hangUp renumber
    dsimp only
    split <;> rfl

/-- The number of a task makes no difference to what becomes of it. -/
theorem play_renumber (xs : List TaskEvent) :
    (t.renumber run).play xs = ((t.play xs).1.renumber run, (t.play xs).2) := by
  induction xs generalizing t with
  | nil => rfl
  | cons x xs ih =>
    have hsends : (t.renumber run).sends x = t.sends x := by
      cases x with
      | drive event now =>
        show ((t.renumber run).drive event now).2 = (t.drive event now).2
        rw [drive_renumber]
      | _ => rfl
    have htells : (t.renumber run).tells x = t.tells x := by cases x <;> rfl
    unfold play
    rw [meet_renumber, ih, hsends, htells]

end Renumbering

end Task

namespace Service

variable {s : Service} {t : Task} {run : RunId}

/-! ### Following one run -/

namespace Orderly

/-- What an event does to a task is what it means for the run. -/
theorem undergo_eq (h : s.Orderly) (ht : s.task? run = some t) (e : ServiceEvent) :
    s.undergo e t = (e.toward run).elim t t.meet := by
  obtain ⟨hmem, rfl⟩ := h.task?_eq_some_iff.mp ht
  -- a live run is the service's own, and to dismiss any other does nothing
  have hdismissed (hevent : s.undergo e t
      = if e.dismisses = true ∧ s.active = some t.id then t.abort else t)
      (htoward : e.toward t.id = if e.dismisses then some .dismiss else none) :
      s.undergo e t = (e.toward t.id).elim t t.meet := by
    rw [hevent, htoward]
    cases e.dismisses with
    | false => rfl
    | true =>
      by_cases hlive : t.phase = .driving
      · rw [if_pos ⟨rfl, h.own t hmem hlive⟩]
        rfl
      · change _ = t.abort
        rw [Task.abort_of_not_live hlive, ite_self]
  cases e with
  | command c => exact hdismissed rfl rfl
  | request a uptime => exact hdismissed rfl rfl
  | yield => rfl
  | _ run' =>
    by_cases hrun : t.id = run'
    · simp only [undergo, ServiceEvent.toward, if_pos hrun, if_pos hrun.symm]
      rfl
    · simp only [undergo, ServiceEvent.toward, if_neg hrun, if_neg (Ne.symm hrun)]
      rfl

end Orderly

/-- Of what an event makes a service send, the part for a run is what its task sends. -/
theorem requestsOf_react (ht : s.task? run = some t) (e : ServiceEvent) :
    (s.react e).2.requestsOf run = (e.toward run).elim [] t.sends := by
  -- nothing is sent for the run but at a turn of its own
  cases e with
  | drive run' event now =>
    by_cases hrun : run' = run
    · subst hrun
      have hsent : (s.react (.drive run' event now)).2.requestsOf run'
          = (s.drive run' event now).2 := if_pos rfl
      rw [hsent, drive, ht, ServiceEvent.toward, if_pos rfl]
      rfl
    · rw [ServiceEvent.toward, if_neg hrun]
      exact if_neg hrun
  | yield => rfl
  | _ =>
    dsimp only [ServiceEvent.toward]
    split <;> rfl

/-- What the caller of a run gets is what its task tells. -/
theorem answer?_react_of_task? (ht : s.task? run = some t) (e : ServiceEvent) :
    (s.react e).2.answer? run = (e.toward run).bind t.tells := by
  -- the caller gets nothing but by looking
  cases e with
  | resume run' =>
    by_cases hrun : run' = run
    · subst hrun
      rw [answer?_react_resume, ht, ServiceEvent.toward, if_pos rfl]
      rfl
    · rw [ServiceEvent.toward, if_neg hrun]
      exact if_neg hrun
  | yield => rfl
  | _ =>
    dsimp only [ServiceEvent.toward]
    split <;> rfl

/-- **A run goes its own way.** After a history, the task of a run is what the history means for it
played from the task before; and so are the requests that were sent for it and the answers that its
caller has got. -/
theorem Orderly.play (h : s.Orderly) (ht : s.task? run = some t) (es : List ServiceEvent) :
    (s.after es).task? run = some (t.play (ServiceEvent.concerning run es)).1 ∧
      s.sentFor run es = (t.play (ServiceEvent.concerning run es)).2.1 ∧
      s.answers run es = (t.play (ServiceEvent.concerning run es)).2.2 := by
  induction es generalizing s t with
  | nil => exact ⟨ht, rfl, rfl⟩
  | cons e es ih =>
    obtain ⟨htask, hsent, hanswers⟩ := ih (h.react e) (h.task?_react ht e)
    have hsends : s.sentFor run (e :: es)
        = (s.react e).2.requestsOf run ++ (s.react e).1.sentFor run es := rfl
    have htells : s.answers run (e :: es)
        = ((s.react e).2.answer? run).toList ++ (s.react e).1.answers run es := by
      rw [answers, replies_cons, List.filterMap_cons]
      cases (s.react e).2.answer? run <;> rfl
    rw [after_cons, htask, hsends, htells, hsent, hanswers, requestsOf_react ht,
      answer?_react_of_task? ht, h.undergo_eq ht]
    -- an event that does not concern the run leaves no trace
    cases hconcerns : e.toward run with
    | none =>
      have hskip : ServiceEvent.concerning run (e :: es) = ServiceEvent.concerning run es :=
        List.filterMap_cons_none hconcerns
      rw [hskip]
      exact ⟨rfl, rfl, rfl⟩
    | some x =>
      have hcons : ServiceEvent.concerning run (e :: es) = x :: ServiceEvent.concerning run es :=
        List.filterMap_cons_some hconcerns
      rw [hcons]
      exact ⟨rfl, rfl, rfl⟩

/-! ### The nodes of a service -/

theorem nodes_stop (s : Service) : s.stop.1.nodes = s.nodes := by
  unfold stop
  split <;> rfl

/-- The nodes of a service change only when a list of urls is read. -/
theorem nodes_react (s : Service) (e : ServiceEvent) :
    (s.react e).1.nodes = s.nodes ∨
      ∃ urls nodes, NodeList.ofUrls urls = .ok nodes ∧ (s.react e).1.nodes = some nodes := by
  cases hcommand : e.command? with
  | some c =>
    rw [react_of_command? hcommand]
    have hhandles := s.handles_handle c
    generalize (s.handle c).1 = s', (s.handle c).2 = handling at hhandles
    cases hhandles with
    | configured hnodes => exact Or.inr ⟨_, _, hnodes, rfl⟩
    | stopped => exact Or.inl s.nodes_stop
    | _ => exact Or.inl rfl
  | none =>
    -- runs and their callers have no way to the configuration
    left
    cases e with
    | command c => cases hcommand
    | request a uptime =>
      obtain ⟨response, hreceive⟩ := receive_of_command?_eq_none (s := s) hcommand uptime
      rw [react, hreceive]
    | resume run =>
      have hresumes := s.resumes_resume run
      change (s.resume run).1.nodes = _
      generalize (s.resume run).1 = s', (s.resume run).2 = outcome at hresumes
      cases hresumes with
      | settled _ _ _ =>
        unfold finish
        split <;> rfl
      | _ => rfl
    | drive run event now =>
      change (s.drive run event now).1.nodes = _
      unfold drive
      split <;> rfl
    | _ => rfl

/-- Whatever has happened to a service, its nodes are as they were read. -/
theorem exists_ofUrls_after {schedule : Schedule} {defaultUrl : String} {es : List ServiceEvent}
    {nodes : NodeList} (h : ((initial schedule defaultUrl).after es).nodes = some nodes) :
    ∃ urls, NodeList.ofUrls urls = .ok nodes := by
  induction es using List.reverseRecOn with
  | nil => cases h
  | append_singleton es e ih =>
    rw [after_concat] at h
    rcases nodes_react ((initial schedule defaultUrl).after es) e with hkept | ⟨urls, l, hread, hnew⟩
    · exact ih (hkept.symm.trans h)
    · rw [hnew, Option.some.injEq] at h
      exact ⟨urls, h ▸ hread⟩

/-! ### Starting a run -/

/-- Two services with the same nodes and no run going on start the same runs. -/
theorem paramsOf_congr {s₁ s₂ : Service} (hnodes : s₁.nodes = s₂.nodes)
    (hrunning : s₁.isRunning = s₂.isRunning) (hdefault : s₁.defaultUrl = s₂.defaultUrl)
    (r : RunRequest) : s₁.paramsOf r = s₂.paramsOf r := by
  unfold paramsOf
  rw [hnodes, hrunning, hdefault]

theorem nodes_of_paramsOf {r : RunRequest} {params : RunParams} (h : s.paramsOf r = .ok params) :
    s.nodes = some params.nodes := by
  obtain ⟨nodes, period, hnodes, -, -, -, rfl⟩ := paramsOf_eq_ok_iff.mp h
  exact hnodes

theorem start_eq_error_iff {r : RunRequest} {fault : ControlFault} :
    s.start r = .error fault ↔ s.paramsOf r = .error fault := by
  unfold start
  cases s.paramsOf r <;> simp

/-- A run that is started has a task, and the task is new. -/
theorem task?_of_start (h : s.Orderly) {r : RunRequest} {s' : Service}
    (hstart : s.start r = .ok (s', run)) :
    ∃ params, s.paramsOf r = .ok params ∧ s'.Orderly ∧ s'.task? run = some (s.newTask params) := by
  -- starting a run is what happens on the command
  have hreact : (s.react (.command (.run r))).1 = s' := by simp only [react, handle, hstart]
  have horderly : s'.Orderly := hreact ▸ h.react (.command (.run r))
  cases hparams : s.paramsOf r with
  | error fault =>
    rw [start_eq_error_iff.mpr hparams] at hstart
    cases hstart
  | ok params =>
    rw [start, hparams] at hstart
    cases hstart
    refine ⟨params, rfl, horderly, horderly.task?_eq_some_iff.mpr ⟨?_, rfl⟩⟩
    exact List.mem_append_right _ (List.mem_singleton_self _)

/-- **Runs do not leak into each other.** Take any two histories of a service that end with the same
urls and no run going on. What is refused after the one is refused after the other, and for the
same reason. A run that is started after both starts from one and the same loop, which has done
nothing and knows nothing but the urls; and as long as the same happens to the run, whatever else
happens to the service, the same requests are sent for it, its caller gets the same, and it has the
same report. -/
theorem runs_isolated (schedule : Schedule) (defaultUrl : String)
    (past₁ past₂ : List ServiceEvent) :
    let s₁ := (initial schedule defaultUrl).after past₁
    let s₂ := (initial schedule defaultUrl).after past₂
    s₁.nodes.map NodeList.urls = s₂.nodes.map NodeList.urls →
      s₁.isRunning = false → s₂.isRunning = false → ∀ r,
        (∀ fault, s₁.start r = .error fault ↔ s₂.start r = .error fault) ∧
        ∀ s₁' s₂' run₁ run₂, s₁.start r = .ok (s₁', run₁) → s₂.start r = .ok (s₂', run₂) →
          ∃ t₁ t₂, s₁'.task? run₁ = some t₁ ∧ s₂'.task? run₂ = some t₂ ∧ t₁.loop = t₂.loop ∧
            t₁.loop.Untouched ∧ s₁.nodes.map NodeList.urls = some t₁.loop.run.nodes.urls ∧
            ∀ later₁ later₂,
              ServiceEvent.concerning run₁ later₁ = ServiceEvent.concerning run₂ later₂ →
                s₁'.sentFor run₁ later₁ = s₂'.sentFor run₂ later₂ ∧
                s₁'.answers run₁ later₁ = s₂'.answers run₂ later₂ ∧
                (s₁'.after later₁).report? run₁ = (s₂'.after later₂).report? run₂ := by
  intro s₁ s₂ hurls hidle₁ hidle₂ r
  have h₁ : s₁.Orderly := orderly_after schedule defaultUrl past₁
  have h₂ : s₂.Orderly := orderly_after schedule defaultUrl past₂
  have hsettings : s₁.settings = s₂.settings :=
    (settings_after _ past₁).trans (settings_after _ past₂).symm
  -- both have read their nodes from urls and learned nothing of them since
  have hnodes : s₁.nodes = s₂.nodes := by
    cases hnodes₁ : s₁.nodes with
    | none =>
      rw [hnodes₁, Option.map_none, eq_comm, Option.map_eq_none_iff] at hurls
      exact hurls.symm
    | some l₁ =>
      rw [hnodes₁, Option.map_some, eq_comm, Option.map_eq_some_iff] at hurls
      obtain ⟨l₂, hnodes₂, heq⟩ := hurls
      obtain ⟨urls₁, hread₁⟩ := exists_ofUrls_after hnodes₁
      obtain ⟨urls₂, hread₂⟩ := exists_ofUrls_after hnodes₂
      rw [hnodes₂, NodeList.eq_of_urls_eq hread₁ hread₂ heq.symm]
  have hparams : s₁.paramsOf r = s₂.paramsOf r :=
    paramsOf_congr hnodes (hidle₁.trans hidle₂.symm) (congrArg Prod.snd hsettings) r
  refine ⟨fun fault => ?_, fun s₁' s₂' run₁ run₂ hstart₁ hstart₂ => ?_⟩
  · rw [start_eq_error_iff, start_eq_error_iff, hparams]
  · obtain ⟨params, hparams₁, horderly₁, ht₁⟩ := task?_of_start h₁ hstart₁
    obtain ⟨params₂, hparams₂, horderly₂, ht₂⟩ := task?_of_start h₂ hstart₂
    obtain rfl : params = params₂ := Except.ok.inj (hparams₁.symm.trans (hparams.trans hparams₂))
    -- the tasks differ in their numbers only
    have htask : s₂.newTask params = (s₁.newTask params).renumber s₂.nextRun := by
      have hschedule : s₁.schedule = s₂.schedule := congrArg Prod.fst hsettings
      unfold newTask Task.renumber
      rw [hschedule]
    have hown : s₁.nodes = some params.nodes := nodes_of_paramsOf hparams₁
    obtain ⟨entries, hread⟩ := exists_ofUrls_after hown
    refine ⟨_, _, ht₁, ht₂, ?_, Loop.untouched_start _ hread, ?_, fun later₁ later₂ hsame => ?_⟩
    · rw [htask]
      rfl
    · rw [hown]
      rfl
    · obtain ⟨hafter₁, hsent₁, hanswers₁⟩ := horderly₁.play ht₁ later₁
      obtain ⟨hafter₂, hsent₂, hanswers₂⟩ := horderly₂.play ht₂ later₂
      rw [htask, Task.play_renumber, ← hsame] at hafter₂ hsent₂ hanswers₂
      refine ⟨hsent₁.trans hsent₂.symm, hanswers₁.trans hanswers₂.symm, ?_⟩
      rw [report?, report?, hafter₁, hafter₂]
      rfl

/-- One transaction, to be submitted within a second. -/
private def single : RunRequest := ⟨⟨0x3FF0000000000000⟩, 1, none, none, none⟩

/-- A run on other nodes, which hears of a chain and fails, and after it new nodes. -/
private def eventful : List ServiceEvent :=
  [.command (.watches ["b"]), .command (.run single), .drive 0 .refreshDue .start,
    .drive 0 (.completed (.chainInfo 0 (.ok ⟨7, 9⟩))) .start, .drive 0 (.submitDue .zero) .start,
    .drive 0 .checkDue (.ofMillis 30000), .resume 0, .command (.watches ["a"])]

/-- The second run of a service asks what the first one of another asks. -/
theorem runs_isolated_eventful :
    ((initial {} "").after eventful).isRunning = false ∧
      ∃ s₁ s₂, ((initial {} "").after [.command (.watches ["a"])]).start single = .ok (s₁, 0) ∧
        ((initial {} "").after eventful).start single = .ok (s₂, 1) ∧
        s₂.sentFor 1 [.resume 0, .drive 1 .refreshDue .start] = [.chainInfo 0 "a"] := by
  have hidle₁ : ((initial {} "").after [.command (.watches ["a"])]).isRunning = false := by
    decide +kernel
  have hidle₂ : ((initial {} "").after eventful).isRunning = false := by decide +kernel
  have hurls : ((initial {} "").after [.command (.watches ["a"])]).nodes.map NodeList.urls
      = ((initial {} "").after eventful).nodes.map NodeList.urls := by decide +kernel
  have hstart₁ : ∃ s₁, ((initial {} "").after [.command (.watches ["a"])]).start single
      = .ok (s₁, 0) := ⟨_, rfl⟩
  have hstart₂ : ∃ s₂, ((initial {} "").after eventful).start single = .ok (s₂, 1) := ⟨_, rfl⟩
  obtain ⟨s₁, hstart₁⟩ := hstart₁
  obtain ⟨s₂, hstart₂⟩ := hstart₂
  obtain ⟨-, -, -, -, -, -, -, hsame⟩ :=
    (runs_isolated {} "" _ _ hurls hidle₁ hidle₂ single).2 s₁ s₂ 0 1 hstart₁ hstart₂
  refine ⟨hidle₂, s₁, s₂, hstart₁, hstart₂, ?_⟩
  rw [← (hsame [.drive 0 .refreshDue .start] [.resume 0, .drive 1 .refreshDue .start] rfl).1]
  cases hstart₁
  rfl

end Service

end ChainWatch
