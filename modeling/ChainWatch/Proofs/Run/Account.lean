import ChainWatch.Proofs.Run.Ledger

/-!
# Where the statuses of a loop come from

A watch remembers of every node the last answer that the run was told. This file follows the answers
back to the questions. What a run is told about one node and one transaction is, in order, what the
ended questions have brought (`Ledger.Traced`), and these end in the order of their numbers
(`Ledger.InOrder`). So the last answer is the one to the question that was sent last among those
that were answered (`Latest`).

One more thing is needed: that a watch has heard all that its run was ever told about its
transaction, and not only what was told since its registration. This holds if no transaction is
answered about before it is submitted (`Run.Introduced`), which in a loop means that no correlation
id is drawn twice: a question about a transaction is asked only while it is in flight, but its
answer may come when it no longer is, and would then be heard as one about the next transaction of
this id.

`requests_accounted` puts the account of a loop together.
-/

namespace ChainWatch

/-- The answer of a node about a transaction, if this is what an event brings. -/
def RunEvent.answer? (id : CorrelationId) (node : Nat) : RunEvent → Option Answer
  | .observe id' node' a _ => if id' = id ∧ node' = node then some a else none
  | _ => none

/-- The answer of a node about a transaction, if this is what the end of a request brings. -/
def Completion.answer? (id : CorrelationId) (node : Nat) : Completion → Option Answer
  | .resolve id' node' (.ok resolution) =>
    if id' = id ∧ node' = node then some resolution.answer else none
  | _ => none

namespace Completion

variable {id : CorrelationId} {node : Nat} {c : Completion} {a : Answer}

theorem answer?_eq_some_iff :
    c.answer? id node = some a ↔ ∃ res, c = .resolve id node (.ok res) ∧ res.answer = a := by
  cases c with
  | chainInfo node' result => simp [answer?]
  | submit id' result => simp [answer?]
  | resolve id' node' result =>
    cases result with
    | error fault => simp [answer?]
    | ok res =>
      simp only [answer?, Option.ite_none_right_eq_some, Option.some.injEq, resolve.injEq,
        Except.ok.injEq]
      constructor
      · rintro ⟨⟨rfl, rfl⟩, rfl⟩
        exact ⟨res, ⟨rfl, rfl, rfl⟩, rfl⟩
      · rintro ⟨res', ⟨rfl, rfl, rfl⟩, rfl⟩
        exact ⟨⟨rfl, rfl⟩, rfl⟩

/-- What the end of a request brings is what the run is told by it. -/
theorem filterMap_news (now : Moment) :
    (c.news now).filterMap (RunEvent.answer? id node) = (c.answer? id node).toList := by
  cases c with
  | chainInfo node' result => cases result <;> rfl
  | submit id' result => rfl
  | resolve id' node' result =>
    cases result with
    | error fault => rfl
    | ok res =>
      unfold news answer?
      by_cases hpair : id' = id ∧ node' = node
      · simp [RunEvent.answer?, hpair]
      · simp [RunEvent.answer?, hpair]

/-- The end of a request submits nothing. -/
theorem ne_submit_of_mem_news {now : Moment} {e : RunEvent} (he : e ∈ c.news now)
    (id : CorrelationId) (t : Moment) : e ≠ .submit id t := by
  rintro rfl
  cases c with
  | chainInfo node' result => cases result <;> simp [news] at he
  | submit id' result => simp [news] at he
  | resolve id' node' result => cases result <;> simp [news] at he

theorem length_news (c : Completion) (now : Moment) : (c.news now).length ≤ 1 := by
  cases c with
  | chainInfo node' result => cases result <;> simp [news]
  | submit id' result => simp [news]
  | resolve id' node' result => cases result <;> simp [news]

end Completion

/-! ### What a watch has heard -/

namespace Run

variable {r : Run} {id : CorrelationId} {node : Nat}

theorem map_fst_hearing (e : RunEvent) :
    (r.hearing id node e).map Prod.fst = (e.answer? id node).toList := by
  cases e with
  | observe id' node' a now =>
    rw [hearing_observe, RunEvent.answer?]
    split <;> rfl
  | _ => rfl

theorem map_fst_heard (es : List RunEvent) :
    (r.heard id node es).map Prod.fst = es.filterMap (RunEvent.answer? id node) := by
  induction es generalizing r with
  | nil => rfl
  | cons e es ih =>
    -- the frontiers are forgotten, and of an event at most one answer is left
    rw [heard, List.map_append, map_fst_hearing, ih, List.filterMap_cons]
    cases e.answer? id node <;> rfl

/-- No transaction is answered about before it is submitted. -/
def Introduced (es : List RunEvent) : Prop :=
  es.Pairwise fun e e' => ∀ id now, e' = .submit id now → ∀ node, e.answer? id node = none

/-- If its transaction was not answered about before, a watch remembers all that the run was told
of it. -/
theorem eq_afterAll_heard (nodes : NodeList) (target : UInt32) (deadlines : Deadlines)
    {es : List RunEvent} (h : Introduced es) {w : Watch}
    (hw : w ∈ ((start nodes target deadlines).after es).watches.watches) {s : Sighting}
    (hs : w.sightings[node]? = some s) :
    s = ({} : Sighting).afterAll ((start nodes target deadlines).heard w.id node es) := by
  induction es using List.reverseRecOn generalizing w s with
  | nil => simp [start] at hw
  | append_singleton es e ih =>
    obtain ⟨hbefore, -, hacross⟩ := List.pairwise_append.mp h
    rw [after_concat] at hw
    rcases (orderly_after nodes target deadlines es).origin hw with
      ⟨u, hu, rfl⟩ | ⟨now, rfl, -, hfresh⟩
    · -- a watch that was in flight before has been told the event as well
      rw [getElem?_told] at hs
      obtain ⟨s₀, hs₀, rfl⟩ := Option.map_eq_some_iff.mp hs
      rw [told_id, heard_concat, Sighting.afterAll_append, ← ih hbefore hu hs₀]
    · -- nothing was told of a transaction that the event has registered
      have hnone : (es ++ [RunEvent.submit w.id now]).filterMap (RunEvent.answer? w.id node)
          = [] := by
        rw [List.filterMap_append, List.append_eq_nil_iff]
        refine ⟨List.filterMap_eq_nil_iff.mpr fun e he => ?_, rfl⟩
        exact hacross e he _ (List.mem_singleton_self _) w.id now rfl node
      rw [← map_fst_heard (r := start nodes target deadlines), List.map_eq_nil_iff] at hnone
      rw [hnone]
      rw [hfresh] at hs
      exact List.eq_of_mem_replicate (List.mem_of_getElem? hs)

end Run

/-! ### Where the answers come from -/

namespace Loop

variable {l : Loop} {event : LoopEvent} {now : Moment} {id : CorrelationId}

/-- An event tells the run one thing at most. -/
theorem length_news (l : Loop) (event : LoopEvent) (now : Moment) :
    (l.news event now).length ≤ 1 := by
  cases event with
  | refreshDue => exact Nat.zero_le _
  -- a submission is told only if the run wants one
  | submitDue id =>
    unfold news
    dsimp only
    split <;> simp
  | pollDue => exact Nat.zero_le _
  | checkDue => exact Nat.le_refl _
  | completed c =>
    unfold news
    dsimp only
    split
    · exact c.length_news now
    · exact Nat.zero_le _

/-- What the run is told of as submitted is drawn. -/
theorem mem_draws_of_submit {t : Moment} (h : .submit id t ∈ l.news event now) :
    id ∈ l.draws event := by
  cases event with
  | refreshDue => cases h
  | submitDue id' =>
    unfold news at h
    dsimp only at h
    split at h
    · next hwants =>
      cases List.mem_singleton.mp h
      rw [draws, if_pos hwants]
      exact List.mem_singleton_self _
    · cases h
  | pollDue => cases h
  | checkDue => cases List.mem_singleton.mp h
  | completed c =>
    unfold news at h
    dsimp only at h
    split at h
    · exact absurd rfl (Completion.ne_submit_of_mem_news h id t)
    · cases h

/-- When a period is over, the run is told no answer. -/
theorem filterMap_news_due (hdue : ∀ c, event ≠ .completed c) (id : CorrelationId) (node : Nat) :
    (l.news event now).filterMap (RunEvent.answer? id node) = [] := by
  cases event with
  | refreshDue => rfl
  | submitDue id' =>
    unfold news
    dsimp only
    split <;> rfl
  | pollDue => rfl
  | checkDue => rfl
  | completed c => exact absurd rfl (hdue c)

end Loop

namespace Ledger

/-- The answers that a run was told are those that its questions have brought, and every question is
about a transaction that was drawn. -/
structure Traced (g : Ledger) : Prop where
  answers : ∀ id node,
    g.told.filterMap (RunEvent.answer? id node) = g.ended.filterMap fun a => a.2.answer? id node
  asked : ∀ t ∈ g.errands, ∀ id node, t.request.pair? = some (id, node) → id ∈ g.drawn
  submitted : ∀ id now, .submit id now ∈ g.told → id ∈ g.drawn
  introduced : g.drawn.Nodup → Run.Introduced g.told

namespace Traced

variable {deadlines : Deadlines} {params : RunParams} {g g' : Ledger}

theorem mem_drawn_of_inFlight (h : g.Traced) (hkept : g.Kept deadlines params)
    {id : CorrelationId} (hid : id ∈ g.loop.run.watches.ids) : id ∈ g.drawn := by
  obtain ⟨w, hw, rfl⟩ := List.mem_map.mp hid
  rw [hkept.run_eq] at hw
  obtain ⟨past, since, htold, -⟩ := Run.exists_registration _ _ _ hw
  exact h.submitted w.id w.submittedAt (htold ▸ by simp)

/-- A transaction that was not drawn was not answered about. -/
theorem answer?_eq_none (h : g.Traced) (hkept : g.Kept deadlines params) {id : CorrelationId}
    (hid : id ∉ g.drawn) {e : RunEvent} (he : e ∈ g.told) (node : Nat) :
    e.answer? id node = none := by
  cases hans : e.answer? id node with
  | none => rfl
  | some a =>
    -- an answer goes back to a question, and a question to an id that was drawn
    have hmem : a ∈ g.told.filterMap (RunEvent.answer? id node) :=
      List.mem_filterMap.mpr ⟨e, he, hans⟩
    rw [h.answers] at hmem
    obtain ⟨⟨t, c⟩, hended, hc⟩ := List.mem_filterMap.mp hmem
    obtain ⟨res, rfl, -⟩ := Completion.answer?_eq_some_iff.mp hc
    have hpair := Completion.ends_resolve_iff.mp (hkept.matched _ hended)
    have ht : t ∈ g.errands := List.mem_append_left _ (List.mem_map_of_mem hended)
    exact absurd (h.asked t ht id node hpair) hid

theorem initial : (Ledger.start deadlines params).Traced where
  answers := fun _ _ => rfl
  asked := by
    intro t ht
    cases ht
  submitted := by
    intro id now hmem
    cases hmem
  introduced := fun _ => List.Pairwise.nil

theorem submitted_note (h : g.Traced) (event : LoopEvent) (now : Moment) :
    ∀ id t, .submit id t ∈ (g.note event now).told → id ∈ (g.note event now).drawn := by
  intro id t hmem
  rcases List.mem_append.mp hmem with hold | hnew
  · exact List.mem_append_left _ (h.submitted id t hold)
  · exact List.mem_append_right _ (Loop.mem_draws_of_submit hnew)

/-- Nothing was asked about an id that is drawn now for the first time. -/
theorem introduced_note (h : g.Traced) (hkept : g.Kept deadlines params) (event : LoopEvent)
    (now : Moment) (hnodup : (g.note event now).drawn.Nodup) :
    Run.Introduced (g.note event now).told := by
  change (g.drawn ++ g.loop.draws event).Nodup at hnodup
  refine List.pairwise_append.mpr ⟨h.introduced hnodup.of_append_left, ?_, ?_⟩
  · -- one event does not come before itself
    match g.loop.news event now, g.loop.length_news event now with
    | [], _ => exact List.Pairwise.nil
    | [e], _ => exact List.pairwise_singleton _ e
  · rintro e he _ hnew id t rfl node
    have hdraws := Loop.mem_draws_of_submit hnew
    refine h.answer?_eq_none hkept (fun hmem => ?_) he node
    exact List.disjoint_of_nodup_append hnodup hmem hdraws

theorem due (h : g.Traced) (hkept : g.Kept deadlines params) {event : LoopEvent}
    (hdue : ∀ c, event ≠ .completed c) (now : Moment) : (g.note event now).Traced where
  answers := by
    intro id node
    change (g.told ++ g.loop.news event now).filterMap _ = _
    rw [List.filterMap_append, Loop.filterMap_news_due hdue, List.append_nil]
    exact h.answers id node
  asked := by
    intro t ht id node hpair
    rw [errands_note] at ht
    refine List.mem_append_left _ ?_
    rcases List.mem_append.mp ht with hold | hnew
    · exact h.asked t hold id node hpair
    · -- a new question is about a transaction in flight
      refine h.mem_drawn_of_inFlight hkept ?_
      exact Loop.mem_ids_of_mem_react (Errand.request_mem hnew) hpair
  submitted := h.submitted_note event now
  introduced := h.introduced_note hkept event now

theorem finish (h : g.Traced) (hkept : g.Kept deadlines params) {t : Errand} {c : Completion}
    (ht : t ∈ g.pending) (hends : c.ends t.request = true) (now : Moment) :
    ((g.strike t c).note (.completed c) now).Traced where
  answers := by
    intro id node
    change (g.told ++ g.loop.news (.completed c) now).filterMap _
      = (g.ended ++ [(t, c)]).filterMap _
    rw [hkept.news_completed ht hends, List.filterMap_append, List.filterMap_append, h.answers,
      Completion.filterMap_news, List.filterMap_cons]
    cases c.answer? id node <;> rfl
  asked := by
    intro u hu id node hpair
    refine List.mem_append_left _ (h.asked u ?_ id node hpair)
    exact (hkept.perm_errands ht now).mem_iff.mp hu
  submitted := h.submitted_note (.completed c) now
  introduced := h.introduced_note hkept (.completed c) now

theorem change (h : g.Traced) (hkept : g.Kept deadlines params) (hchange : g.Change g') :
    g'.Traced := by
  cases hchange with
  | due hdue => exact h.due hkept hdue _
  | ended ht hends => exact h.finish hkept ht hends _

theorem close (h : g.Traced) : g.close.Traced where
  answers := h.answers
  asked := fun t ht => h.asked t (errands_close.subset ht)
  submitted := h.submitted
  introduced := h.introduced

end Traced

/-! ### What every ledger satisfies -/

/-- What every ledger satisfies. -/
structure Sound (deadlines : Deadlines) (params : RunParams) (g : Ledger) : Prop where
  kept : g.Kept deadlines params
  inOrder : g.InOrder
  traced : g.Traced
  /-- A loop that is over waits for nothing. -/
  idle : g.loop.isOver = true → g.pending = []

namespace Sound

variable {deadlines : Deadlines} {params : RunParams} {g : Ledger}

theorem initial : (Ledger.start deadlines params).Sound deadlines params where
  kept := .initial
  inOrder := List.Pairwise.nil
  traced := .initial
  idle := fun _ => rfl

theorem step (h : g.Sound deadlines params) (occasion : Occasion) (now : Moment) :
    (g.step occasion now).Sound deadlines params := by
  rcases change_step h.idle occasion with heq | ⟨g', hchange, heq⟩
  · rw [heq]
    exact h
  · rw [heq]
    -- the change keeps all three, and closing does; what is closed has dropped what was pending
    refine ⟨(h.kept.change hchange).close, (h.inOrder.change h.kept hchange).close,
      (h.traced.change h.kept hchange).close, fun hover => ?_⟩
    change (g'.loop.close).isOver = true at hover
    rw [Loop.isOver, Loop.close_run] at hover
    exact if_pos hover

theorem after (h : g.Sound deadlines params) (occasions : List (Occasion × Moment)) :
    (g.after occasions).Sound deadlines params := by
  induction occasions generalizing g with
  | nil => exact h
  | cons o occasions ih => exact ih (h.step o.1 o.2)

/-- Every ledger is sound. -/
theorem of_start (deadlines : Deadlines) (params : RunParams)
    (occasions : List (Occasion × Moment)) :
    ((Ledger.start deadlines params).after occasions).Sound deadlines params :=
  initial.after occasions

end Sound

end Ledger

/-! ### The latest answer -/

/-- What is known of a transaction on a node, if some of the questions were answered: nothing if
none was, and else what the one that was sent last was answered. -/
inductive Latest (answered : Errand → Resolution → Prop) : Status → Prop
  | unanswered (h : ∀ t res, ¬ answered t res) : Latest answered .unknown
  | answered {t res} (h : answered t res)
      (hlast : ∀ u res', answered u res' → u.number ≤ t.number) :
      Latest answered res.answer.status

theorem Latest.congr {p q : Errand → Resolution → Prop} {s : Status} (h : Latest p s)
    (hpq : ∀ t res, p t res ↔ q t res) : Latest q s := by
  have heq : p = q := by
    funext t res
    exact propext (hpq t res)
  rw [← heq]
  exact h

/-- If questions end in the order of their numbers, the last answer is the latest. -/
theorem latest_of_ended {ended : List (Errand × Completion)}
    (hmatched : ∀ a ∈ ended, a.2.ends a.1.request = true)
    (horder : (ended.map Prod.fst).Pairwise Errand.Before) (id : CorrelationId) (node : Nat) :
    Latest (fun t res => (t, .resolve id node (.ok res)) ∈ ended)
      (((ended.filterMap fun a => a.2.answer? id node).getLast?.map Answer.status).getD
        .unknown) := by
  induction ended using List.reverseRecOn with
  | nil => exact .unanswered fun _ _ => List.not_mem_nil
  | append_singleton ended a ih =>
    obtain ⟨t, c⟩ := a
    rw [List.map_append, List.pairwise_append] at horder
    obtain ⟨hbefore, -, hacross⟩ := horder
    have hpair : ∀ u res, (u, .resolve id node (.ok res)) ∈ ended ++ [(t, c)] →
        u.request.pair? = some (id, node) := fun u res hu =>
      Completion.ends_resolve_iff.mp (hmatched _ hu)
    cases hans : c.answer? id node with
    | none =>
      -- the list of the answers is the same
      have hnone : [(t, c)].filterMap (fun a => a.2.answer? id node) = [] :=
        List.filterMap_cons_none hans
      rw [List.filterMap_append, hnone, List.append_nil]
      refine (ih (fun a ha => hmatched a (List.mem_append_left _ ha)) hbefore).congr ?_
      intro u res
      rw [List.mem_append, List.mem_singleton]
      refine ⟨Or.inl, fun h => h.resolve_right fun heq => ?_⟩
      have hsome : c.answer? id node = some res.answer :=
        Completion.answer?_eq_some_iff.mpr ⟨res, (Prod.mk.inj heq).2.symm, rfl⟩
      rw [hans] at hsome
      cases hsome
    | some answer =>
      -- the answer is the last one now, and its question has the greatest number
      obtain ⟨res, rfl, rfl⟩ := Completion.answer?_eq_some_iff.mp hans
      have hsome : [(t, Completion.resolve id node (.ok res))].filterMap
          (fun a => a.2.answer? id node) = [res.answer] := List.filterMap_cons_some hans
      rw [List.filterMap_append, hsome, List.getLast?_concat]
      have ht : (t, .resolve id node (.ok res)) ∈ ended ++ [(t, .resolve id node (.ok res))] :=
        List.mem_append_right _ (List.mem_singleton_self _)
      refine .answered ht fun u res' hu => ?_
      rcases List.mem_append.mp hu with hold | hnew
      · have hlt := hacross u (List.mem_map_of_mem hold) t (List.mem_singleton_self _)
        exact Nat.le_of_lt (hlt id node (hpair u res' hu) (hpair t res ht))
      · exact Nat.le_of_eq (congrArg (fun a => a.1.number) (List.mem_singleton.mp hnew))

namespace Ledger

variable {deadlines : Deadlines} {params : RunParams} {g : Ledger}

/-- A question to this url about this transaction was answered. -/
def Answered (g : Ledger) (id : CorrelationId) (url : String) (t : Errand) (res : Resolution) :
    Prop :=
  ∃ node, t.request = .resolve id node url ∧ (t, .resolve id node (.ok res)) ∈ g.ended

/-- The url of a node names it. -/
theorem Kept.answered_iff (h : g.Kept deadlines params) {node : Nat} {url : String}
    (hurl : g.loop.run.nodes.urls[node]? = some url) (id : CorrelationId) (t : Errand)
    (res : Resolution) :
    (t, .resolve id node (.ok res)) ∈ g.ended ↔ g.Answered id url t res := by
  have hproper : ∀ {c}, (t, c) ∈ g.ended → t.request.IsProper params := fun hmem =>
    h.proper t (List.mem_append_left _ (List.mem_map_of_mem hmem))
  rw [h.urls_eq] at hurl
  constructor
  · intro hmem
    have hpair := Completion.ends_resolve_iff.mp (h.matched _ hmem)
    obtain ⟨url', hrequest⟩ := LoopRequest.pair?_eq_some_iff.mp hpair
    have hurl' := hproper hmem
    rw [hrequest] at hurl'
    refine ⟨node, ?_, hmem⟩
    rw [hrequest, Option.some.inj (hurl'.symm.trans hurl)]
  · rintro ⟨node', hrequest, hmem⟩
    have hurl' := hproper hmem
    rw [hrequest] at hurl'
    -- no two nodes have one url
    have hnode : node' = node := by
      obtain ⟨hlt', heq'⟩ := List.getElem?_eq_some_iff.mp hurl'
      obtain ⟨hlt, heq⟩ := List.getElem?_eq_some_iff.mp hurl
      exact (List.Nodup.getElem_inj_iff params.nodes.nodup_urls).mp (heq'.trans heq.symm)
    rw [← hnode]
    exact hmem

/-- The account of a loop's requests. -/
structure Accounted (deadlines : Deadlines) (params : RunParams) (g : Ledger) : Prop where
  /-- Every request has a number of its own. -/
  numbers : (g.errands.map Errand.number).Nodup
  /-- The loop waits for the pending requests. -/
  outstanding : g.loop.outstanding.Perm (g.pending.map Errand.request)
  /-- The nodes marked as asked about their chains are those with a pending question, of which there
  is one. -/
  refreshing : ∀ node, g.pending.countP (fun t => t.request.chainNode? = some node)
    = if node ∈ g.loop.refreshing then 1 else 0
  /-- So are the transactions and nodes marked as asked about each other. -/
  polling : ∀ id node, g.pending.countP (fun t => t.request.pair? = some (id, node))
    = if (id, node) ∈ g.loop.polling then 1 else 0
  /-- A poll asks every node once about every transaction in flight, except those that are being
  asked about it, and asks nothing else. -/
  polls : ∀ now, (g.loop.step .pollDue now).2.Nodup ∧
    ∀ q, q ∈ (g.loop.step .pollDue now).2 ↔ ∃ id ∈ g.loop.run.watches.ids, ∃ node url,
      g.loop.run.nodes.urls[node]? = some url ∧ (id, node) ∉ g.loop.polling ∧
        q = .resolve id node url
  /-- The questions to a node about a transaction end in the order in which they were sent. -/
  ordered : ∀ id node,
    ((g.ended.filter fun a => a.1.request.pair? = some (id, node)).map fun a => a.1.number).Pairwise
      (· < ·)
  /-- The run has heard what it was told. -/
  heard : g.loop.run = (Run.start params.nodes params.amount deadlines).after g.told
  /-- What it was told of a transaction by a node is what the questions have brought, in the order
  of their ends. -/
  applied : ∀ id node,
    g.told.filterMap (RunEvent.answer? id node) = g.ended.filterMap fun a => a.2.answer? id node
  /-- If no id was drawn twice, the status on a node is the latest answer from its url. -/
  latest : g.drawn.Nodup → ∀ w ∈ g.loop.run.watches.watches, ∀ node url,
    g.loop.run.nodes.urls[node]? = some url →
      Latest (g.Answered w.id url) (w.sighting node).status

namespace Sound

theorem polls (h : g.Sound deadlines params) (now : Moment) :
    (g.loop.step .pollDue now).2.Nodup ∧
      ∀ q, q ∈ (g.loop.step .pollDue now).2 ↔ ∃ id ∈ g.loop.run.watches.ids, ∃ node url,
        g.loop.run.nodes.urls[node]? = some url ∧ (id, node) ∉ g.loop.polling ∧
          q = .resolve id node url := by
  cases hover : g.loop.isOver with
  | true =>
    -- nothing is in flight then
    have hwatches := h.kept.orderly.watches_of_isSettled hover
    rw [Loop.step_of_isOver hover]
    refine ⟨List.nodup_nil, fun q => ⟨fun hq => absurd hq List.not_mem_nil, ?_⟩⟩
    rintro ⟨id, hid, -⟩
    rw [WatchTable.ids, hwatches] at hid
    cases hid
  | false =>
    rw [Loop.step_of_not_isOver hover]
    exact ⟨Loop.nodup_pollWatches, fun q => Loop.mem_pollWatches_iff⟩

theorem ordered (h : g.Sound deadlines params) (id : CorrelationId) (node : Nat) :
    ((g.ended.filter fun a => a.1.request.pair? = some (id, node)).map
      fun a => a.1.number).Pairwise (· < ·) := by
  have hended : (g.ended.map Prod.fst).Pairwise Errand.Before :=
    (List.pairwise_append.mp h.inOrder).1
  rw [List.pairwise_map] at hended ⊢
  refine (hended.filter _).imp_of_mem fun {a b} ha hb hbefore => ?_
  have hpair : ∀ a ∈ g.ended.filter fun a => a.1.request.pair? = some (id, node),
      a.1.request.pair? = some (id, node) := fun a ha => by simpa using (List.mem_filter.mp ha).2
  exact hbefore id node (hpair a ha) (hpair b hb)

theorem latest (h : g.Sound deadlines params) (hdrawn : g.drawn.Nodup) {w : Watch}
    (hw : w ∈ g.loop.run.watches.watches) {node : Nat} {url : String}
    (hurl : g.loop.run.nodes.urls[node]? = some url) :
    Latest (g.Answered w.id url) (w.sighting node).status := by
  -- there is a sighting for every node that has a url
  have hlt : node < w.sightings.length := by
    have hnode := (List.getElem?_eq_some_iff.mp hurl).1
    rw [h.kept.orderly.length_sightings w hw]
    simpa [NodeList.urls, NodeList.size] using hnode
  have hget := List.getElem?_eq_getElem hlt
  have hsighting : w.sighting node = w.sightings[node] := by
    rw [Watch.sighting, Watch.sighting?, hget]
    rfl
  rw [h.kept.run_eq] at hw
  -- no id was drawn twice, so the watch has heard all that was ever told of it
  have hall := Run.eq_afterAll_heard _ _ _ (h.traced.introduced hdrawn) hw hget
  -- the status is the last answer in the history, which is the last that a question has brought
  have hstatus : (w.sighting node).status
      = ((g.ended.filterMap fun a => a.2.answer? w.id node).getLast?.map Answer.status).getD
        .unknown := by
    rw [hsighting, hall, Sighting.status_afterAll, ← h.traced.answers, ← Run.map_fst_heard,
      List.getLast?_map, Option.map_map]
    rfl
  rw [hstatus]
  have hended : (g.ended.map Prod.fst).Pairwise Errand.Before :=
    (List.pairwise_append.mp h.inOrder).1
  exact (latest_of_ended h.kept.matched hended w.id node).congr (h.kept.answered_iff hurl w.id)

end Sound

/-- **The account of the requests.** Whatever happens to a loop, its marks are those of its pending
requests, a poll asks exactly what is not being asked, the questions to a node about a transaction
end in the order in which they were sent, and the status of a transaction in flight is what the node
has answered to the latest question that it has answered. -/
theorem requests_accounted (deadlines : Deadlines) (params : RunParams)
    (occasions : List (Occasion × Moment)) :
    ((start deadlines params).after occasions).Accounted deadlines params := by
  have h := Sound.of_start deadlines params occasions
  exact
    { numbers := h.kept.nodup
      outstanding := h.kept.outstanding
      refreshing := fun node => h.kept.countP_pending h.kept.marked.refreshing node
      polling := fun id node => h.kept.countP_pending h.kept.marked.polling (id, node)
      polls := h.polls
      ordered := h.ordered
      heard := h.kept.run_eq
      applied := h.traced.answers
      latest := fun hdrawn w hw node url hurl => h.latest hdrawn hw hurl }

/-- A run that submits one transaction and asks two nodes about it. -/
def oneForTwo : RunParams where
  nodes := .pair
  amount := 1
  period := 1
  submitUrl := "s"
  users := none
  debug := none

/-- The first node fails to answer and is asked again, while the second takes its time. -/
def askedAgain : List (Occasion × Moment) :=
  [(.submit .zero, .start), (.poll, .start),
    (.ended 1 (.resolve .zero 0 (.error .timedOut)), .start), (.poll, .start),
    (.ended 3 (.resolve .zero 0 (.ok (.notFound ""))), .start)]

theorem requests_accounted_asked_again :
    ((start {} oneForTwo).after askedAgain).drawn.Nodup ∧
      ((start {} oneForTwo).after askedAgain).pending.map Errand.number = [0, 2] ∧
      ∃ w ∈ ((start {} oneForTwo).after askedAgain).loop.run.watches.watches,
        (w.sighting 0).status = .rejected ∧
          Latest (((start {} oneForTwo).after askedAgain).Answered w.id "a") .rejected := by
  have hdrawn : ((start {} oneForTwo).after askedAgain).drawn.Nodup := by decide
  have hwatch : ∃ w ∈ ((start {} oneForTwo).after askedAgain).loop.run.watches.watches,
      (w.sighting 0).status = .rejected := by decide
  have hurl : ((start {} oneForTwo).after askedAgain).loop.run.nodes.urls[0]? = some "a" := by
    decide
  obtain ⟨w, hw, hstatus⟩ := hwatch
  have hlatest := (requests_accounted {} oneForTwo askedAgain).latest hdrawn w hw 0 "a" hurl
  rw [hstatus] at hlatest
  exact ⟨hdrawn, by decide, w, hw, hstatus, hlatest⟩

end Ledger

end ChainWatch
