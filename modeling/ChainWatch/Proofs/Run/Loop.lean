import ChainWatch.Run.Loop
import ChainWatch.Proofs.Run.Registration
import ChainWatch.Proofs.Run.Settlement

/-!
# What a loop does with its run and its requests

A loop reacts to events by telling its run something and by sending requests. This file separates
the two:

* `Loop.news` — what the run is told by an event. The run of a loop is the one that has heard all of
  it (`run_step`), so every fact about runs along histories is one about loops;
* `Loop.IsMarked` — the marks of a loop are those of what it waits for: the nodes marked as asked
  about their chains are those of the outstanding questions, each there once, and likewise the
  transactions and nodes that are asked about each other. Every step keeps this (`IsMarked.step`);
* `LoopRequest.IsProper` — the requests of a loop go where its parameters say. What is asked of a
  node therefore determines the request (`eq_of_ends`), and the end of a request can be told from
  the end of any other that is outstanding.

The marks are two, but there is one argument for both, which is about a projection of requests
(`Marks`).
-/

namespace ChainWatch

/-! ### Requests and their ends -/

namespace LoopRequest

/-- The node that is asked about its chain. -/
def chainNode? : LoopRequest → Option Nat
  | .chainInfo node _ => some node
  | _ => none

/-- The transaction and the node that are asked about. -/
def pair? : LoopRequest → Option (CorrelationId × Nat)
  | .resolve id node _ => some (id, node)
  | _ => none

/-- The request goes where the parameters of a run say. -/
def IsProper (params : RunParams) : LoopRequest → Prop
  | .chainInfo node url => params.nodes.urls[node]? = some url
  | .resolve _ node url => params.nodes.urls[node]? = some url
  | .submit s => s.url = params.submitUrl ∧ s.users = params.users ∧ s.debug = params.debug

theorem pair?_eq_some_iff {q : LoopRequest} {id : CorrelationId} {node : Nat} :
    q.pair? = some (id, node) ↔ ∃ url, q = .resolve id node url := by
  cases q <;> simp [pair?]

theorem chainNode?_eq_some_iff {q : LoopRequest} {node : Nat} :
    q.chainNode? = some node ↔ ∃ url, q = .chainInfo node url := by
  cases q <;> simp [chainNode?]

end LoopRequest

namespace Completion

/-- The end of a question for the chain info is recognized by the node. -/
theorem ends_chainInfo_iff {node : Nat} {result : Except NodeFault ChainInfo} {q : LoopRequest} :
    (chainInfo node result).ends q = true ↔ q.chainNode? = some node := by
  cases q <;> simp [ends, LoopRequest.chainNode?, eq_comm]

/-- The end of a question about a transaction is recognized by the transaction and the node. -/
theorem ends_resolve_iff {id : CorrelationId} {node : Nat} {result : Except NodeFault Resolution}
    {q : LoopRequest} : (resolve id node result).ends q = true ↔ q.pair? = some (id, node) := by
  cases q with
  | resolve id' node' url =>
    simp only [ends, LoopRequest.pair?, decide_eq_true_eq, Option.some.injEq, Prod.mk.injEq]
    exact and_congr eq_comm eq_comm
  | chainInfo node' url => simp [ends, LoopRequest.pair?]
  | submit s => simp [ends, LoopRequest.pair?]

/-- The end of a submission is recognized by the id. -/
theorem ends_submit {id : CorrelationId} {result : Except SubmitFault Unit} {q : LoopRequest}
    (h : (submit id result).ends q = true) : ∃ s, q = .submit s ∧ s.id = id := by
  cases q with
  | submit s => exact ⟨s, rfl, by simpa [ends, eq_comm] using h⟩
  | chainInfo node url => cases h
  | resolve id' node url => cases h

/-- An end belongs to one proper request only. -/
theorem eq_of_ends {c : Completion} {params : RunParams} {q q' : LoopRequest}
    (hq : q.IsProper params) (hq' : q'.IsProper params) (h : c.ends q = true)
    (h' : c.ends q' = true) : q = q' := by
  cases c with
  | chainInfo node result =>
    -- the end names the node, and the parameters name its url
    obtain ⟨url, rfl⟩ := LoopRequest.chainNode?_eq_some_iff.mp (ends_chainInfo_iff.mp h)
    obtain ⟨url', rfl⟩ := LoopRequest.chainNode?_eq_some_iff.mp (ends_chainInfo_iff.mp h')
    rw [Option.some.inj (hq.symm.trans hq')]
  | resolve id node result =>
    obtain ⟨url, rfl⟩ := LoopRequest.pair?_eq_some_iff.mp (ends_resolve_iff.mp h)
    obtain ⟨url', rfl⟩ := LoopRequest.pair?_eq_some_iff.mp (ends_resolve_iff.mp h')
    rw [Option.some.inj (hq.symm.trans hq')]
  | submit id result =>
    obtain ⟨s, rfl, hs⟩ := ends_submit h
    obtain ⟨s', rfl, hs'⟩ := ends_submit h'
    -- here the id is in the request, and all else is the same for every submission
    obtain ⟨hurl, husers, hdebug⟩ := hq
    obtain ⟨hurl', husers', hdebug'⟩ := hq'
    cases s
    cases s'
    simp_all

/-- What a run is told by the end of a request. -/
def news (now : Moment) : Completion → List RunEvent
  | .chainInfo node (.ok info) => [.hear node info]
  | .resolve id node (.ok resolution) => [.observe id node resolution.answer now]
  | _ => []

end Completion

/-! ### Marks -/

/-- The marks are what a projection gives for the outstanding requests, each there once. -/
structure Marks {α : Type} (f : LoopRequest → Option α) (marks : List α)
    (outstanding : List LoopRequest) : Prop where
  eq_filterMap : marks = outstanding.filterMap f
  nodup : marks.Nodup

namespace Marks

variable {α : Type} {f : LoopRequest → Option α} {marks new : List α}
  {outstanding requests : List LoopRequest}

/-- Requests are sent that are to be marked, and were not. -/
theorem send (h : Marks f marks outstanding) (hnew : requests.filterMap f = new)
    (hnodup : new.Nodup) (hfresh : ∀ a ∈ new, a ∉ marks) :
    Marks f (marks ++ new) (outstanding ++ requests) where
  eq_filterMap := by rw [List.filterMap_append, hnew, ← h.eq_filterMap]
  nodup := h.nodup.append hnodup fun a hmarks hmem => hfresh a hmem hmarks

/-- Requests are sent that have no such mark. -/
theorem send_other (h : Marks f marks outstanding) (hnew : requests.filterMap f = []) :
    Marks f marks (outstanding ++ requests) where
  eq_filterMap := by rw [List.filterMap_append, hnew, List.append_nil, ← h.eq_filterMap]
  nodup := h.nodup

/-- Erasing the request of a mark erases the mark. -/
theorem filterMap_eraseP [BEq α] [LawfulBEq α] {p : LoopRequest → Bool} {a : α}
    (hp : ∀ q, p q = true ↔ f q = some a) (qs : List LoopRequest) :
    (qs.eraseP p).filterMap f = (qs.filterMap f).erase a := by
  induction qs with
  | nil => rfl
  | cons q qs ih =>
    -- the first request with the mark is the one that goes, and its mark is the first of its kind
    by_cases hq : p q = true
    · rw [List.eraseP_cons_of_pos hq, List.filterMap_cons_some ((hp q).mp hq),
        List.erase_cons_head]
    · rw [List.eraseP_cons_of_neg hq]
      cases hf : f q with
      | none => rw [List.filterMap_cons_none hf, List.filterMap_cons_none hf, ih]
      | some b =>
        -- a request of another mark stays, and its mark is not the one that goes
        have hne : b ≠ a := fun hba => hq ((hp q).mpr (hba ▸ hf))
        rw [List.filterMap_cons_some hf, List.filterMap_cons_some hf, ih,
          List.erase_cons_tail (by simpa using hne)]

/-- Erasing a request without a mark leaves the marks. -/
theorem filterMap_eraseP_of_eq_none {p : LoopRequest → Bool} (hp : ∀ q, p q = true → f q = none)
    (qs : List LoopRequest) : (qs.eraseP p).filterMap f = qs.filterMap f := by
  induction qs with
  | nil => rfl
  | cons q qs ih =>
    by_cases hq : p q = true
    · rw [List.eraseP_cons_of_pos hq, List.filterMap_cons_none (hp q hq)]
    · rw [List.eraseP_cons_of_neg hq, List.filterMap_cons, List.filterMap_cons, ih]

/-- A request that was marked has come to an end. -/
theorem erase [BEq α] [LawfulBEq α] (h : Marks f marks outstanding) {p : LoopRequest → Bool} {a : α}
    (hp : ∀ q, p q = true ↔ f q = some a) : Marks f (marks.erase a) (outstanding.eraseP p) where
  eq_filterMap := by rw [filterMap_eraseP hp, ← h.eq_filterMap]
  nodup := h.nodup.erase a

/-- A request that has no such mark has come to an end. -/
theorem erase_other (h : Marks f marks outstanding) {p : LoopRequest → Bool}
    (hp : ∀ q, p q = true → f q = none) : Marks f marks (outstanding.eraseP p) where
  eq_filterMap := by rw [filterMap_eraseP_of_eq_none hp, ← h.eq_filterMap]
  nodup := h.nodup

theorem empty (f : LoopRequest → Option α) : Marks f [] [] := ⟨rfl, List.nodup_nil⟩

end Marks

namespace Loop

/-- What the run is told by an event. -/
def news (l : Loop) (event : LoopEvent) (now : Moment) : List RunEvent :=
  match event with
  | .refreshDue => []
  | .submitDue id => if l.run.wantsSubmission then [.submit id now] else []
  | .pollDue => []
  | .checkDue => [.evaluate now]
  | .completed c => if l.outstanding.any c.ends then c.news now else []

/-- The marks are those of what the loop waits for. -/
structure IsMarked (l : Loop) : Prop where
  refreshing : Marks LoopRequest.chainNode? l.refreshing l.outstanding
  polling : Marks LoopRequest.pair? l.polling l.outstanding

variable {l : Loop} {event : LoopEvent} {now : Moment}

/-! ### Steps -/

theorem step_of_isOver (h : l.isOver = true) : l.step event now = (l, []) := by
  rw [step, if_pos h]

/-- A loop that goes on reacts, and closes if that was its end. -/
theorem step_of_not_isOver (h : l.isOver = false) :
    l.step event now = ((l.react event now).1.close, (l.react event now).2) := by
  rw [step, h]
  rfl

@[simp] theorem close_run : l.close.run = l.run := by
  unfold close
  split <;> rfl

@[simp] theorem close_params : l.close.params = l.params := by
  unfold close
  split <;> rfl

/-- A loop that is over waits for nothing and has no marks. -/
theorem close_of_isOver (h : l.isOver = true) :
    l.close = { l with outstanding := [], refreshing := [], polling := [] } := by
  rw [close, if_pos h]

theorem close_of_not_isOver (h : l.isOver = false) : l.close = l := by
  rw [close, h]
  rfl

/-! ### What the run is told -/

/-- All that a loop learns from the end of a request is what it tells its run. -/
theorem learn_eq (l : Loop) (c : Completion) (now : Moment) :
    l.learn c now = { l with run := l.run.after (c.news now) } := by
  cases c with
  | chainInfo node result => cases result <;> rfl
  | resolve id node result => cases result <;> rfl
  | submit id result => rfl

section Forget

variable (l) (c : Completion)

@[simp] theorem run_forget : (l.forget c).run = l.run := by cases c <;> rfl

@[simp] theorem params_forget : (l.forget c).params = l.params := by cases c <;> rfl

@[simp] theorem outstanding_forget : (l.forget c).outstanding = l.outstanding.eraseP c.ends := by
  cases c <;> rfl

end Forget

/-- The run is told what the end of a request has brought, if the loop has waited for it. -/
theorem run_complete (c : Completion) :
    (l.complete c now).run = l.run.after (if l.outstanding.any c.ends then c.news now else []) := by
  unfold complete
  split
  · rw [learn_eq, run_forget]
  · rfl

theorem run_submitNext (id : CorrelationId) :
    (l.submitNext id now).1.run = (l.run.submit id now).1 := by
  unfold submitNext
  split
  · next run heq => rw [heq]; rfl
  · next run heq =>
    -- the run has refused, and then it is as it was
    have hself := Run.submit_eq_self (congrArg Prod.snd heq)
    exact hself.symm

/-- The reaction of a loop changes its run by the news alone. -/
theorem run_react : (l.react event now).1.run = l.run.after (l.news event now) := by
  cases event with
  | refreshDue => rfl
  | submitDue id =>
    by_cases hwants : l.run.wantsSubmission = true
    · rw [react, if_pos hwants, run_submitNext, news, if_pos hwants]
      rfl
    · rw [react, if_neg hwants, news, if_neg hwants]
      rfl
  | pollDue => rfl
  | checkDue => rfl
  | completed c => exact run_complete c

/-- The run of a loop has heard what the events have told it. -/
theorem run_step : (l.step event now).1.run = l.run.after (l.news event now) := by
  by_cases hover : l.isOver = true
  · -- a loop that is over does not listen, and neither does its settled run
    rw [step_of_isOver hover, Run.after_of_isSettled hover]
  · rw [step_of_not_isOver (Bool.eq_false_iff.mpr hover), close_run, run_react]

@[simp] theorem params_react : (l.react event now).1.params = l.params := by
  cases event with
  | refreshDue => rfl
  | submitDue id =>
    unfold react submitNext
    dsimp only
    split
    · split <;> rfl
    · rfl
  | pollDue => rfl
  | checkDue => rfl
  | completed c =>
    unfold react complete
    dsimp only
    split
    · rw [learn_eq, params_forget]
    · rfl

@[simp] theorem params_step : (l.step event now).1.params = l.params := by
  by_cases hover : l.isOver = true
  · rw [step_of_isOver hover]
  · rw [step_of_not_isOver (Bool.eq_false_iff.mpr hover), close_params, params_react]

/-! ### What is asked -/

theorem mem_targets_iff {url : String} {node : Nat} :
    (url, node) ∈ l.targets ↔ l.run.nodes.urls[node]? = some url :=
  List.mem_zipIdx_iff_getElem?

/-- No node is asked twice at once. -/
theorem nodup_targets_filter (p : String × Nat → Bool) :
    ((l.targets.filter p).map Prod.snd).Nodup := by
  -- the nodes are numbered by their positions
  have hall : (l.targets.map Prod.snd).Nodup := by
    rw [targets, List.zipIdx_map_snd]
    exact List.nodup_range'
  exact hall.sublist (List.filter_sublist.map _)

/-- A refresh asks every node about its chain that is not being asked. -/
theorem mem_refreshNodes_iff {q : LoopRequest} :
    q ∈ l.refreshNodes.2 ↔ ∃ node url, l.run.nodes.urls[node]? = some url ∧
      node ∉ l.refreshing ∧ q = .chainInfo node url := by
  simp only [refreshNodes, send, List.mem_map, List.mem_filter, Prod.exists, mem_targets_iff]
  constructor
  · rintro ⟨url, node, ⟨hurl, hnew⟩, rfl⟩
    exact ⟨node, url, hurl, by simpa using hnew, rfl⟩
  · rintro ⟨node, url, hurl, hnew, rfl⟩
    exact ⟨url, node, ⟨hurl, by simpa using hnew⟩, rfl⟩

/-- A poll asks about what is in flight, where it is not being asked. -/
theorem mem_pollTargets_iff {id : CorrelationId} {url : String} {node : Nat} :
    (id, url, node) ∈ l.pollTargets ↔ id ∈ l.run.watches.ids ∧
      l.run.nodes.urls[node]? = some url ∧ (id, node) ∉ l.polling := by
  simp only [pollTargets, List.mem_flatMap, List.mem_map, List.mem_filter, Prod.exists,
    mem_targets_iff]
  constructor
  · rintro ⟨id', hid, url', node', ⟨hurl, hnew⟩, heq⟩
    cases heq
    exact ⟨hid, hurl, by simpa using hnew⟩
  · rintro ⟨hid, hurl, hnew⟩
    exact ⟨id, hid, url, node, ⟨hurl, by simpa using hnew⟩, rfl⟩

/-- A poll asks about every transaction in flight every node that is not being asked about it. -/
theorem mem_pollWatches_iff {q : LoopRequest} :
    q ∈ l.pollWatches.2 ↔ ∃ id ∈ l.run.watches.ids, ∃ node url,
      l.run.nodes.urls[node]? = some url ∧ (id, node) ∉ l.polling ∧ q = .resolve id node url := by
  simp only [pollWatches, send, List.mem_map, Prod.exists, mem_pollTargets_iff]
  constructor
  · rintro ⟨id, url, node, ⟨hid, hurl, hnew⟩, rfl⟩
    exact ⟨id, hid, node, url, hurl, hnew, rfl⟩
  · rintro ⟨id, hid, node, url, hurl, hnew, rfl⟩
    exact ⟨id, url, node, ⟨hid, hurl, hnew⟩, rfl⟩

/-- The marks that a poll sets, no two of them alike. -/
theorem nodup_pollMarks : (l.pollTargets.map fun (id, _, node) => (id, node)).Nodup := by
  -- the marks in groups, one group for each transaction
  have hmarks : (l.pollTargets.map fun (id, _, node) => (id, node))
      = l.run.watches.ids.flatMap fun id =>
        ((l.targets.filter fun target => !l.polling.contains (id, target.2)).map Prod.snd).map
          fun node => (id, node) := by
    simp only [pollTargets, List.map_flatMap, List.map_map]
    rfl
  rw [hmarks, List.nodup_flatMap]
  constructor
  · intro id _
    -- within a group the nodes differ
    exact (nodup_targets_filter _).map fun _ _ heq => (Prod.mk.inj heq).2
  · refine l.run.watches.nodup_ids.imp fun {id id'} hne => ?_
    -- and no mark is in two groups, since it names its transaction
    intro mark hmark hmark'
    obtain ⟨node, -, rfl⟩ := List.mem_map.mp hmark
    obtain ⟨node', -, heq⟩ := List.mem_map.mp hmark'
    exact hne (Prod.mk.inj heq).1.symm

/-- No two of the requests of a poll are alike. -/
theorem nodup_pollWatches : l.pollWatches.2.Nodup := by
  have hpairs : l.pollWatches.2.map LoopRequest.pair?
      = (l.pollTargets.map fun (id, _, node) => (id, node)).map some := by
    simp only [pollWatches, send, List.map_map]
    rfl
  -- requests with different marks are different
  refine List.Nodup.of_map LoopRequest.pair? ?_
  rw [hpairs]
  exact nodup_pollMarks.map fun _ _ => Option.some.inj

/-! ### What is outstanding -/

/-- When a period is over, what is sent is outstanding in addition. -/
theorem outstanding_react (hdue : ∀ c, event ≠ .completed c) :
    (l.react event now).1.outstanding = l.outstanding ++ (l.react event now).2 := by
  cases event with
  | refreshDue => rfl
  | submitDue id =>
    unfold react submitNext
    dsimp only
    split
    · split
      · rfl
      · exact (List.append_nil _).symm
    · exact (List.append_nil _).symm
  | pollDue => rfl
  | checkDue => exact (List.append_nil _).symm
  | completed c => exact absurd rfl (hdue c)

/-- What has come to an end is outstanding no longer. -/
theorem outstanding_complete (c : Completion) :
    (l.complete c now).outstanding = l.outstanding.eraseP c.ends := by
  unfold complete
  split
  · rw [learn_eq, outstanding_forget]
  · next hnone =>
    -- nothing that is outstanding has come to this end, so there is nothing to erase
    refine (List.eraseP_of_forall_not fun q hq hends => hnone ?_).symm
    exact List.any_eq_true.mpr ⟨q, hq, hends⟩

/-- Submissions are sent in one place only. -/
theorem mem_submitNext {id : CorrelationId} {q : LoopRequest} (hq : q ∈ (l.submitNext id now).2) :
    q = .submit (l.submission id) := by
  unfold submitNext at hq
  split at hq
  · exact List.mem_singleton.mp hq
  · cases hq

/-- What a loop sends goes where its parameters say. -/
theorem isProper_of_mem_react (hurls : l.run.nodes.urls = l.params.nodes.urls) {q : LoopRequest}
    (hq : q ∈ (l.react event now).2) : q.IsProper l.params := by
  cases event with
  | refreshDue =>
    -- the run still has the nodes that the parameters name
    obtain ⟨node, url, hurl, -, rfl⟩ := mem_refreshNodes_iff.mp hq
    exact (congrArg (·[node]?) hurls).symm.trans hurl
  | submitDue id =>
    unfold react at hq
    dsimp only at hq
    split at hq
    · rw [mem_submitNext hq]
      exact ⟨rfl, rfl, rfl⟩
    · cases hq
  | pollDue =>
    obtain ⟨id, -, node, url, hurl, -, rfl⟩ := mem_pollWatches_iff.mp hq
    exact (congrArg (·[node]?) hurls).symm.trans hurl
  | checkDue => cases hq
  | completed c => cases hq

/-- A node is asked only about transactions in flight. -/
theorem mem_ids_of_mem_react {id : CorrelationId} {node : Nat} {q : LoopRequest}
    (hq : q ∈ (l.react event now).2) (hpair : q.pair? = some (id, node)) :
    id ∈ l.run.watches.ids := by
  cases event with
  | refreshDue =>
    obtain ⟨node, url, -, -, rfl⟩ := mem_refreshNodes_iff.mp hq
    cases hpair
  | submitDue id =>
    unfold react at hq
    dsimp only at hq
    split at hq
    · rw [mem_submitNext hq] at hpair
      cases hpair
    · cases hq
  | pollDue =>
    obtain ⟨id', hid, node', url, -, -, rfl⟩ := mem_pollWatches_iff.mp hq
    cases hpair
    exact hid
  | checkDue => cases hq
  | completed c => cases hq

/-! ### Marks of a loop -/

theorem IsMarked.refreshNodes (h : l.IsMarked) : l.refreshNodes.1.IsMarked where
  refreshing := by
    refine h.refreshing.send ?_ (nodup_targets_filter _) fun node hnode => ?_
    · rw [List.filterMap_map, ← List.filterMap_eq_map]
      rfl
    · -- only nodes without a mark are asked
      obtain ⟨⟨url, node⟩, htarget, rfl⟩ := List.mem_map.mp hnode
      simpa using (List.mem_filter.mp htarget).2
  polling := by
    refine h.polling.send_other ?_
    rw [List.filterMap_map]
    exact List.filterMap_eq_nil_iff.mpr fun _ _ => rfl

theorem IsMarked.pollWatches (h : l.IsMarked) : l.pollWatches.1.IsMarked where
  refreshing := by
    refine h.refreshing.send_other ?_
    rw [List.filterMap_map]
    exact List.filterMap_eq_nil_iff.mpr fun _ _ => rfl
  polling := by
    refine h.polling.send ?_ nodup_pollMarks fun mark hmark => ?_
    · rw [List.filterMap_map, ← List.filterMap_eq_map]
      rfl
    · -- only what is not being asked is asked
      obtain ⟨⟨id, url, node⟩, htarget, rfl⟩ := List.mem_map.mp hmark
      exact (mem_pollTargets_iff.mp htarget).2.2

theorem IsMarked.submitNext (h : l.IsMarked) (id : CorrelationId) :
    (l.submitNext id now).1.IsMarked := by
  unfold Loop.submitNext
  split
  · exact ⟨h.refreshing.send_other rfl, h.polling.send_other rfl⟩
  · exact h

/-- The mark of a request goes with the request. -/
theorem IsMarked.forget (h : l.IsMarked) (c : Completion) : (l.forget c).IsMarked := by
  cases c with
  | chainInfo node result =>
    -- the mark of a node goes with its question, and no transaction was marked for it
    refine ⟨h.refreshing.erase fun q => Completion.ends_chainInfo_iff, h.polling.erase_other ?_⟩
    intro q hq
    obtain ⟨url, rfl⟩ := LoopRequest.chainNode?_eq_some_iff.mp (Completion.ends_chainInfo_iff.mp hq)
    rfl
  | resolve id node result =>
    -- the other way round
    refine ⟨h.refreshing.erase_other ?_,
      h.polling.erase fun q => @Completion.ends_resolve_iff id node result q⟩
    intro q hq
    obtain ⟨url, rfl⟩ := LoopRequest.pair?_eq_some_iff.mp (Completion.ends_resolve_iff.mp hq)
    rfl
  | submit id result =>
    -- a submission has left no mark
    refine ⟨h.refreshing.erase_other ?_, h.polling.erase_other ?_⟩
    · intro q hq
      obtain ⟨s, rfl, -⟩ := Completion.ends_submit hq
      rfl
    · intro q hq
      obtain ⟨s, rfl, -⟩ := Completion.ends_submit hq
      rfl

/-- What the run learns has no part in the marks. -/
theorem IsMarked.learn (h : l.IsMarked) (c : Completion) : (l.learn c now).IsMarked := by
  rw [learn_eq]
  exact ⟨h.refreshing, h.polling⟩

/-- **Invariant preservation.** Every reaction keeps the marks in step with the requests. -/
theorem IsMarked.react (h : l.IsMarked) : (l.react event now).1.IsMarked := by
  cases event with
  | refreshDue => exact h.refreshNodes
  | submitDue id =>
    unfold Loop.react
    dsimp only
    split
    · exact h.submitNext id
    · exact h
  | pollDue => exact h.pollWatches
  | checkDue => exact ⟨h.refreshing, h.polling⟩
  | completed c =>
    unfold Loop.react complete
    dsimp only
    split
    · exact (h.forget c).learn c
    · exact h

theorem IsMarked.close (h : l.IsMarked) : l.close.IsMarked := by
  unfold Loop.close
  split
  · -- requests and marks are given up together
    exact ⟨.empty _, .empty _⟩
  · exact h

theorem IsMarked.step (h : l.IsMarked) : (l.step event now).1.IsMarked := by
  by_cases hover : l.isOver = true
  · rw [step_of_isOver hover]
    exact h
  · rw [step_of_not_isOver (Bool.eq_false_iff.mpr hover)]
    exact h.react.close

end Loop

end ChainWatch
