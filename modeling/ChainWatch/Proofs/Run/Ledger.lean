import ChainWatch.Proofs.Run.Loop

/-!
# The ledger of a loop

A loop knows its requests by what they ask. Here they have numbers, so that one can say which of
them has come to an end. A `Ledger` is a loop with the account of its requests: every request gets
the next number when it is sent, stays pending until it ends, and ends with a completion of its own.
What can happen to a loop is an `Occasion`: a period is over, or a pending request ends in whatever
way. Pending requests end in any order; those of a loop that is over are dropped.

All that an occasion can do to a ledger is listed once (`Change`, `change_step`). From this list,

* `Kept` — what the loop takes to be outstanding is what is pending, although the loop looks for the
  request of a completion by what it asks;
* `InOrder` — the questions to one node about one transaction end in the order in which they were
  sent, because a marked question is not sent again.
-/

namespace ChainWatch

/-- A request and the number under which it was sent. -/
structure Errand where
  number : Nat
  request : LoopRequest

namespace Errand

/-- Requests under the numbers from `n` on. -/
def numbered (n : Nat) (requests : List LoopRequest) : List Errand :=
  (requests.zipIdx n).map fun (request, number) => ⟨number, request⟩

/-- Of two questions to one node about one transaction, the first has the smaller number. -/
def Before (t u : Errand) : Prop :=
  ∀ id node, t.request.pair? = some (id, node) → u.request.pair? = some (id, node) →
    t.number < u.number

variable {n : Nat} {requests : List LoopRequest} {t u : Errand} {ts : List Errand}

@[simp] theorem numbered_nil (n : Nat) : numbered n [] = [] := rfl

@[simp] theorem map_request_numbered : (numbered n requests).map request = requests := by
  rw [numbered, List.map_map]
  exact List.zipIdx_map_fst n requests

theorem map_number_numbered : (numbered n requests).map number = List.range' n requests.length := by
  rw [numbered, List.map_map]
  exact List.zipIdx_map_snd n requests

theorem request_mem (h : t ∈ numbered n requests) : t.request ∈ requests := by
  -- without their numbers the errands are the requests
  have hmem := List.mem_map_of_mem (f := request) h
  rwa [map_request_numbered] at hmem

theorem number_mem (h : t ∈ numbered n requests) :
    n ≤ t.number ∧ t.number < n + requests.length := by
  have hmem := List.mem_map_of_mem (f := number) h
  rw [map_number_numbered, List.mem_range'_1] at hmem
  exact hmem

theorem pairwise_numbered : (numbered n requests).Pairwise fun t u => t.number < u.number := by
  rw [← List.pairwise_map, map_number_numbered]
  exact List.pairwise_lt_range'

/-- To strike by a number is to strike one errand. -/
theorem perm_cons_filter (hnodup : (ts.map number).Nodup) (ht : t ∈ ts) :
    ts.Perm (t :: ts.filter fun u => u.number ≠ t.number) := by
  have hts : ts.Nodup := hnodup.of_map number
  -- both lists are without repetition, so membership decides
  have hout : t ∉ ts.filter fun u => u.number ≠ t.number := by simp
  rw [List.perm_ext_iff_of_nodup hts (List.nodup_cons.mpr ⟨hout, hts.filter _⟩)]
  intro u
  rw [List.mem_cons, List.mem_filter, decide_eq_true_eq]
  constructor
  · intro hu
    by_cases hnumber : u.number = t.number
    · exact Or.inl (List.inj_on_of_nodup_map hnodup hu ht hnumber)
    · exact Or.inr ⟨hu, hnumber⟩
  · rintro (rfl | ⟨hu, -⟩)
    · exact ht
    · exact hu

end Errand

/-- What can happen to a loop. -/
inductive Occasion where
  /-- It is time to ask the nodes about their chains. -/
  | refresh
  /-- It is time to submit, and this id is drawn. -/
  | submit (id : CorrelationId)
  /-- It is time to ask about the transactions. -/
  | poll
  /-- It is time to judge the watches. -/
  | check
  /-- The request of a number ends. -/
  | ended (number : Nat) (completion : Completion)

/-- The ids that an event draws. -/
def Loop.draws (l : Loop) : LoopEvent → List CorrelationId
  | .submitDue id => if l.run.wantsSubmission then [id] else []
  | _ => []

/-- A loop and the account of its requests. -/
structure Ledger where
  loop : Loop
  /-- The number of the next request. -/
  next : Nat := 0
  /-- The requests that have not ended. -/
  pending : List Errand := []
  /-- The requests that have ended, each with its completion, in the order of their ends. -/
  ended : List (Errand × Completion) := []
  /-- The ids that were drawn for submissions. -/
  drawn : List CorrelationId := []
  /-- What the run was told. -/
  told : List RunEvent := []

namespace Ledger

/-- The ledger of a new loop. -/
def start (deadlines : Deadlines) (params : RunParams) : Ledger where
  loop := .start deadlines params

/-- Note what an event does to the loop. What the loop sends gets the next numbers. A loop that is
over drops what is pending, and tells its run nothing more. -/
def record (g : Ledger) (event : LoopEvent) (now : Moment) : Ledger :=
  let (loop, requests) := g.loop.step event now
  { loop := loop
    next := g.next + requests.length
    pending := if loop.isOver then [] else g.pending ++ Errand.numbered g.next requests
    ended := g.ended
    drawn := g.drawn ++ g.loop.draws event
    told := g.told ++ if g.loop.isOver then [] else g.loop.news event now }

/-- Note that a request has ended. -/
def strike (g : Ledger) (t : Errand) (c : Completion) : Ledger :=
  { g with
    pending := g.pending.filter fun u => u.number ≠ t.number
    ended := g.ended ++ [(t, c)] }

/-- The ledger after an occasion. Only a pending request can end, and only with a completion of its
own. -/
def step (g : Ledger) (occasion : Occasion) (now : Moment) : Ledger :=
  match occasion with
  | .refresh => g.record .refreshDue now
  | .submit id => g.record (.submitDue id) now
  | .poll => g.record .pollDue now
  | .check => g.record .checkDue now
  | .ended number c =>
    match g.pending.find? fun t => t.number = number with
    | some t => if c.ends t.request then (g.strike t c).record (.completed c) now else g
    | none => g

/-- The ledger after some occasions, each at its moment. -/
def after (g : Ledger) (occasions : List (Occasion × Moment)) : Ledger :=
  occasions.foldl (fun g o => g.step o.1 o.2) g

/-- The requests that the ledger knows, those that have ended before those that have not. -/
def errands (g : Ledger) : List Errand := g.ended.map Prod.fst ++ g.pending

/-! ### What an occasion can do -/

/-- Note what an event does to the loop, and leave it open whether the loop is over. -/
def note (g : Ledger) (event : LoopEvent) (now : Moment) : Ledger where
  loop := (g.loop.react event now).1
  next := g.next + (g.loop.react event now).2.length
  pending := g.pending ++ Errand.numbered g.next (g.loop.react event now).2
  ended := g.ended
  drawn := g.drawn ++ g.loop.draws event
  told := g.told ++ g.loop.news event now

/-- Drop what is pending if the loop is over. -/
def close (g : Ledger) : Ledger :=
  { g with loop := g.loop.close, pending := if g.loop.isOver then [] else g.pending }

/-- What can happen to a ledger before it is closed. -/
inductive Change (g : Ledger) : Ledger → Prop
  /-- A period is over. -/
  | due {event now} (hdue : ∀ c, event ≠ .completed c) : Change g (g.note event now)
  /-- A pending request has ended. -/
  | ended {t c now} (ht : t ∈ g.pending) (hends : c.ends t.request = true) :
      Change g ((g.strike t c).note (.completed c) now)

section Changes

variable {g g' : Ledger} {event : LoopEvent} {now : Moment} {t : Errand} {c : Completion}

theorem record_of_not_isOver (h : g.loop.isOver = false) :
    g.record event now = (g.note event now).close := by
  have hover : (g.loop.react event now).1.close.isOver = (g.loop.react event now).1.isOver := by
    rw [Loop.isOver, Loop.close_run, Loop.isOver]
  simp only [record, Loop.step_of_not_isOver h, hover, h, Bool.false_eq_true, if_false]
  rfl

theorem draws_of_isOver (h : g.loop.isOver = true) : g.loop.draws event = [] := by
  have hsettled : g.loop.run.isSettled = true := h
  cases event with
  -- only a submission draws, and a settled run wants none
  | submitDue id => simp [Loop.draws, Run.wantsSubmission, hsettled]
  | _ => rfl

/-- Nothing happens to a loop that is over. -/
theorem record_of_isOver (h : g.loop.isOver = true) (hnone : g.pending = []) :
    g.record event now = g := by
  simp only [record, Loop.step_of_isOver h, draws_of_isOver h, h, if_true]
  obtain ⟨loop, next, pending, ended, drawn, told⟩ := g
  cases hnone
  simp

theorem record_cases (hover : g.loop.isOver = true → g.pending = []) (event : LoopEvent)
    (hdue : ∀ c, event ≠ .completed c) :
    g.record event now = g ∨ ∃ g', g.Change g' ∧ g.record event now = g'.close := by
  cases h : g.loop.isOver with
  | true => exact Or.inl (record_of_isOver h (hover h))
  | false => exact Or.inr ⟨_, .due hdue, record_of_not_isOver h⟩

/-- **Inversion.** An occasion does nothing, or it changes the ledger, which is then closed. -/
theorem change_step (hover : g.loop.isOver = true → g.pending = []) (occasion : Occasion) :
    g.step occasion now = g ∨ ∃ g', g.Change g' ∧ g.step occasion now = g'.close := by
  cases occasion with
  | refresh => exact record_cases hover .refreshDue (by simp)
  | submit id => exact record_cases hover (.submitDue id) (by simp)
  | poll => exact record_cases hover .pollDue (by simp)
  | check => exact record_cases hover .checkDue (by simp)
  | ended number c =>
    unfold step
    dsimp only
    -- a number that is not pending, or a completion of another request, changes nothing
    split
    · next t hfind =>
      have ht : t ∈ g.pending := List.mem_of_find?_eq_some hfind
      split
      · next hends =>
        -- something is pending, so the loop is not over
        have hrunning : (g.strike t c).loop.isOver = false := by
          rw [Bool.eq_false_iff]
          intro h
          rw [hover h] at ht
          cases ht
        exact Or.inr ⟨_, .ended ht hends, record_of_not_isOver hrunning⟩
      · exact Or.inl rfl
    · exact Or.inl rfl

theorem errands_note : (g.note event now).errands
    = g.errands ++ Errand.numbered g.next (g.loop.react event now).2 :=
  (List.append_assoc ..).symm

theorem errands_finish : ((g.strike t c).note (.completed c) now).errands
    = g.ended.map Prod.fst ++ t :: g.pending.filter fun u => u.number ≠ t.number := by
  rw [errands_note]
  simp [errands, strike, Loop.react]

theorem errands_close : g.close.errands.Sublist g.errands := by
  refine List.Sublist.append (List.Sublist.refl _) ?_
  unfold close
  dsimp only
  split
  · exact List.nil_sublist _
  · exact List.Sublist.refl _

end Changes

/-! ### Pending is what is outstanding -/

/-- What the numbers of a ledger are good for: they tell its requests apart, and those pending are
what the loop takes to be outstanding. -/
structure Kept (deadlines : Deadlines) (params : RunParams) (g : Ledger) : Prop where
  params_eq : g.loop.params = params
  /-- The run has heard what the ledger says that it was told. -/
  run_eq : g.loop.run = (Run.start params.nodes params.amount deadlines).after g.told
  marked : g.loop.IsMarked
  outstanding : g.loop.outstanding.Perm (g.pending.map Errand.request)
  number_lt : ∀ t ∈ g.errands, t.number < g.next
  nodup : (g.errands.map Errand.number).Nodup
  proper : ∀ t ∈ g.errands, t.request.IsProper params
  /-- Every request has ended with a completion of its own. -/
  matched : ∀ a ∈ g.ended, a.2.ends a.1.request = true

namespace Kept

variable {deadlines : Deadlines} {params : RunParams} {g g' : Ledger}

theorem orderly (h : g.Kept deadlines params) : g.loop.run.Orderly := by
  rw [h.run_eq]
  exact Run.orderly_after ..

theorem urls_eq (h : g.Kept deadlines params) : g.loop.run.nodes.urls = params.nodes.urls := by
  rw [h.run_eq]
  exact (Run.sameTask_after (Run.orderly_start ..) _).urls

theorem nodup_pending (h : g.Kept deadlines params) : (g.pending.map Errand.number).Nodup :=
  h.nodup.sublist ((List.sublist_append_right _ _).map _)

/-- A node is asked at most once at a time about a transaction. -/
theorem eq_of_pair? (h : g.Kept deadlines params) {t u : Errand} (ht : t ∈ g.pending)
    (hu : u ∈ g.pending) {pair : CorrelationId × Nat} (htpair : t.request.pair? = some pair)
    (hupair : u.request.pair? = some pair) : t = u := by
  -- the marks of the pending requests are those that the loop has set
  have hmarks : ((g.pending.map Errand.request).filterMap LoopRequest.pair?).Nodup := by
    have hnodup := h.marked.polling.nodup
    rw [h.marked.polling.eq_filterMap] at hnodup
    exact (h.outstanding.filterMap _).nodup_iff.mp hnodup
  have hperm := Errand.perm_cons_filter h.nodup_pending ht
  rcases List.mem_cons.mp (hperm.mem_iff.mp hu) with rfl | hother
  · rfl
  · -- the mark of the other question would be there twice
    have hnodup := ((hperm.map Errand.request).filterMap LoopRequest.pair?).nodup_iff.mp hmarks
    rw [List.map_cons, List.filterMap_cons_some htpair, List.nodup_cons] at hnodup
    refine absurd (List.mem_filterMap.mpr ⟨u.request, ?_, hupair⟩) hnodup.1
    exact List.mem_map_of_mem hother

/-- For every mark there is one pending request, and for nothing else. -/
theorem countP_pending (h : g.Kept deadlines params) {α : Type} [DecidableEq α]
    {f : LoopRequest → Option α} {marks : List α} (hmarks : Marks f marks g.loop.outstanding)
    (a : α) [Decidable (a ∈ marks)] :
    g.pending.countP (fun t => f t.request = some a) = if a ∈ marks then 1 else 0 := by
  -- the marks are those of the pending requests, in whatever order
  have hcount : marks.count a = g.pending.countP fun t => f t.request = some a := by
    rw [hmarks.eq_filterMap, (h.outstanding.filterMap f).count_eq, List.filterMap_map,
      List.count_filterMap]
    exact List.countP_congr fun t _ => by simp
  rw [← hcount]
  split
  · next hmem => exact List.count_eq_one_of_mem hmarks.nodup hmem
  · next hmem => exact List.count_eq_zero_of_not_mem hmem

theorem initial : (Ledger.start deadlines params).Kept deadlines params where
  params_eq := rfl
  run_eq := rfl
  marked := ⟨.empty _, .empty _⟩
  outstanding := .nil
  number_lt := by
    intro t ht
    cases ht
  nodup := List.nodup_nil
  proper := by
    intro t ht
    cases ht
  matched := by
    intro a ha
    cases ha

theorem due (h : g.Kept deadlines params) {event : LoopEvent} (hdue : ∀ c, event ≠ .completed c)
    (now : Moment) : (g.note event now).Kept deadlines params where
  params_eq := Loop.params_react.trans h.params_eq
  run_eq := by
    change (g.loop.react event now).1.run = _
    rw [Loop.run_react, h.run_eq]
    exact (Run.after_append ..).symm
  marked := h.marked.react
  outstanding := by
    change (g.loop.react event now).1.outstanding.Perm _
    rw [Loop.outstanding_react hdue]
    change List.Perm _ ((g.pending ++ Errand.numbered _ _).map _)
    rw [List.map_append, Errand.map_request_numbered]
    exact h.outstanding.append_right _
  number_lt := by
    intro t ht
    rw [errands_note] at ht
    -- an old request has a number below the old bound, and a new one below the new
    rcases List.mem_append.mp ht with hold | hnew
    · exact Nat.lt_add_right _ (h.number_lt t hold)
    · exact (Errand.number_mem hnew).2
  nodup := by
    rw [errands_note, List.map_append, Errand.map_number_numbered]
    refine h.nodup.append List.nodup_range' ?_
    -- what was sent before has smaller numbers
    intro number hold hnew
    obtain ⟨t, ht, rfl⟩ := List.mem_map.mp hold
    exact absurd (List.mem_range'_1.mp hnew).1 (Nat.not_le_of_lt (h.number_lt t ht))
  proper := by
    intro t ht
    rw [errands_note] at ht
    rcases List.mem_append.mp ht with hold | hnew
    · exact h.proper t hold
    · have hurls : g.loop.run.nodes.urls = g.loop.params.nodes.urls := by
        rw [h.urls_eq, h.params_eq]
      rw [← h.params_eq]
      exact Loop.isProper_of_mem_react hurls (Errand.request_mem hnew)
  matched := h.matched

/-- The loop takes for ended what has ended, since no other pending request asks the same. -/
theorem outstanding_strike (h : g.Kept deadlines params) {t : Errand} {c : Completion}
    (ht : t ∈ g.pending) (hends : c.ends t.request = true) :
    (g.loop.outstanding.eraseP c.ends).Perm ((g.strike t c).pending.map Errand.request) := by
  have hproper : ∀ q ∈ g.loop.outstanding, q.IsProper params := by
    intro q hq
    obtain ⟨u, hu, rfl⟩ := List.mem_map.mp (h.outstanding.mem_iff.mp hq)
    exact h.proper u (List.mem_append_right _ hu)
  have hout : t.request ∈ g.loop.outstanding :=
    h.outstanding.mem_iff.mpr (List.mem_map_of_mem ht)
  -- the loop drops the first request that the completion ends, which is this one
  obtain ⟨q, before, later, -, hq, heq, herase⟩ := List.exists_of_eraseP hout hends
  have hmem : q ∈ g.loop.outstanding := by
    rw [heq]
    simp
  obtain rfl : q = t.request :=
    Completion.eq_of_ends (hproper q hmem) (hproper _ hout) hq hends
  -- on both sides, the request is what has been there in addition
  have hleft : g.loop.outstanding.Perm (t.request :: g.loop.outstanding.eraseP c.ends) := by
    rw [herase]
    exact (List.Perm.of_eq heq).trans List.perm_middle
  have hright := (Errand.perm_cons_filter h.nodup_pending ht).map Errand.request
  exact (hleft.symm.trans (h.outstanding.trans hright)).cons_inv

/-- The run is told what the request has brought. -/
theorem news_completed (h : g.Kept deadlines params) {t : Errand} {c : Completion}
    (ht : t ∈ g.pending) (hends : c.ends t.request = true) (now : Moment) :
    g.loop.news (.completed c) now = c.news now := by
  have hout : t.request ∈ g.loop.outstanding :=
    h.outstanding.mem_iff.mpr (List.mem_map_of_mem ht)
  exact if_pos (List.any_eq_true.mpr ⟨_, hout, hends⟩)

/-- What ends is known before and after. -/
theorem perm_errands (h : g.Kept deadlines params) {t : Errand} {c : Completion}
    (ht : t ∈ g.pending) (now : Moment) :
    ((g.strike t c).note (.completed c) now).errands.Perm g.errands := by
  rw [errands_finish]
  exact (Errand.perm_cons_filter h.nodup_pending ht).symm.append_left _

theorem finish (h : g.Kept deadlines params) {t : Errand} {c : Completion} (ht : t ∈ g.pending)
    (hends : c.ends t.request = true) (now : Moment) :
    ((g.strike t c).note (.completed c) now).Kept deadlines params where
  params_eq := Loop.params_react.trans h.params_eq
  run_eq := by
    change (g.loop.react (.completed c) now).1.run = _
    rw [Loop.run_react, h.run_eq]
    exact (Run.after_append ..).symm
  marked := h.marked.react
  outstanding := by
    change (g.loop.complete c now).outstanding.Perm _
    rw [Loop.outstanding_complete]
    change List.Perm _ (((g.strike t c).pending ++ Errand.numbered _ []).map _)
    rw [Errand.numbered_nil, List.append_nil]
    exact h.outstanding_strike ht hends
  number_lt := fun u hu => h.number_lt u ((h.perm_errands ht now).mem_iff.mp hu)
  nodup := ((h.perm_errands ht now).map _).nodup_iff.mpr h.nodup
  proper := fun u hu => h.proper u ((h.perm_errands ht now).mem_iff.mp hu)
  matched := by
    intro a ha
    rcases List.mem_append.mp ha with hold | hnew
    · exact h.matched a hold
    · rw [List.mem_singleton.mp hnew]
      exact hends

/-- **Invariant preservation.** -/
theorem change (h : g.Kept deadlines params) (hchange : g.Change g') :
    g'.Kept deadlines params := by
  cases hchange with
  | due hdue => exact h.due hdue _
  | ended ht hends => exact h.finish ht hends _

theorem close (h : g.Kept deadlines params) : g.close.Kept deadlines params where
  params_eq := by
    change g.loop.close.params = params
    rw [Loop.close_params, h.params_eq]
  run_eq := by
    change g.loop.close.run = _
    rw [Loop.close_run, h.run_eq]
    rfl
  marked := h.marked.close
  outstanding := by
    unfold Ledger.close
    dsimp only
    split
    · next hover =>
      rw [Loop.close_of_isOver hover]
      exact .nil
    · next hover =>
      rw [Loop.close_of_not_isOver (Bool.eq_false_iff.mpr hover)]
      exact h.outstanding
  number_lt := fun t ht => h.number_lt t (errands_close.subset ht)
  nodup := h.nodup.sublist (errands_close.map _)
  proper := fun t ht => h.proper t (errands_close.subset ht)
  matched := h.matched

end Kept

/-! ### Questions end in the order of their numbers -/

/-- The questions to one node about one transaction end in the order in which they were sent, and
what is pending has been sent last. -/
def InOrder (g : Ledger) : Prop := g.errands.Pairwise Errand.Before

namespace InOrder

variable {deadlines : Deadlines} {params : RunParams} {g g' : Ledger}

theorem due (h : g.InOrder) (hkept : g.Kept deadlines params) (event : LoopEvent) (now : Moment) :
    (g.note event now).InOrder := by
  unfold InOrder
  rw [errands_note, List.pairwise_append]
  refine ⟨h, ?_, ?_⟩
  · exact Errand.pairwise_numbered.imp fun hlt _ _ _ _ => hlt
  · -- what was sent before has a smaller number, whatever it asks
    intro t ht u hu _ _ _ _
    exact Nat.lt_of_lt_of_le (hkept.number_lt t ht) (Errand.number_mem hu).1

theorem finish (h : g.InOrder) (hkept : g.Kept deadlines params) {t : Errand} {c : Completion}
    (ht : t ∈ g.pending) (now : Moment) :
    ((g.strike t c).note (.completed c) now).InOrder := by
  obtain ⟨hended, hpending, hacross⟩ := List.pairwise_append.mp h
  unfold InOrder
  rw [errands_finish, List.pairwise_append, List.pairwise_cons]
  refine ⟨hended, ⟨?_, hpending.filter _⟩, ?_⟩
  · -- nothing else that is pending asks the same
    intro u hu id node htpair hupair
    obtain ⟨hmem, hne⟩ := List.mem_filter.mp hu
    rw [hkept.eq_of_pair? ht hmem htpair hupair] at hne
    simp at hne
  · intro a ha u hu
    rcases List.mem_cons.mp hu with rfl | hu
    · exact hacross a ha u ht
    · exact hacross a ha u (List.mem_of_mem_filter hu)

theorem change (h : g.InOrder) (hkept : g.Kept deadlines params) (hchange : g.Change g') :
    g'.InOrder := by
  cases hchange with
  | due _ => exact h.due hkept _ _
  | ended ht _ => exact h.finish hkept ht _

theorem close (h : g.InOrder) : g.close.InOrder := h.sublist errands_close

end InOrder

end Ledger

end ChainWatch
