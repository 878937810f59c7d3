import ChainWatch.Proofs.Run.Account

/-!
# Faults tell a run nothing

A request that fails is forgotten, and so is one that has submitted a transaction, whether the
submission went well or not: `Ledger.step_ended_of_isBarren` says that nothing else of the loop is
touched. What went wrong is not read at all. So two loops that meet the same occasions at the same
moments, except that their requests fail in other ways (`Occasion.Alike`), keep one run and send one
sequence of requests.

The second statement compares two executions. They are compared step by step: after alike occasions
the ledgers still agree on everything but the completions that they have written down
(`Ledger.Agrees`), and nothing is ever decided by those.
-/

namespace ChainWatch

/-! ### Ends that bring nothing -/

namespace Completion

/-- The request has failed, or it was a submission. -/
def IsBarren : Completion → Prop
  | .chainInfo _ (.error _) => True
  | .resolve _ _ (.error _) => True
  | .submit _ _ => True
  | _ => False

/-- Two ends of one request, the same but for what went wrong, or for whether a submission went
wrong. -/
inductive Alike : Completion → Completion → Prop
  | refl (c) : Alike c c
  | chainInfo (node fault fault') :
    Alike (.chainInfo node (.error fault)) (.chainInfo node (.error fault'))
  | resolve (id node fault fault') :
    Alike (.resolve id node (.error fault)) (.resolve id node (.error fault'))
  | submit (id result result') : Alike (.submit id result) (.submit id result')

variable {c c' : Completion}

theorem IsBarren.news_eq (h : c.IsBarren) (now : Moment) : c.news now = [] := by
  cases c with
  | chainInfo node result =>
    cases result with
    | error fault => rfl
    | ok info => exact h.elim
  | resolve id node result =>
    cases result with
    | error fault => rfl
    | ok resolution => exact h.elim
  | submit id result => rfl

theorem Alike.ends_eq (h : c.Alike c') : c.ends = c'.ends := by
  funext q
  cases h with
  | refl => rfl
  | chainInfo => cases q <;> rfl
  | resolve => cases q <;> rfl
  | submit => cases q <;> rfl

theorem Alike.news_eq (h : c.Alike c') (now : Moment) : c.news now = c'.news now := by
  cases h <;> rfl

theorem Alike.forget_eq (h : c.Alike c') (l : Loop) : l.forget c = l.forget c' := by
  have hends := h.ends_eq
  -- to forget a request is to drop what it ends, and both end the same
  cases h with
  | refl => rfl
  | chainInfo node fault fault' =>
    unfold Loop.forget
    rw [hends]
  | resolve id node fault fault' =>
    unfold Loop.forget
    rw [hends]
  | submit id result result' =>
    unfold Loop.forget
    rw [hends]

/-- The loop does not look at what went wrong. -/
theorem Alike.complete_eq (h : c.Alike c') (l : Loop) (now : Moment) :
    l.complete c now = l.complete c' now := by
  -- what is learned is the news, and a fault is no news
  have hlearn : (l.forget c).learn c now = (l.forget c').learn c' now := by
    rw [Loop.learn_eq, Loop.learn_eq, h.news_eq, h.forget_eq]
  unfold Loop.complete
  rw [h.ends_eq, hlearn]

end Completion

namespace Loop

variable {c c' : Completion} (l : Loop) (now : Moment)

theorem step_completed_congr (h : c.Alike c') :
    l.step (.completed c) now = l.step (.completed c') now := by
  have hreact : l.react (.completed c) now = l.react (.completed c') now :=
    congrArg (fun l => (l, [])) (h.complete_eq l now)
  unfold step
  rw [hreact]

theorem news_completed_congr (h : c.Alike c') :
    l.news (.completed c) now = l.news (.completed c') now := by
  -- only a request that is outstanding brings news
  show (if l.outstanding.any c.ends then c.news now else [])
    = if l.outstanding.any c'.ends then c'.news now else []
  rw [h.ends_eq, h.news_eq]

/-- If nothing is learned, the end of a request is that it is forgotten. -/
theorem complete_of_isBarren (h : c.IsBarren) (hany : l.outstanding.any c.ends = true) :
    l.complete c now = l.forget c := by
  -- the run goes through no event at all
  have hrun : (l.forget c).run.after (c.news now) = (l.forget c).run := by
    rw [h.news_eq]
    rfl
  unfold complete
  rw [if_pos hany, learn_eq, hrun]

end Loop

/-! ### One failure -/

/-- Two occasions, the same but for what went wrong with a request. -/
inductive Occasion.Alike : Occasion → Occasion → Prop
  | refl (o) : Alike o o
  | ended (number) {c c'} (h : c.Alike c') : Alike (.ended number c) (.ended number c')

namespace Ledger

variable {deadlines : Deadlines} {params : RunParams} {g g' : Ledger} {t : Errand} {c : Completion}

/-- The event that an occasion is to the loop, if it is one. -/
def event? (g : Ledger) : Occasion → Option LoopEvent
  | .refresh => some .refreshDue
  | .submit id => some (.submitDue id)
  | .poll => some .pollDue
  | .check => some .checkDue
  | .ended number c =>
    (g.pending.find? fun t => t.number = number).bind fun t =>
      if c.ends t.request then some (.completed c) else none

/-- What the loop sends on an occasion. -/
def sends (g : Ledger) (occasion : Occasion) (now : Moment) : List LoopRequest :=
  match g.event? occasion with
  | some event => (g.loop.step event now).2
  | none => []

/-- The run after each of some occasions, and what is sent on it. -/
def trace (g : Ledger) : List (Occasion × Moment) → List (Run × List LoopRequest)
  | [] => []
  | (o, now) :: os => ((g.step o now).loop.run, g.sends o now) :: (g.step o now).trace os

/-- A pending request is found by its number. -/
theorem Kept.find?_pending (h : g.Kept deadlines params) (ht : t ∈ g.pending) :
    g.pending.find? (fun u => u.number = t.number) = some t := by
  cases hfind : g.pending.find? fun u => u.number = t.number with
  | none => simpa using List.find?_eq_none.mp hfind t ht
  | some u =>
    -- whatever is found has this number too, and no two pending requests share one
    have hu : u ∈ g.pending := List.mem_of_find?_eq_some hfind
    have hnumber : u.number = t.number := by simpa using List.find?_some hfind
    rw [List.inj_on_of_nodup_map h.nodup_pending hu ht hnumber]

theorem Sound.isOver_eq_false (h : g.Sound deadlines params) (ht : t ∈ g.pending) :
    g.loop.isOver = false := by
  rw [Bool.eq_false_iff]
  intro hover
  -- a loop that is over has nothing pending, not even this request
  rw [h.idle hover] at ht
  cases ht

/-- **A barren end.** The request is struck off and forgotten, and this is all. -/
theorem step_ended_of_isBarren (h : g.Sound deadlines params) (ht : t ∈ g.pending)
    (hends : c.ends t.request = true) (hbarren : c.IsBarren) (now : Moment) :
    g.step (.ended t.number c) now = { g.strike t c with loop := g.loop.forget c } := by
  -- the request is one that the loop waits for, so the loop does react
  have hout : g.loop.outstanding.any c.ends = true :=
    List.any_eq_true.mpr
      ⟨t.request, h.kept.outstanding.mem_iff.mpr (List.mem_map_of_mem ht), hends⟩
  have hrunning : g.loop.isOver = false := h.isOver_eq_false ht
  have hreact : g.loop.react (.completed c) now = (g.loop.forget c, []) :=
    congrArg (fun l => (l, [])) (g.loop.complete_of_isBarren now hbarren hout)
  -- the run was not over and is the same run, so the loop does not close
  have hforget : (g.loop.forget c).isOver = false := by
    rw [Loop.isOver, Loop.run_forget]
    exact hrunning
  have hnews : g.loop.news (.completed c) now = [] := by
    rw [h.kept.news_completed ht hends, hbarren.news_eq]
  -- the ledger notes no news, no requests sent and no ids drawn
  have hnote : (g.strike t c).note (.completed c) now
      = { g.strike t c with loop := g.loop.forget c } := by
    simp only [note, strike, hreact, hnews, Loop.draws, List.length_nil, Errand.numbered_nil,
      List.append_nil, Nat.add_zero]
  calc g.step (.ended t.number c) now
      = (g.strike t c).record (.completed c) now := by
        simp only [step, h.kept.find?_pending ht, hends, if_true]
    _ = ((g.strike t c).note (.completed c) now).close := record_of_not_isOver hrunning
    _ = { g.strike t c with loop := g.loop.forget c } := by
        simp only [hnote, close, Loop.close_of_not_isOver hforget, hforget, Bool.false_eq_true,
          if_false]

theorem sends_ended (number : Nat) (c : Completion) (now : Moment) :
    g.sends (.ended number c) now = [] := by
  unfold sends
  split
  · next event hevent =>
    -- the only event it can be is the end of a request, to which no request is an answer
    obtain ⟨u, -, hu⟩ := Option.bind_eq_some_iff.mp hevent
    obtain ⟨-, heq⟩ := Option.ite_none_right_eq_some.mp hu
    obtain rfl := Option.some.inj heq
    unfold Loop.step
    split <;> rfl
  · rfl

/-- What has become of a ledger when a request has ended and nothing was learned: the request is
crossed out wherever it was noted. -/
structure CrossedOut (g : Ledger) (t : Errand) (g' : Ledger) : Prop where
  run_eq : g'.loop.run = g.loop.run
  params_eq : g'.loop.params = g.loop.params
  /-- Nothing is sent. -/
  next_eq : g'.next = g.next
  drawn_eq : g'.drawn = g.drawn
  told_eq : g'.told = g.told
  pending_eq : g'.pending = g.pending.filter fun u => u.number ≠ t.number
  outstanding : g'.loop.outstanding.Perm (g'.pending.map Errand.request)
  refreshing_iff : ∀ node, node ∈ g'.loop.refreshing ↔
    node ∈ g.loop.refreshing ∧ t.request.chainNode? ≠ some node
  polling_iff : ∀ pair, pair ∈ g'.loop.polling ↔
    pair ∈ g.loop.polling ∧ t.request.pair? ≠ some pair

/-- The marks that are left when a request is forgotten. -/
theorem Kept.marks_forget (h : g.Kept deadlines params) (hends : c.ends t.request = true) :
    (∀ node, node ∈ (g.loop.forget c).refreshing ↔
        node ∈ g.loop.refreshing ∧ t.request.chainNode? ≠ some node) ∧
      ∀ pair, pair ∈ (g.loop.forget c).polling ↔
        pair ∈ g.loop.polling ∧ t.request.pair? ≠ some pair := by
  cases c with
  | chainInfo node' result =>
    have hnode : t.request.chainNode? = some node' := Completion.ends_chainInfo_iff.mp hends
    obtain ⟨url, hrequest⟩ := LoopRequest.chainNode?_eq_some_iff.mp hnode
    refine ⟨fun node => ?_, fun pair => ?_⟩
    · show node ∈ g.loop.refreshing.erase node' ↔ _
      -- each mark stands once, so that erasing it leaves none of it
      rw [h.marked.refreshing.nodup.mem_erase_iff, hnode, and_comm]
      simp [eq_comm]
    · show pair ∈ g.loop.polling ↔ _
      -- the poll marks stay, and a question for the chain info was never one of them
      simp [hrequest, LoopRequest.pair?]
  | resolve id node' result =>
    have hpair : t.request.pair? = some (id, node') := Completion.ends_resolve_iff.mp hends
    obtain ⟨url, hrequest⟩ := LoopRequest.pair?_eq_some_iff.mp hpair
    refine ⟨fun node => ?_, fun pair => ?_⟩
    -- the same, with the two kinds of marks changing places
    · show node ∈ g.loop.refreshing ↔ _
      simp [hrequest, LoopRequest.chainNode?]
    · show pair ∈ g.loop.polling.erase (id, node') ↔ _
      rw [h.marked.polling.nodup.mem_erase_iff, hpair, and_comm]
      simp [eq_comm]
  | submit id result =>
    -- a submission has no mark of either kind
    obtain ⟨s, hrequest, -⟩ := Completion.ends_submit hends
    rw [hrequest]
    exact ⟨fun node => by simp [Loop.forget, LoopRequest.chainNode?],
      fun pair => by simp [Loop.forget, LoopRequest.pair?]⟩

theorem Sound.crossedOut (h : g.Sound deadlines params) (ht : t ∈ g.pending)
    (hends : c.ends t.request = true) (hbarren : c.IsBarren) (now : Moment) :
    g.CrossedOut t (g.step (.ended t.number c) now) := by
  rw [step_ended_of_isBarren h ht hends hbarren now]
  -- of what the loop has written down only the requests and the marks are touched
  exact
    { run_eq := Loop.run_forget ..
      params_eq := Loop.params_forget ..
      next_eq := rfl
      drawn_eq := rfl
      told_eq := rfl
      pending_eq := rfl
      outstanding := by
        show (g.loop.forget c).outstanding.Perm _
        rw [Loop.outstanding_forget]
        exact h.kept.outstanding_strike ht hends
      refreshing_iff := (h.kept.marks_forget hends).1
      polling_iff := (h.kept.marks_forget hends).2 }

/-! ### Two executions -/

/-- Two ledgers agree on everything but the completions that they have written down. -/
structure Agrees (g g' : Ledger) : Prop where
  loop_eq : g.loop = g'.loop
  next_eq : g.next = g'.next
  pending_eq : g.pending = g'.pending
  drawn_eq : g.drawn = g'.drawn
  told_eq : g.told = g'.told

namespace Agrees

variable {o o' : Occasion} {now : Moment} {e e' : LoopEvent}

theorem refl (g : Ledger) : g.Agrees g := ⟨rfl, rfl, rfl, rfl, rfl⟩

theorem strike (h : g.Agrees g') (t : Errand) (c c' : Completion) :
    (g.strike t c).Agrees (g'.strike t c') where
  loop_eq := h.loop_eq
  next_eq := h.next_eq
  pending_eq := congrArg (List.filter _) h.pending_eq
  drawn_eq := h.drawn_eq
  told_eq := h.told_eq

theorem record (h : g.Agrees g') (hstep : g.loop.step e now = g.loop.step e' now)
    (hnews : g.loop.news e now = g.loop.news e' now) (hdraws : g.loop.draws e = g.loop.draws e') :
    (g.record e now).Agrees (g'.record e' now) := by
  -- both ledgers taken apart, so that equal parts become one
  obtain ⟨loop, next, pending, ended, drawn, told⟩ := g
  obtain ⟨loop', next', pending', ended', drawn', told'⟩ := g'
  obtain ⟨rfl, rfl, rfl, rfl, rfl⟩ := h
  constructor <;> simp only [Ledger.record, hstep, hnews, hdraws]

/-- Ledgers that agree still do after alike occasions. -/
theorem step (h : g.Agrees g') (ho : o.Alike o') : (g.step o now).Agrees (g'.step o' now) := by
  -- an occasion that is no end of a request is recorded without a look at any request
  have hrecord (e : LoopEvent) : (g.record e now).Agrees (g'.record e now) :=
    h.record rfl rfl rfl
  cases ho with
  | refl =>
    cases o with
    | refresh => exact hrecord .refreshDue
    | submit id => exact hrecord (.submitDue id)
    | poll => exact hrecord .pollDue
    | check => exact hrecord .checkDue
    | ended number c =>
      unfold Ledger.step
      dsimp only
      rw [← h.pending_eq]
      split
      · split
        · exact (h.strike _ c c).record rfl rfl rfl
        · exact h
      · exact h
  | @ended number c c' hc =>
    unfold Ledger.step
    dsimp only
    rw [← h.pending_eq, ← hc.ends_eq]
    split
    · next t _ =>
      -- found in both, and ended by both, since alike completions end the same requests
      split
      · have hstrike := h.strike t c c'
        exact hstrike.record (Loop.step_completed_congr _ now hc)
          (Loop.news_completed_congr _ now hc) rfl
      · exact h
    · exact h

/-- On alike occasions they send the same. -/
theorem sends_eq (h : g.Agrees g') (ho : o.Alike o') : g.sends o now = g'.sends o' now := by
  cases ho with
  | refl =>
    -- the event is read off the pending requests alone
    have hevent : g.event? o = g'.event? o := by
      unfold event?
      rw [h.pending_eq]
    unfold sends
    rw [hevent, h.loop_eq]
  | ended number hc => rw [sends_ended, sends_ended]

/-- **Induction over the execution.** -/
theorem after {os os' : List (Occasion × Moment)} (h : g.Agrees g')
    (hos : List.Forall₂ (fun o o' => o.1.Alike o'.1 ∧ o.2 = o'.2) os os') :
    (g.after os).Agrees (g'.after os') ∧ g.trace os = g'.trace os' := by
  induction hos generalizing g g' with
  | nil => exact ⟨h, rfl⟩
  | @cons o o' os os' ho _ ih =>
    obtain ⟨o, now⟩ := o
    obtain ⟨o', now'⟩ := o'
    obtain ⟨halike, hnow⟩ := ho
    dsimp only at halike hnow
    subst hnow
    -- one step keeps the agreement, and the rest follows from the later ledgers
    have hstep : (g.step o now).Agrees (g'.step o' now) := h.step halike
    obtain ⟨hafter, htrace⟩ := ih hstep
    refine ⟨hafter, ?_⟩
    show ((g.step o now).loop.run, g.sends o now) :: (g.step o now).trace os
      = ((g'.step o' now).loop.run, g'.sends o' now) :: (g'.step o' now).trace os'
    rw [hstep.loop_eq, h.sends_eq halike, htrace]

end Agrees

/-- **Faults tell a run nothing.** When a request fails, or a submission has ended in any way, the
run stays as it is, nothing is sent, and of the loop's notes only those about this request go. So
executions whose occasions differ only in how requests have failed, and in whether submissions have,
agree on the run after each occasion, on what is sent on it, and on the report. -/
theorem faults_tell_nothing (deadlines : Deadlines) (params : RunParams) :
    (∀ (os : List (Occasion × Moment)) (t : Errand) (c : Completion) (now : Moment),
      t ∈ ((start deadlines params).after os).pending → c.ends t.request = true → c.IsBarren →
        ((start deadlines params).after os).sends (.ended t.number c) now = [] ∧
          ((start deadlines params).after os).CrossedOut t
            (((start deadlines params).after os).step (.ended t.number c) now)) ∧
    ∀ os os' : List (Occasion × Moment),
      List.Forall₂ (fun o o' => o.1.Alike o'.1 ∧ o.2 = o'.2) os os' →
        (start deadlines params).trace os = (start deadlines params).trace os' ∧
          ((start deadlines params).after os).loop = ((start deadlines params).after os').loop ∧
            ((start deadlines params).after os).loop.report?
              = ((start deadlines params).after os').loop.report? := by
  constructor
  · intro os t c now ht hends hbarren
    have hsound := Sound.of_start deadlines params os
    exact ⟨sends_ended _ c now, hsound.crossedOut ht hends hbarren now⟩
  · intro os os' hos
    obtain ⟨hagrees, htrace⟩ := (Agrees.refl (start deadlines params)).after hos
    exact ⟨htrace, hagrees.loop_eq, congrArg Loop.report? hagrees.loop_eq⟩

/-- A question fails and is asked again, and a submission ends, both as given. -/
def flapping (fault : NodeFault) (result : Except SubmitFault Unit) : List (Occasion × Moment) :=
  [(.submit .zero, .start), (.poll, .start), (.ended 1 (.resolve .zero 0 (.error fault)), .start),
    (.ended 0 (.submit .zero result), .start), (.poll, .start),
    (.ended 3 (.resolve .zero 0 (.ok (.notFound ""))), .start)]

theorem faults_tell_nothing_flapping :
    ((start {} oneForTwo).after ((flapping .timedOut (.ok ())).take 2)).CrossedOut
        ⟨1, .resolve .zero 0 "a"⟩
        ((start {} oneForTwo).after ((flapping .timedOut (.ok ())).take 3)) ∧
      ((start {} oneForTwo).after (flapping .timedOut (.ok ()))).loop.run.watches.ids = [.zero] ∧
      (start {} oneForTwo).trace (flapping .timedOut (.ok ()))
        = (start {} oneForTwo).trace (flapping (.status 503 "") (.error (.refused 500 "no"))) := by
  obtain ⟨hone, htwo⟩ := faults_tell_nothing {} oneForTwo
  refine ⟨?_, by decide, ?_⟩
  · have hpending : (⟨1, .resolve .zero 0 "a"⟩ : Errand) ∈
        ((start {} oneForTwo).after ((flapping .timedOut (.ok ())).take 2)).pending :=
      List.mem_cons_of_mem _ List.mem_cons_self
    exact (hone _ _ (.resolve .zero 0 (.error .timedOut)) .start hpending (by decide) trivial).2
  · refine (htwo _ _ ?_).1
    refine .cons ⟨.refl _, rfl⟩ (.cons ⟨.refl _, rfl⟩ (.cons ⟨.ended 1 ?_, rfl⟩
      (.cons ⟨.ended 0 ?_, rfl⟩ (.cons ⟨.refl _, rfl⟩ (.cons ⟨.refl _, rfl⟩ .nil)))))
    · exact .resolve .zero 0 .timedOut (.status 503 "")
    · exact .submit .zero (.ok ()) (.error (.refused 500 "no"))

end Ledger

end ChainWatch
