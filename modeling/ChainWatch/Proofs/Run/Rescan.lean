import ChainWatch.Proofs.Run.Judgement

/-!
# Looking at one watch is looking at all

When an answer comes, a run looks at the one watch that the answer has changed, and at none if it is
no news. The reference is a run that takes no such shortcut: after every answer it scans all watches
in flight in the order of their ids (`Run.rescan`). The first forked one fails the run; if there is
none, every final one is retired, and if any was, the run asks whether it is complete.

The two are the same machine. `replay_rescanning` says so for every history, state by state and reply
by reply, and rests on the invariant that all watches of an unsettled run are open: an answer changes
at most one watch, so a scan after it can find this one only (`isOpen_or_eq_told`), and a scan before
it would have found nothing.

For the same reason judging a run decides by age alone. It never retires a watch, and settles the run
on a failure of age or leaves it as it is (`arrival_checks_suffice`). A run that is to submit nothing
is the one exception: no answer will ever complete it, and judging does.
-/

namespace ChainWatch

/-- The only element that satisfies a test is all that filtering leaves. -/
theorem filter_eq_singleton {α : Type} {l : List α} {p : α → Bool} {x : α} (hnodup : l.Nodup)
    (hx : x ∈ l) (hp : p x = true) (honly : ∀ y ∈ l, p y = true → y = x) : l.filter p = [x] := by
  refine List.perm_singleton.mp ?_
  refine (List.perm_ext_iff_of_nodup (hnodup.filter p) (List.nodup_singleton x)).mpr ?_
  intro y
  rw [List.mem_filter, List.mem_singleton]
  constructor
  · rintro ⟨hy, hpy⟩
    exact honly y hy hpy
  · rintro rfl
    exact ⟨hx, hp⟩

namespace Run

/-! ### The reference -/

/-- Look at every watch in flight, in the order of the ids. The first forked one fails the run. If
there is none, every final one is retired, and if there was any, the run may be complete. -/
def rescan (r : Run) (now : Moment) : Run × Option Verdict :=
  match r.watches.watches.find? fun w => w.fork?.isSome with
  | some w => r.fail .forked w now
  | none =>
    match r.watches.watches.filter Watch.isFinalized with
    | [] => (r, none)
    | w :: ws => ((w :: ws).foldl (fun r w => r.retire w.id) r).settleIfComplete

/-- A node answers about a transaction, and all watches are looked at. -/
def observeRescanning (r : Run) (id : CorrelationId) (node : Nat) (a : Answer) (now : Moment) :
    Run × Option Verdict :=
  if r.isSettled then (r, none) else (r.learn id node a).rescan now

/-- The reaction of a run that looks at all watches after every answer. -/
def reactRescanning (r : Run) : RunEvent → Run × RunReply
  | .observe id node a now =>
    ((r.observeRescanning id node a now).1, .verdict (r.observeRescanning id node a now).2)
  | e => r.react e

/-! ### What a scan finds -/

section Scan

variable {r : Run} {id : CorrelationId} {node : Nat} {a : Answer} {now : Moment} {w : Watch}

/-- After an answer, every watch but the one that was told is still open. -/
theorem isOpen_or_eq_told (hopen : r.AllOpen) (hw : r.watches.get? id = some w) (now : Moment)
    {v : Watch} (hv : v ∈ (r.learn id node a).watches.watches) :
    v.IsOpen ∨ v = r.told (.observe id node a now) w := by
  rw [watches_learn id node a now] at hv
  obtain ⟨u, hu, rfl⟩ := List.mem_map.mp hv
  by_cases hid : u.id = id
  · rw [WatchTable.eq_of_get? hw hu hid]
    exact Or.inr rfl
  · rw [told_observe, if_neg hid]
    exact Or.inl (hopen u hu)

/-- A scan of open watches finds nothing. -/
theorem rescan_of_allOpen (hopen : r.AllOpen) : r.rescan now = (r, none) := by
  have hfork : (r.watches.watches.find? fun w => w.fork?.isSome) = none := by
    refine List.find?_eq_none.mpr fun w hw => ?_
    rw [Watch.fork?_isSome_iff]
    exact not_not_intro (hopen w hw).agrees
  have hfinal : r.watches.watches.filter Watch.isFinalized = [] := by
    refine List.filter_eq_nil_iff.mpr fun w hw => ?_
    rw [(hopen w hw).not_final]
    exact Bool.false_ne_true
  rw [rescan, hfork, hfinal]

/-- A scan finds the fork that the answer has shown. -/
theorem rescan_of_forked (hopen : r.AllOpen) (hw : r.watches.get? id = some w)
    (hfork : ¬ (r.told (.observe id node a now) w).Agrees) :
    (r.learn id node a).rescan now
      = (r.learn id node a).fail .forked (r.told (.observe id node a now) w) now := by
  have htold : r.told (.observe id node a now) w ∈ (r.learn id node a).watches.watches :=
    (WatchTable.get?_eq_some_iff.mp (get?_learn hw node a now)).1
  unfold rescan
  cases hfind : (r.learn id node a).watches.watches.find? fun v => v.fork?.isSome with
  | none =>
    refine absurd ?_ (List.find?_eq_none.mp hfind _ htold)
    exact Watch.fork?_isSome_iff.mpr hfork
  | some v =>
    have hv : v.fork?.isSome = true := by simpa using List.find?_some hfind
    -- the scan finds some forked watch, and an open one is not forked
    rcases isOpen_or_eq_told hopen hw now (List.mem_of_find?_eq_some hfind) with hvopen | rfl
    · exact absurd hvopen.agrees (Watch.fork?_isSome_iff.mp hv)
    · rfl

/-- A scan finds the watch that the answer has made final, and retires this one. -/
theorem rescan_of_final (hopen : r.AllOpen) (hw : r.watches.get? id = some w)
    (hagrees : (r.told (.observe id node a now) w).Agrees)
    (hfinal : (r.told (.observe id node a now) w).isFinalized = true) :
    (r.learn id node a).rescan now = (r.retire id).settleIfComplete := by
  obtain ⟨htold, hid⟩ := WatchTable.get?_eq_some_iff.mp (get?_learn hw node a now)
  -- the watch that was told agrees by assumption, the others because they are open
  have hnofork : ((r.learn id node a).watches.watches.find? fun v => v.fork?.isSome) = none := by
    refine List.find?_eq_none.mpr fun v hv => ?_
    rw [Watch.fork?_isSome_iff]
    refine not_not_intro ?_
    rcases isOpen_or_eq_told hopen hw now hv with hvopen | rfl
    · exact hvopen.agrees
    · exact hagrees
  -- no open watch is final, so the scan retires this one alone
  have hone : (r.learn id node a).watches.watches.filter Watch.isFinalized
      = [r.told (.observe id node a now) w] := by
    refine filter_eq_singleton (WatchTable.nodup_watches _) htold hfinal fun v hv hvfinal => ?_
    rcases isOpen_or_eq_told hopen hw now hv with hvopen | heq
    · rw [hvopen.not_final] at hvfinal
      cases hvfinal
    · exact heq
  rw [rescan, hnofork, hone]
  simp only [List.foldl_cons, List.foldl_nil]
  rw [hid, retire_learn hw]

end Scan

/-! ### The two runs -/

section Same

variable {r : Run}

/-- Whatever an answer does, a scan after it does the same. -/
theorem rescan_of_reaction {id : CorrelationId} {node : Nat} {a : Answer} {now : Moment} {r' : Run}
    {reply : RunReply} (hr : r.report = none) (hopen : r.AllOpen)
    (hreact : Reaction r (.observe id node a now) r' reply) :
    ((r.learn id node a).rescan now).1 = r' ∧
      .verdict ((r.learn id node a).rescan now).2 = reply := by
  cases hreact with
  | noted hopen' =>
    -- all watches are open after the answer too
    rw [rescan_of_allOpen hopen']
    exact ⟨rfl, rfl⟩
  | retired hw hagrees hfinal hmore =>
    rw [rescan_of_final hopen hw hagrees hfinal, settleIfComplete_of_not_isComplete hmore]
    exact ⟨rfl, rfl⟩
  | completed hw hagrees hfinal hdone =>
    have hretire : (r.retire id).report = none := by
      rw [retire_eq hw]
      exact hr
    rw [rescan_of_final hopen hw hagrees hfinal, settleIfComplete_of_isComplete hretire hdone]
    exact ⟨rfl, rfl⟩
  | forked hw hfork =>
    have hlearn : (r.learn id node a).report = none := hr
    rw [rescan_of_forked hopen hw hfork, fail, settle_eq_ended hlearn]
    exact ⟨rfl, rfl⟩

theorem reactRescanning_eq (h : r.Orderly) (e : RunEvent) : r.reactRescanning e = r.react e := by
  cases e with
  | observe id node a now =>
    cases hr : r.report with
    | none =>
      have hobserve : r.observeRescanning id node a now = (r.learn id node a).rescan now := by
        rw [observeRescanning, isSettled_eq_false hr, if_neg Bool.false_ne_true]
      have hreact := reaction_of_allOpen hr h.allOpen (.observe id node a now)
      obtain ⟨hrun, hreply⟩ := rescan_of_reaction hr h.allOpen hreact
      unfold reactRescanning
      simp only
      rw [hobserve]
      exact Prod.ext hrun hreply
    | some rep =>
      -- a settled run listens in neither of the two ways
      have hsettled := isSettled_eq_true hr
      have hobserve : r.observeRescanning id node a now = (r, none) := by
        rw [observeRescanning, if_pos hsettled]
      rw [react_of_isSettled hsettled]
      unfold reactRescanning
      simp only
      rw [hobserve]
      rfl
  | _ => rfl

/-- **The shortcut changes nothing**, in any state and in any reply. -/
theorem replay_rescanning (h : r.Orderly) (es : List RunEvent) :
    replay reactRescanning r es = replay react r es := by
  induction es generalizing r with
  | nil => rfl
  | cons e es ih => rw [replay, replay, reactRescanning_eq h e, ih (h.react e)]

/-! ### Judging -/

/-- Judging a run that has something left to do leaves it as it is, or settles it on a failure of
age. The outcomes of judging that are missing are a success and a fork: the first needs a complete
run, the second a watch that is not open. -/
theorem evaluate_of_busy (h : r.Orderly) (hbusy : r.report = none → ¬ r.IsComplete) (now : Moment) :
    r.evaluate now = (r, none) ∨
      ∃ w v, r.report = none ∧ w ∈ r.watches.watches ∧ r.deadlines.Failure w now v ∧
        r.evaluate now = (r.ended v (some (r.diagnose w now)), some v) := by
  cases hr : r.report with
  | some rep =>
    left
    rw [evaluate, if_pos (isSettled_eq_true hr)]
  | none =>
    rcases evaluate_cases h hr (hbusy hr) now with ⟨w, v, hfirst, heq⟩ | ⟨-, hcalm⟩
    · -- the watch is open, so that only its age can fail it
      have hfailure := Deadlines.failure_of_isOpen (h.allOpen w hfirst.inFlight) hfirst.fails
      exact Or.inr ⟨w, v, rfl, hfirst.inFlight, hfailure, heq⟩
    · exact Or.inl hcalm

end Same

/-- **The checks on arrival are enough.** After every history the nodes agree on each watch in
flight, and each has a node that does not accept it. Looking at all watches after every answer would
lead to the same run and give the same replies. And if there is something to submit, judging the run
settles it on one of the failures of age, or gives no verdict and leaves it as it was. -/
theorem arrival_checks_suffice (nodes : NodeList) (target : UInt32) (deadlines : Deadlines)
    (es : List RunEvent) :
    let r := (start nodes target deadlines).after es
    (∀ w ∈ r.watches.watches, w.Agrees ∧ ∃ s ∈ w.sightings, s.accepted = false) ∧
    replay reactRescanning (start nodes target deadlines) es
      = replay react (start nodes target deadlines) es ∧
    (0 < target → ∀ now,
      r.evaluate now = (r, none) ∨
        ∃ w v, r.report = none ∧ w ∈ r.watches.watches ∧
          (v = .timedOut ∨ v = .rolledBack ∨ v = .neverPacked) ∧
          r.evaluate now = (r.ended v (some (r.diagnose w now)), some v)) := by
  intro r
  have horderly : r.Orderly := orderly_after nodes target deadlines es
  refine ⟨fun w hw => ?_, replay_rescanning (orderly_start nodes target deadlines) es, ?_⟩
  · have hopen := horderly.allOpen w hw
    exact ⟨hopen.agrees, Watch.exists_not_accepted hopen.not_final (horderly.sightings_ne_nil hw)⟩
  · intro hpos now
    have hbalance := balance_after nodes target deadlines es
    -- a run that has something to submit is not complete while it goes on
    have htarget : r.target = target :=
      (sameTask_after (orderly_start nodes target deadlines) es).target
    rw [← htarget] at hpos
    have hbusy : r.report = none → ¬ r.IsComplete := fun hr => hbalance.busy hr hpos
    rcases evaluate_of_busy horderly hbusy now with hcalm | ⟨w, v, hr, hw, hfailure, heq⟩
    · exact Or.inl hcalm
    · refine Or.inr ⟨w, v, hr, hw, ?_, heq⟩
      cases hfailure with
      | timedOut _ => exact Or.inl rfl
      | rolledBack _ _ _ => exact Or.inr (Or.inl rfl)
      | neverPacked _ _ _ => exact Or.inr (Or.inr rfl)

end Run

end ChainWatch
