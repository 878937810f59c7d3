import ChainWatch.Proofs.Run.Event
import ChainWatch.Proofs.Watch.Agreement

/-!
# Everything that an event can do to a run

A run that has settled does not react (`react_of_isSettled`). For one that has not, and whose
watches are all open, the relation `Run.Reaction` lists what an event can do, one constructor for
each outcome, and `reaction_of_allOpen` says that the reaction of the run is one of them. This is
the only place where the operations of a run are opened; every invariant of runs is a case analysis
on `Run.Reaction`.

That the watches are open is itself kept by every reaction (`Orderly.react`), so the relation
describes every run that a history leads to (`orderly_after`). The point of the invariant is
what it excludes: an answer can make a fork or a final watch of the one watch that it changes, and
that watch is looked at as the answer arrives. Judging therefore never finds a fork, nor a watch to
retire, and its only outcomes are those of `Deadlines.Failure`. The exception is a run that is to
submit nothing: it has no watches and succeeds when it is first judged (`Reaction.vacuous`).
-/

namespace ChainWatch

namespace Run

variable {r : Run} {e : RunEvent}

/-! ### The pieces of a reaction -/

/-- Every watch in flight is open. -/
def AllOpen (r : Run) : Prop := ∀ w ∈ r.watches.watches, w.IsOpen

/-- Everything was submitted and nothing is in flight. -/
def IsComplete (r : Run) : Prop := r.target ≤ r.submitted ∧ r.watches.watches = []

/-- The run after an answer has reached the watch of its id, before anything follows from it. -/
def learn (r : Run) (id : CorrelationId) (node : Nat) (a : Answer) : Run :=
  { r with watches := (r.watches.observe id node a (r.nodes.frontier node)).1 }

/-- The run with a report, and nothing in flight. -/
def ended (r : Run) (v : Verdict) (d : Option Diagnosis) : Run :=
  { r with
    report := some { verdict := v, diagnosis := d, progress := r.progress }
    watches := r.watches.clear }

theorem isSettled_eq_false (hr : r.report = none) : r.isSettled = false := by
  simp [isSettled, hr]

theorem isSettled_eq_true {rep : RunReport} (hr : r.report = some rep) : r.isSettled = true := by
  simp [isSettled, hr]

theorem settle_eq_ended (hr : r.report = none) (v : Verdict) (d : Option Diagnosis) :
    r.settle v d = (r.ended v d, some v) := by
  simp [settle, isSettled_eq_false hr, ended]

theorem retire_eq {id : CorrelationId} {w : Watch} (hw : r.watches.get? id = some w) :
    r.retire id
      = { r with watches := (r.watches.remove id).1, finalized := r.finalized + 1 } := by
  simp [retire, WatchTable.remove, hw]

theorem isEmpty_iff {t : WatchTable} : t.isEmpty = true ↔ t.watches = [] := by
  simp [WatchTable.isEmpty]

theorem settleIfComplete_of_isComplete (hr : r.report = none) (h : r.IsComplete) :
    r.settleIfComplete = (r.ended .success none, some .success) := by
  have hnot : ¬ r.submitted < r.target := UInt32.not_lt.mpr h.1
  have hempty : r.watches.isEmpty = true := isEmpty_iff.mpr h.2
  simp [settleIfComplete, hnot, hempty, settle_eq_ended hr]

theorem settleIfComplete_of_not_isComplete (h : ¬ r.IsComplete) : r.settleIfComplete = (r, none) := by
  unfold settleIfComplete
  split
  · rfl
  · next hcond =>
    refine absurd ?_ h
    simp only [Bool.or_eq_true, decide_eq_true_eq, Bool.not_eq_true', not_or,
      Bool.not_eq_false] at hcond
    exact ⟨UInt32.not_lt.mp hcond.1, isEmpty_iff.mp hcond.2⟩

/-- An answer reaches every watch as its event tells it. -/
theorem watches_learn (id : CorrelationId) (node : Nat) (a : Answer) (now : Moment) :
    (r.learn id node a).watches.watches
      = r.watches.watches.map (r.told (.observe id node a now)) := rfl

/-! ### Reactions -/

/-- What an event can do to a run that has not settled and whose watches are all open. -/
inductive Reaction (r : Run) : RunEvent → Run → RunReply → Prop
  /-- The run wants no transaction, or watches this one. -/
  | refused {id now} (h : r.target ≤ r.submitted ∨ ∃ w, r.watches.get? id = some w) :
      Reaction r (.submit id now) r (.taken false)
  /-- A transaction is watched and counted. -/
  | registered {id now} (hwanted : r.submitted < r.target) (hnew : r.watches.get? id = none) :
      Reaction r (.submit id now)
        { r with watches := (r.watches.add id now).1, submitted := r.submitted + 1 } (.taken true)
  /-- What a node says about its chain is kept. -/
  | informed {node info} :
      Reaction r (.hear node info) { r with nodes := r.nodes.hear node info } .nothing
  /-- An answer is kept and decides nothing. -/
  | noted {id node a now} (hopen : (r.learn id node a).AllOpen) :
      Reaction r (.observe id node a now) (r.learn id node a) (.verdict none)
  /-- An answer makes a watch final, and there is more to do. -/
  | retired {id node a now w} (hw : r.watches.get? id = some w)
      (hagrees : (r.told (.observe id node a now) w).Agrees)
      (hfinal : (r.told (.observe id node a now) w).isFinalized = true)
      (hmore : ¬ (r.retire id).IsComplete) :
      Reaction r (.observe id node a now) (r.retire id) (.verdict none)
  /-- An answer makes the last watch final. -/
  | completed {id node a now w} (hw : r.watches.get? id = some w)
      (hagrees : (r.told (.observe id node a now) w).Agrees)
      (hfinal : (r.told (.observe id node a now) w).isFinalized = true)
      (hdone : (r.retire id).IsComplete) :
      Reaction r (.observe id node a now) ((r.retire id).ended .success none)
        (.verdict (some .success))
  /-- An answer shows a fork. -/
  | forked {id node a now w} (hw : r.watches.get? id = some w)
      (hfork : ¬ (r.told (.observe id node a now) w).Agrees) :
      Reaction r (.observe id node a now)
        ((r.learn id node a).ended .forked
          (some ((r.learn id node a).diagnose (r.told (.observe id node a now) w) now)))
        (.verdict (some .forked))
  /-- Judging finds nothing to decide. -/
  | waited {now} (hmore : ¬ r.IsComplete)
      (hcalm : ∀ w ∈ r.watches.watches, r.deadlines.assess w now = .waiting) :
      Reaction r (.evaluate now) r (.verdict none)
  /-- Judging finds a watch that fails, and none that fails before it. -/
  | failed {now w v} (hw : w ∈ r.watches.watches) (hfail : r.deadlines.assess w now = .failed v)
      (hfirst : ∀ u ∈ r.watches.watches, u.id < w.id → r.deadlines.assess u now = .waiting) :
      Reaction r (.evaluate now) (r.ended v (some (r.diagnose w now))) (.verdict (some v))
  /-- Judging finds that there was nothing to do. -/
  | vacuous {now} (hdone : r.IsComplete) :
      Reaction r (.evaluate now) (r.ended .success none) (.verdict (some .success))

/-- A settled run hears nothing more. -/
theorem react_of_isSettled (hr : r.isSettled = true) (e : RunEvent) : r.react e = (r, e.refusal) := by
  cases e with
  | submit id now => simp [react, submit, wantsSubmission, hr, RunEvent.refusal]
  | hear node info => simp [react, hear, hr, RunEvent.refusal]
  | observe id node a now => simp [react, observe, hr, RunEvent.refusal]
  | evaluate now => simp [react, evaluate, hr, RunEvent.refusal]

theorem reaction_submit (hr : r.report = none) (id : CorrelationId) (now : Moment) :
    Reaction r (.submit id now) (r.react (.submit id now)).1 (r.react (.submit id now)).2 := by
  unfold react submit wantsSubmission
  by_cases hwanted : r.submitted < r.target
  · simp only [isSettled_eq_false hr, hwanted, decide_true, Bool.not_false, Bool.and_self, if_true]
    cases hget : r.watches.get? id with
    | none =>
      have hadd : r.watches.add id now = ((r.watches.add id now).1, true) :=
        Prod.ext rfl (by rw [WatchTable.add_snd, hget]; rfl)
      rw [hadd]
      exact .registered hwanted hget
    | some w =>
      have hadd : r.watches.add id now = ((r.watches.add id now).1, false) :=
        Prod.ext rfl (by rw [WatchTable.add_snd, hget]; rfl)
      rw [hadd]
      exact .refused (Or.inr ⟨w, hget⟩)
  · simp only [hwanted, decide_false, Bool.and_false, Bool.false_eq_true, if_false]
    exact .refused (Or.inl (UInt32.not_lt.mp hwanted))

/-! ### Answers -/

section Answers

variable {id : CorrelationId} {node : Nat} {a : Answer} {now : Moment} {w : Watch}

/-- An answer that is no news, or whose id is not watched, leaves the run as it is. -/
theorem learn_eq_self
    (h : (r.watches.observe id node a (r.nodes.frontier node)).2 ≠ some true) :
    r.learn id node a = r := by
  unfold learn
  rw [WatchTable.observe_eq_self _ _ _ _ _ h]

theorem get?_learn (hw : r.watches.get? id = some w) (node : Nat) (a : Answer) (now : Moment) :
    (r.learn id node a).watches.get? id = some (r.told (.observe id node a now) w) := by
  obtain ⟨hmem, hid⟩ := WatchTable.get?_eq_some_iff.mp hw
  refine WatchTable.get?_eq_some_iff.mpr ⟨?_, by rw [told_id, hid]⟩
  rw [watches_learn]
  exact List.mem_map_of_mem hmem

theorem retire_learn (hw : r.watches.get? id = some w) :
    (r.learn id node a).retire id = r.retire id := by
  rw [retire_eq (get?_learn hw node a Moment.start), retire_eq hw]
  simp only [learn, WatchTable.remove_observe]

/-- If the watch of the answer stays open, then all watches do: the others are not told anything. -/
theorem allOpen_learn (hopen : r.AllOpen) (hw : r.watches.get? id = some w)
    (htold : (r.told (.observe id node a now) w).IsOpen) : (r.learn id node a).AllOpen := by
  intro v hv
  rw [watches_learn id node a now] at hv
  obtain ⟨u, hu, rfl⟩ := List.mem_map.mp hv
  by_cases hid : u.id = id
  · rw [WatchTable.eq_of_get? hw hu hid]
    exact htold
  · rw [told_observe, if_neg hid]
    exact hopen u hu

/-- News of a watch is reviewed. -/
theorem observe_of_news (hr : r.report = none) (hw : r.watches.get? id = some w)
    (hnews : (r.watches.observe id node a (r.nodes.frontier node)).2 = some true) :
    r.observe id node a now
      = (r.learn id node a).review (r.told (.observe id node a now) w) now := by
  have hpair : r.watches.observe id node a (r.nodes.frontier node)
      = ((r.learn id node a).watches, some true) := Prod.ext rfl hnews
  unfold observe
  rw [isSettled_eq_false hr, if_neg Bool.false_ne_true, hpair]
  simp only [get?_learn hw node a now]
  rfl

theorem observe_of_no_news (hr : r.report = none)
    (hnews : (r.watches.observe id node a (r.nodes.frontier node)).2 ≠ some true) :
    r.observe id node a now = (r, none) := by
  unfold observe
  rw [isSettled_eq_false hr, if_neg Bool.false_ne_true]
  split
  · next hpair => exact absurd (by rw [hpair]) hnews
  · rfl

/-- Reviewing the watch that was told an answer fails the run if there is a fork, retires the watch
if it is final, and else leaves all watches open. -/
theorem reaction_review (hr : r.report = none) (hopen : r.AllOpen)
    (hw : r.watches.get? id = some w) (now : Moment) :
    Reaction r (.observe id node a now)
      ((r.learn id node a).review (r.told (.observe id node a now) w) now).1
      (.verdict ((r.learn id node a).review (r.told (.observe id node a now) w) now).2) := by
  obtain ⟨-, hid⟩ := WatchTable.get?_eq_some_iff.mp (get?_learn hw node a now)
  have hlearn : (r.learn id node a).report = none := hr
  have hretire : (r.retire id).report = none := by
    rw [retire_eq hw]
    exact hr
  by_cases hagrees : (r.told (.observe id node a now) w).Agrees
  · have hfork : ¬ (r.told (.observe id node a now) w).fork?.isSome = true := by
      rw [Watch.fork?_isSome_iff]
      exact not_not_intro hagrees
    by_cases hfinal : (r.told (.observe id node a now) w).isFinalized = true
    · rw [review, if_neg hfork, if_pos hfinal, hid, retire_learn hw]
      by_cases hdone : (r.retire id).IsComplete
      · rw [settleIfComplete_of_isComplete hretire hdone]
        exact .completed hw hagrees hfinal hdone
      · rw [settleIfComplete_of_not_isComplete hdone]
        exact .retired hw hagrees hfinal hdone
    · rw [review, if_neg hfork, if_neg hfinal]
      exact .noted (allOpen_learn hopen hw ⟨hagrees, Bool.eq_false_iff.mpr hfinal⟩)
  · have hfork : (r.told (.observe id node a now) w).fork?.isSome = true :=
      Watch.fork?_isSome_iff.mpr hagrees
    rw [review, if_pos hfork, fail, settle_eq_ended hlearn]
    exact .forked hw hagrees

theorem reaction_observe (hr : r.report = none) (hopen : r.AllOpen) (id : CorrelationId)
    (node : Nat) (a : Answer) (now : Moment) :
    Reaction r (.observe id node a now) (r.react (.observe id node a now)).1
      (r.react (.observe id node a now)).2 := by
  change Reaction r _ (r.observe id node a now).1 (.verdict (r.observe id node a now).2)
  by_cases hnews : (r.watches.observe id node a (r.nodes.frontier node)).2 = some true
  · -- the watch of the answer has changed
    obtain ⟨w, hw, -⟩ := Option.map_eq_some_iff.mp hnews
    rw [observe_of_news hr hw hnews]
    exact reaction_review hr hopen hw now
  · -- nothing has changed, so the run is the one that has learned the answer
    have hsame : r.learn id node a = r := learn_eq_self hnews
    rw [observe_of_no_news hr hnews]
    have hnoted : Reaction r (.observe id node a now) (r.learn id node a) (.verdict none) :=
      .noted (by rw [hsame]; exact hopen)
    rw [hsame] at hnoted
    exact hnoted

end Answers

/-! ### Judging -/

/-- Judging the open watches of some ids finds the first that fails, or none. -/
theorem judge_of_allOpen (hr : r.report = none) (hopen : r.AllOpen) (now : Moment)
    (ids : List CorrelationId) :
    (∃ before id later w v, ids = before ++ id :: later ∧ r.watches.get? id = some w ∧
        r.deadlines.assess w now = .failed v ∧
        (∀ i ∈ before, ∀ u, r.watches.get? i = some u → r.deadlines.assess u now = .waiting) ∧
        judge now ids r = (r.ended v (some (r.diagnose w now)), some v)) ∨
      (∀ i ∈ ids, ∀ u, r.watches.get? i = some u → r.deadlines.assess u now = .waiting) ∧
        judge now ids r = r.settleIfComplete := by
  induction ids with
  | nil => exact Or.inr ⟨by simp, rfl⟩
  | cons id ids ih =>
    by_cases hskip : ∀ u, r.watches.get? id = some u → r.deadlines.assess u now = .waiting
    · -- the first id decides nothing, so the others do
      have hjudge : judge now (id :: ids) r = judge now ids r := by
        rw [judge]
        cases hget : r.watches.get? id with
        | none => rfl
        | some u => simp only [hskip u hget]
      rw [hjudge]
      rcases ih with ⟨before, i, later, w, v, rfl, hw, hfail, hbefore, heq⟩ | ⟨hcalm, heq⟩
      · refine Or.inl ⟨id :: before, i, later, w, v, rfl, hw, hfail, ?_, heq⟩
        exact List.forall_mem_cons.mpr ⟨hskip, hbefore⟩
      · exact Or.inr ⟨List.forall_mem_cons.mpr ⟨hskip, hcalm⟩, heq⟩
    · -- the first id has a watch that does not wait, and being open it fails
      push Not at hskip
      obtain ⟨w, hw, hnot⟩ := hskip
      have hwopen : w.IsOpen := hopen w (WatchTable.get?_eq_some_iff.mp hw).1
      left
      cases hassess : r.deadlines.assess w now with
      | finalized => exact absurd hassess (Deadlines.assess_ne_finalized hwopen)
      | waiting => exact absurd hassess hnot
      | failed v =>
        refine ⟨[], id, ids, w, v, rfl, hw, hassess, by simp, ?_⟩
        simp only [judge, hw, hassess, fail, settle_eq_ended hr]

theorem reaction_evaluate (hr : r.report = none) (hopen : r.AllOpen) (now : Moment) :
    Reaction r (.evaluate now) (r.react (.evaluate now)).1 (r.react (.evaluate now)).2 := by
  have hevaluate : r.evaluate now = judge now r.watches.ids r := by
    rw [evaluate, isSettled_eq_false hr, if_neg Bool.false_ne_true]
  unfold react
  simp only [hevaluate]
  rcases judge_of_allOpen hr hopen now r.watches.ids with
    ⟨before, id, later, w, v, hids, hw, hfail, hbefore, heq⟩ | ⟨hcalm, heq⟩
  · obtain ⟨hmem, rfl⟩ := WatchTable.get?_eq_some_iff.mp hw
    rw [heq]
    refine .failed hmem hfail fun u hu hlt => hbefore u.id ?_ u (WatchTable.get?_of_mem hu)
    exact WatchTable.mem_before_of_lt hids hu hlt
  · rw [heq]
    by_cases hdone : r.IsComplete
    · rw [settleIfComplete_of_isComplete hr hdone]
      exact .vacuous hdone
    · rw [settleIfComplete_of_not_isComplete hdone]
      refine .waited hdone fun w hw => hcalm w.id ?_ w (WatchTable.get?_of_mem hw)
      exact List.mem_map_of_mem hw

/-- **Inversion.** Whatever an event does to a run that has not settled, and whose watches are all
open, is listed in `Reaction`. -/
theorem reaction_of_allOpen (hr : r.report = none) (hopen : r.AllOpen) (e : RunEvent) :
    Reaction r e (r.react e).1 (r.react e).2 := by
  cases e with
  | submit id now => exact reaction_submit hr id now
  | hear node info =>
    have hhear : r.hear node info = { r with nodes := r.nodes.hear node info } := by
      rw [hear, isSettled_eq_false hr, if_neg Bool.false_ne_true]
    change Reaction r (.hear node info) (r.hear node info) .nothing
    rw [hhear]
    exact .informed
  | observe id node a now => exact reaction_observe hr hopen id node a now
  | evaluate now => exact reaction_evaluate hr hopen now

/-! ### The invariant -/

/-- What every run satisfies. -/
structure Orderly (r : Run) : Prop where
  /-- Nothing is in flight that an answer has decided. -/
  allOpen : r.AllOpen
  /-- Every watch follows the nodes of the run. -/
  length_sightings : ∀ w ∈ r.watches.watches, w.sightings.length = r.nodes.size
  /-- So will the watches to come. -/
  nodeCount_eq : r.watches.nodeCount = r.nodes.size
  /-- A settled run watches nothing. -/
  watches_of_isSettled : r.isSettled = true → r.watches.watches = []

/-- There is a node, so every watch follows one. -/
theorem Orderly.sightings_ne_nil (h : r.Orderly) {w : Watch} (hw : w ∈ r.watches.watches) :
    w.sightings ≠ [] := by
  intro hnil
  have hlen := h.length_sightings w hw
  rw [hnil] at hlen
  exact r.nodes.nodes_ne_nil (List.eq_nil_of_length_eq_zero hlen.symm)

theorem orderly_start (nodes : NodeList) (target : UInt32) (deadlines : Deadlines) :
    (start nodes target deadlines).Orderly where
  allOpen := fun w hw => absurd hw (by simp [start])
  length_sightings := fun w hw => absurd hw (by simp [start])
  nodeCount_eq := rfl
  watches_of_isSettled := fun _ => rfl

theorem orderly_ended (hcount : r.watches.nodeCount = r.nodes.size) (v : Verdict)
    (d : Option Diagnosis) : (r.ended v d).Orderly where
  allOpen := fun w hw => absurd hw (by simp [ended, WatchTable.clear])
  length_sightings := fun w hw => absurd hw (by simp [ended, WatchTable.clear])
  nodeCount_eq := hcount
  watches_of_isSettled := fun _ => rfl

/-- An unsettled run has nothing to show for having settled. -/
theorem watches_of_report_eq_none {t : WatchTable} (hr : r.report = none) :
    r.isSettled = true → t.watches = [] := by
  rw [isSettled_eq_false hr]
  intro h
  cases h

section Kept

variable {r' : Run} {reply : RunReply} {id : CorrelationId} {w : Watch}

theorem Orderly.retire (h : r.Orderly) (hr : r.report = none) (hw : r.watches.get? id = some w) :
    (r.retire id).Orderly := by
  rw [retire_eq hw]
  refine ⟨fun v hv => ?_, fun v hv => ?_, h.nodeCount_eq, watches_of_report_eq_none hr⟩
  · exact h.allOpen v (WatchTable.mem_remove_iff.mp hv).1
  · exact h.length_sightings v (WatchTable.mem_remove_iff.mp hv).1

theorem Orderly.learn (h : r.Orderly) (hr : r.report = none) {node : Nat} {a : Answer}
    (hopen : (r.learn id node a).AllOpen) : (r.learn id node a).Orderly := by
  refine ⟨hopen, fun v hv => ?_, h.nodeCount_eq, watches_of_report_eq_none hr⟩
  rw [watches_learn id node a Moment.start] at hv
  obtain ⟨u, hu, rfl⟩ := List.mem_map.mp hv
  rw [length_told]
  exact h.length_sightings u hu

/-- **Invariant preservation.** -/
theorem Orderly.reaction (h : r.Orderly) (hr : r.report = none) (hreact : Reaction r e r' reply) :
    r'.Orderly := by
  cases hreact with
  | refused _ => exact h
  | @registered id now hwanted hnew =>
    -- the one new watch is fresh
    refine ⟨fun v hv => ?_, fun v hv => ?_, ?_, watches_of_report_eq_none hr⟩
    · rcases (WatchTable.mem_add_iff hnew now).mp hv with rfl | hv
      · exact Watch.isOpen_fresh _ _ _
      · exact h.allOpen v hv
    · rcases (WatchTable.mem_add_iff hnew now).mp hv with rfl | hv
      · exact List.length_replicate.trans h.nodeCount_eq
      · exact h.length_sightings v hv
    · exact (WatchTable.nodeCount_add _ _ _).trans h.nodeCount_eq
  | @informed node info =>
    have hsize : (r.nodes.hear node info).size = r.nodes.size := NodeList.size_hear _ _ _
    exact ⟨h.allOpen, fun v hv => (h.length_sightings v hv).trans hsize.symm,
      h.nodeCount_eq.trans hsize.symm, h.watches_of_isSettled⟩
  -- the reaction itself says that the watches stay open
  | noted hopen => exact h.learn hr hopen
  | retired hw _ _ _ => exact h.retire hr hw
  -- the others settle the run, and leave nothing in flight
  | completed hw _ _ _ => exact orderly_ended (h.retire hr hw).nodeCount_eq _ _
  | @forked id node a now w _ _ =>
    have hcount : (r.learn id node a).watches.nodeCount = (r.learn id node a).nodes.size :=
      h.nodeCount_eq
    exact orderly_ended hcount _ _
  | waited _ _ => exact h
  | failed _ _ _ => exact orderly_ended h.nodeCount_eq _ _
  | vacuous _ => exact orderly_ended h.nodeCount_eq _ _

theorem Orderly.react (h : r.Orderly) (e : RunEvent) : (r.react e).1.Orderly := by
  cases hr : r.report with
  | none => exact h.reaction hr (reaction_of_allOpen hr h.allOpen e)
  | some rep =>
    rw [react_of_isSettled (isSettled_eq_true hr)]
    exact h

theorem Orderly.after (h : r.Orderly) (es : List RunEvent) : (r.after es).Orderly := by
  induction es generalizing r with
  | nil => exact h
  | cons e es ih => exact ih (h.react e)

/-- Every run that a history leads to is orderly. -/
theorem orderly_after (nodes : NodeList) (target : UInt32) (deadlines : Deadlines)
    (es : List RunEvent) : ((start nodes target deadlines).after es).Orderly :=
  (orderly_start nodes target deadlines).after es

/-! ### What never changes -/

/-- What a run is to do is fixed when it starts. -/
structure SameTask (r r' : Run) : Prop where
  target : r'.target = r.target
  deadlines : r'.deadlines = r.deadlines
  urls : r'.nodes.urls = r.nodes.urls

theorem SameTask.refl (r : Run) : SameTask r r := ⟨rfl, rfl, rfl⟩

theorem SameTask.trans {r₁ r₂ r₃ : Run} (h₁ : SameTask r₁ r₂) (h₂ : SameTask r₂ r₃) :
    SameTask r₁ r₃ :=
  ⟨h₂.target.trans h₁.target, h₂.deadlines.trans h₁.deadlines, h₂.urls.trans h₁.urls⟩

theorem SameTask.size {r r' : Run} (h : SameTask r r') : r'.nodes.size = r.nodes.size := by
  have hlen := congrArg List.length h.urls
  simpa [NodeList.urls, NodeList.size] using hlen

theorem sameTask_retire (r : Run) (id : CorrelationId) : SameTask r (r.retire id) := by
  unfold Run.retire
  split <;> exact ⟨rfl, rfl, rfl⟩

theorem sameTask_reaction (hreact : Reaction r e r' reply) : SameTask r r' := by
  cases hreact with
  | informed => exact ⟨rfl, rfl, NodeList.urls_hear _ _ _⟩
  | @retired id => exact sameTask_retire r id
  | @completed id => exact (sameTask_retire r id).trans ⟨rfl, rfl, rfl⟩
  | _ => exact ⟨rfl, rfl, rfl⟩

theorem sameTask_after (h : r.Orderly) (es : List RunEvent) : SameTask r (r.after es) := by
  induction es generalizing r with
  | nil => exact .refl r
  | cons e es ih =>
    refine SameTask.trans ?_ (ih (h.react e))
    cases hr : r.report with
    | none => exact sameTask_reaction (reaction_of_allOpen hr h.allOpen e)
    | some rep =>
      rw [react_of_isSettled (isSettled_eq_true hr)]
      exact .refl r

/-! ### Where watches come from, and where they go -/

/-- A watch in flight was in flight before, and has been told the event; or it is the one that the
event has registered. -/
theorem origin_of_mem (hreact : Reaction r e r' reply) (hw : w ∈ r'.watches.watches) :
    (∃ u ∈ r.watches.watches, w = r.told e u) ∨
      ∃ now, e = .submit w.id now ∧ reply = .taken true ∧
        w = .fresh w.id now r.watches.nodeCount := by
  cases hreact with
  | refused _ => exact Or.inl ⟨w, hw, rfl⟩
  | @registered id now _ hnew =>
    rcases (WatchTable.mem_add_iff hnew now).mp hw with rfl | hw
    · exact Or.inr ⟨now, rfl, rfl, rfl⟩
    · exact Or.inl ⟨w, hw, rfl⟩
  | informed => exact Or.inl ⟨w, hw, rfl⟩
  | @noted id node a now _ =>
    rw [watches_learn id node a now] at hw
    obtain ⟨u, hu, rfl⟩ := List.mem_map.mp hw
    exact Or.inl ⟨u, hu, rfl⟩
  | @retired id node a now u hu _ _ _ =>
    -- what is left has other ids, and was told nothing
    rw [retire_eq hu] at hw
    obtain ⟨hw, hne⟩ := WatchTable.mem_remove_iff.mp hw
    exact Or.inl ⟨w, hw, by rw [told_observe, if_neg hne]⟩
  | waited _ _ => exact Or.inl ⟨w, hw, rfl⟩
  | completed _ _ _ _ => simp [ended, WatchTable.clear] at hw
  | forked _ _ => simp [ended, WatchTable.clear] at hw
  | failed _ _ _ => simp [ended, WatchTable.clear] at hw
  | vacuous _ => simp [ended, WatchTable.clear] at hw

/-- So it is for any run, since a settled one watches nothing. -/
theorem Orderly.origin (h : r.Orderly) (hw : w ∈ (r.react e).1.watches.watches) :
    (∃ u ∈ r.watches.watches, w = r.told e u) ∨
      ∃ now, e = .submit w.id now ∧ (r.react e).2 = .taken true ∧
        w = .fresh w.id now r.watches.nodeCount := by
  cases hr : r.report with
  | none => exact origin_of_mem (reaction_of_allOpen hr h.allOpen e) hw
  | some rep =>
    have hsettled := isSettled_eq_true hr
    rw [react_of_isSettled hsettled, h.watches_of_isSettled hsettled] at hw
    cases hw

/-- A watch that is told an event stays in flight, or is final without a fork and leaves, or the run
fails. -/
theorem fate_of_mem (hreact : Reaction r e r' reply) (hw : w ∈ r.watches.watches) :
    r.told e w ∈ r'.watches.watches ∨
      ((r.told e w).Agrees ∧ (r.told e w).isFinalized = true) ∨
      ∃ rep, r'.report = some rep ∧ rep.verdict ≠ .success := by
  cases hreact with
  | refused _ => exact Or.inl hw
  | @registered id now _ hnew => exact Or.inl ((WatchTable.mem_add_iff hnew now).mpr (Or.inr hw))
  | informed => exact Or.inl hw
  | @noted id node a now _ =>
    rw [watches_learn id node a now]
    exact Or.inl (List.mem_map_of_mem hw)
  | @retired id node a now u hu hagrees hfinal _ =>
    by_cases hid : w.id = id
    · -- the watch of the answer is the one that leaves
      rw [← WatchTable.eq_of_get? hu hw hid] at hagrees hfinal
      exact Or.inr (Or.inl ⟨hagrees, hfinal⟩)
    · rw [told_observe, if_neg hid, retire_eq hu]
      exact Or.inl (WatchTable.mem_remove_iff.mpr ⟨hw, hid⟩)
  | @completed id node a now u hu hagrees hfinal hdone =>
    -- nothing else was in flight
    have hid : w.id = id := by
      by_contra hid
      have hmem : w ∈ (r.retire id).watches.watches := by
        rw [retire_eq hu]
        exact WatchTable.mem_remove_iff.mpr ⟨hw, hid⟩
      rw [hdone.2] at hmem
      cases hmem
    rw [← WatchTable.eq_of_get? hu hw hid] at hagrees hfinal
    exact Or.inr (Or.inl ⟨hagrees, hfinal⟩)
  | forked _ _ => exact Or.inr (Or.inr ⟨_, rfl, by simp⟩)
  | waited _ _ => exact Or.inl hw
  | @failed now u v hu hfail _ =>
    -- the watch that fails may be another one, but the run is over for both
    refine Or.inr (Or.inr ⟨_, rfl, ?_⟩)
    rintro rfl
    exact Deadlines.assess_ne_failed_success _ _ _ hfail
  | vacuous hdone =>
    -- a complete run has no watch that could be told anything
    rw [hdone.2] at hw
    cases hw

end Kept

/-- Along a history `es`, the run settles with a report on the event `e` that follows `before`. -/
structure SettlesAt (r : Run) (es before : List RunEvent) (e : RunEvent) (rep : RunReport) :
    Prop where
  split : ∃ later, es = before ++ e :: later
  unsettled : (r.after before).report = none
  settles : ((r.after before).react e).1.report = some rep

/-- A run that has settled did so at one event of its history. -/
theorem exists_settlesAt {rep : RunReport} (hr : r.report = none) {es : List RunEvent}
    (hrep : (r.after es).report = some rep) : ∃ before e, r.SettlesAt es before e rep := by
  induction es using List.reverseRecOn with
  | nil =>
    rw [after_nil, hr] at hrep
    cases hrep
  | append_singleton es e ih =>
    rw [after_concat] at hrep
    cases hbefore : (r.after es).report with
    | none => exact ⟨es, e, ⟨[], rfl⟩, hbefore, hrep⟩
    | some rep' =>
      -- it had settled before, and has not reacted
      rw [react_of_isSettled (isSettled_eq_true hbefore)] at hrep
      obtain ⟨before, e', ⟨later, rfl⟩, hnone, hsome⟩ := ih hrep
      exact ⟨before, e', ⟨later ++ [e], by simp⟩, hnone, hsome⟩

/-- A watch in flight was registered along the history, at the moment that its age counts from. -/
theorem exists_registration (nodes : NodeList) (target : UInt32) (deadlines : Deadlines)
    {es : List RunEvent} {w : Watch}
    (hw : w ∈ ((start nodes target deadlines).after es).watches.watches) :
    ∃ past since, es = past ++ .submit w.id w.submittedAt :: since ∧
      (((start nodes target deadlines).after past).react (.submit w.id w.submittedAt)).2
        = .taken true := by
  induction es using List.reverseRecOn generalizing w with
  | nil => simp [start] at hw
  | append_singleton es e ih =>
    rw [after_concat] at hw
    rcases (orderly_after nodes target deadlines es).origin hw with
      ⟨u, hu, rfl⟩ | ⟨now, rfl, htaken, hfresh⟩
    · -- a watch that was in flight before was registered before
      obtain ⟨past, since, rfl, htaken⟩ := ih hu
      rw [told_id, told_submittedAt]
      exact ⟨past, since ++ [e], by simp, htaken⟩
    · -- the event itself has registered the watch
      have htime : w.submittedAt = now := by
        rw [hfresh]
        rfl
      rw [htime]
      exact ⟨es, [], rfl, htaken⟩

end Run

end ChainWatch
