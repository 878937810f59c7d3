import ChainWatch.Proofs.Run.Balance
import ChainWatch.Proofs.Run.Settlement

/-!
# Every watch by itself

The watches of a run share its counters, the test for completeness and the one report. Answers
about different transactions nevertheless do not get in each other's way: what they lead to can be
found watch by watch, and put together afterwards.

* `Delivery` — an answer as it comes, and `Run.deliver`, the run after some deliveries and nothing
  else;
* `Run.course` — what some deliveries make of one watch, up to the first that decides it;
* `Run.Outcome` — what the courses of the watches in flight make of the run: it has failed with a
  fork if one of them shows a fork; it has succeeded if all of them have become final, and there was
  something in flight and nothing left to submit; and else it has exactly the watches in flight
  whose courses end in flight.

`outcome_deliver` says that the run after some deliveries is as its courses make it. A run that
succeeds early cannot drop a delivery that would have shown a fork: before it succeeds every watch
must have become final, and a watch that takes a fork's course never does.

So two lists of deliveries with the same courses lead to the same run (`deliver_congr`). The counter
of final transactions needs no argument of its own: it is fixed by the others
(`Run.Balance`).
-/

namespace ChainWatch

/-- An answer of a node about a transaction, as it reaches a run. -/
structure Delivery where
  id : CorrelationId
  node : Nat
  answer : Answer
  now : Moment
deriving DecidableEq

/-- A delivery as an event. -/
def Delivery.event (d : Delivery) : RunEvent := .observe d.id d.node d.answer d.now

/-- What becomes of a watch. -/
inductive Course where
  /-- Two nodes have given different blocks. -/
  | forked
  /-- Every node accepts it, in blocks of one id. -/
  | final
  /-- Nothing is decided yet. -/
  | inFlight (w : Watch)

namespace Watch

/-- What is decided about a watch as it stands. -/
def standing (w : Watch) : Course :=
  if w.fork?.isSome then .forked else if w.isFinalized then .final else .inFlight w

variable {w : Watch}

theorem standing_of_not_agrees (h : ¬ w.Agrees) : w.standing = .forked := by
  rw [standing, if_pos (fork?_isSome_iff.mpr h)]

theorem not_fork?_isSome (h : w.Agrees) : ¬ w.fork?.isSome = true := by
  rw [fork?_isSome_iff]
  exact not_not_intro h

theorem standing_of_isFinalized (hagrees : w.Agrees) (hfinal : w.isFinalized = true) :
    w.standing = .final := by
  rw [standing, if_neg (not_fork?_isSome hagrees), if_pos hfinal]

theorem standing_of_isOpen (h : w.IsOpen) : w.standing = .inFlight w := by
  have hfinal : ¬ w.isFinalized = true := by
    rw [h.not_final]
    exact Bool.false_ne_true
  rw [standing, if_neg (not_fork?_isSome h.agrees), if_neg hfinal]

/-- A watch is forked, or final without a fork, or open. -/
theorem standing_cases (w : Watch) :
    ¬ w.Agrees ∨ w.Agrees ∧ w.isFinalized = true ∨ w.IsOpen := by
  by_cases hagrees : w.Agrees
  · by_cases hfinal : w.isFinalized = true
    · exact Or.inr (Or.inl ⟨hagrees, hfinal⟩)
    · exact Or.inr (Or.inr ⟨hagrees, Bool.eq_false_iff.mpr hfinal⟩)
  · exact Or.inl hagrees

end Watch

namespace Run

/-- The run after some deliveries. -/
def deliver (r : Run) (ds : List Delivery) : Run := r.after (ds.map Delivery.event)

/-- What some deliveries make of a watch. The first that decides it is the last that counts. -/
def course (r : Run) : List Delivery → Watch → Course
  | [], w => .inFlight w
  | d :: ds, w =>
    match (r.told d.event w).standing with
    | .inFlight v => course r ds v
    | decided => decided

section Courses

variable {r r' : Run} {d : Delivery} {ds : List Delivery} {w : Watch}

@[simp] theorem deliver_nil : r.deliver [] = r := rfl

@[simp] theorem deliver_cons : r.deliver (d :: ds) = (r.react d.event).1.deliver ds := rfl

@[simp] theorem course_nil : r.course [] w = .inFlight w := rfl

/-! ### One delivery -/

theorem told_of_ne (h : w.id ≠ d.id) : r.told d.event w = w := by
  rw [Delivery.event, told_observe, if_neg h]

theorem course_cons_of_not_agrees (h : ¬ (r.told d.event w).Agrees) :
    r.course (d :: ds) w = .forked := by
  rw [course, Watch.standing_of_not_agrees h]

theorem course_cons_of_isFinalized (hagrees : (r.told d.event w).Agrees)
    (hfinal : (r.told d.event w).isFinalized = true) : r.course (d :: ds) w = .final := by
  rw [course, Watch.standing_of_isFinalized hagrees hfinal]

theorem course_cons_of_isOpen (h : (r.told d.event w).IsOpen) :
    r.course (d :: ds) w = r.course ds (r.told d.event w) := by
  rw [course, Watch.standing_of_isOpen h]

/-- A delivery about another transaction is no part of the course. -/
theorem course_cons_of_ne (hw : w.IsOpen) (h : w.id ≠ d.id) :
    r.course (d :: ds) w = r.course ds w := by
  have htold := told_of_ne (r := r) h
  rw [course_cons_of_isOpen (by rw [htold]; exact hw), htold]

/-- Of the run, a course needs only the nodes. -/
theorem course_of_nodes_eq (h : r'.nodes = r.nodes) (ds : List Delivery) (w : Watch) :
    r'.course ds w = r.course ds w := by
  -- what a watch is told depends on the frontiers alone
  have htold : ∀ d : Delivery, r'.told d.event = r.told d.event := by
    intro d
    funext w
    rw [Delivery.event, told_observe, told_observe, h]
  induction ds generalizing w with
  | nil => rfl
  | cons d ds ih => simp only [course, htold, ih]

/-- A course is that of the deliveries about its transaction. -/
theorem course_filter (hw : w.IsOpen) (ds : List Delivery) :
    r.course (ds.filter fun d => d.id = w.id) w = r.course ds w := by
  induction ds generalizing w with
  | nil => rfl
  | cons d ds ih =>
    by_cases hid : w.id = d.id
    · -- a delivery about it decides on both sides or on neither
      rw [List.filter_cons_of_pos (by simpa using hid.symm)]
      rcases (r.told d.event w).standing_cases with hfork | ⟨hagrees, hfinal⟩ | hopen
      · rw [course_cons_of_not_agrees hfork, course_cons_of_not_agrees hfork]
      · rw [course_cons_of_isFinalized hagrees hfinal, course_cons_of_isFinalized hagrees hfinal]
      · have hrest := ih hopen
        rw [told_id] at hrest
        rw [course_cons_of_isOpen hopen, course_cons_of_isOpen hopen, hrest]
    · rw [List.filter_cons_of_neg (by simpa using fun h => hid h.symm), course_cons_of_ne hw hid]
      exact ih hw

end Courses

/-! ### What the courses make of a run -/

/-- A watch in flight takes this course. -/
def HasCourse (r : Run) (ds : List Delivery) (c : Course) : Prop :=
  ∃ w ∈ r.watches.watches, r.course ds w = c

/-- Everything was submitted, and all that is in flight becomes final. -/
def BecomesComplete (r : Run) (ds : List Delivery) : Prop :=
  r.target ≤ r.submitted ∧ r.watches.watches ≠ [] ∧ ∀ c, r.HasCourse ds c → c = .final

/-- The run `r'` is what the courses of the watches of `r` make of it. -/
structure Outcome (r : Run) (ds : List Delivery) (r' : Run) : Prop where
  forked : r.HasCourse ds .forked → r'.verdict? = some .forked
  completed : r.BecomesComplete ds → ∃ q : Run, r' = q.ended .success none
  running : ¬ r.HasCourse ds .forked → ¬ r.BecomesComplete ds →
    r'.report = none ∧ ∀ v, v ∈ r'.watches.watches ↔ r.HasCourse ds (.inFlight v)

section Outcomes

variable {r r' : Run} {d : Delivery} {ds : List Delivery}

theorem outcome_nil (hr : r.report = none) : r.Outcome [] r where
  forked := by
    rintro ⟨w, -, hw⟩
    cases hw
  completed := by
    rintro ⟨-, hne, hall⟩
    obtain ⟨w, hw⟩ := List.exists_mem_of_ne_nil _ hne
    cases hall (.inFlight w) ⟨w, hw, rfl⟩
  running := by
    intro _ _
    refine ⟨hr, fun v => ⟨fun hv => ⟨v, hv, rfl⟩, ?_⟩⟩
    rintro ⟨w, hw, heq⟩
    rw [course_nil, Course.inFlight.injEq] at heq
    exact heq ▸ hw

/-- If a delivery leaves the courses of the others as they were, then so is the outcome. -/
theorem Outcome.cons {r₁ : Run} (h : r₁.Outcome ds r')
    (hcourse : ∀ c, c ≠ .final → (r.HasCourse (d :: ds) c ↔ r₁.HasCourse ds c))
    (hcomplete : r.BecomesComplete (d :: ds) ↔ r₁.BecomesComplete ds) : r.Outcome (d :: ds) r' where
  forked := fun hfork => h.forked ((hcourse _ (by simp)).mp hfork)
  completed := fun hdone => h.completed (hcomplete.mp hdone)
  running := by
    rw [hcomplete, hcourse _ (by simp)]
    intro hfork hdone
    obtain ⟨hr, hmem⟩ := h.running hfork hdone
    exact ⟨hr, fun v => (hmem v).trans (hcourse _ (by simp)).symm⟩

/-- The deliveries that follow one that decides nothing. -/
theorem outcome_cons_of_noted (hopen : (r.learn d.id d.node d.answer).AllOpen)
    (h : (r.learn d.id d.node d.answer).Outcome ds r') : r.Outcome (d :: ds) r' := by
  have hnodes : (r.learn d.id d.node d.answer).nodes = r.nodes := rfl
  -- every watch goes on as it was told
  have hcourse : ∀ c, r.HasCourse (d :: ds) c ↔ (r.learn d.id d.node d.answer).HasCourse ds c := by
    intro c
    have hstep : ∀ w ∈ r.watches.watches, r.course (d :: ds) w
        = (r.learn d.id d.node d.answer).course ds (r.told d.event w) := by
      intro w hw
      rw [course_cons_of_isOpen (hopen _ (List.mem_map_of_mem hw)), course_of_nodes_eq hnodes]
    constructor
    · rintro ⟨w, hw, rfl⟩
      exact ⟨r.told d.event w, List.mem_map_of_mem hw, (hstep w hw).symm⟩
    · rintro ⟨v, hv, rfl⟩
      obtain ⟨w, hw, rfl⟩ := List.mem_map.mp hv
      exact ⟨w, hw, hstep w hw⟩
  refine h.cons (fun c _ => hcourse c) ?_
  have hne : (r.learn d.id d.node d.answer).watches.watches ≠ [] ↔ r.watches.watches ≠ [] := by
    rw [watches_learn d.id d.node d.answer d.now, ne_eq, List.map_eq_nil_iff]
  simp only [BecomesComplete, hcourse, hne]
  rfl

/-- The deliveries that follow one that makes a watch final, if there is more to do. -/
theorem outcome_cons_of_retired (hallOpen : r.AllOpen) {w : Watch}
    (hw : r.watches.get? d.id = some w) (hagrees : (r.told d.event w).Agrees)
    (hfinal : (r.told d.event w).isFinalized = true) (hmore : ¬ (r.retire d.id).IsComplete)
    (h : (r.retire d.id).Outcome ds r') : r.Outcome (d :: ds) r' := by
  have hwatches : ∀ v,
      v ∈ (r.retire d.id).watches.watches ↔ v ∈ r.watches.watches ∧ v.id ≠ d.id := by
    intro v
    rw [retire_eq hw]
    exact WatchTable.mem_remove_iff
  have hnodes : (r.retire d.id).nodes = r.nodes := by rw [retire_eq hw]
  -- the others have nothing to do with the delivery
  have hstep : ∀ v ∈ (r.retire d.id).watches.watches,
      r.course (d :: ds) v = (r.retire d.id).course ds v := by
    intro v hv
    obtain ⟨hmem, hne⟩ := (hwatches v).mp hv
    rw [course_cons_of_ne (hallOpen v hmem) hne, course_of_nodes_eq hnodes]
  -- and the one that is gone has become final
  have hretired : ∀ v ∈ r.watches.watches, v.id = d.id → r.course (d :: ds) v = .final := by
    intro v hv hid
    rw [WatchTable.eq_of_get? hw hv hid]
    exact course_cons_of_isFinalized hagrees hfinal
  have hcourse : ∀ c, c ≠ .final →
      (r.HasCourse (d :: ds) c ↔ (r.retire d.id).HasCourse ds c) := by
    intro c hc
    constructor
    · rintro ⟨v, hv, rfl⟩
      have hid : v.id ≠ d.id := fun hid => hc (hretired v hv hid)
      have hmem := (hwatches v).mpr ⟨hv, hid⟩
      exact ⟨v, hmem, (hstep v hmem).symm⟩
    · rintro ⟨v, hv, rfl⟩
      exact ⟨v, ((hwatches v).mp hv).1, hstep v hv⟩
  refine h.cons hcourse ?_
  -- what is left to submit has not changed, and there is still a watch in flight
  have htarget : (r.retire d.id).target = r.target := by rw [retire_eq hw]
  have hsubmitted : (r.retire d.id).submitted = r.submitted := by rw [retire_eq hw]
  constructor
  · rintro ⟨hall, -, hcourses⟩
    rw [← htarget, ← hsubmitted] at hall
    refine ⟨hall, fun hnil => hmore ⟨hall, hnil⟩, fun c hc => ?_⟩
    by_contra hne
    exact hne (hcourses c ((hcourse c hne).mpr hc))
  · rintro ⟨hall, -, hcourses⟩
    rw [htarget, hsubmitted] at hall
    refine ⟨hall, List.ne_nil_of_mem (WatchTable.get?_eq_some_iff.mp hw).1, fun c hc => ?_⟩
    by_contra hne
    exact hne (hcourses c ((hcourse c hne).mp hc))

/-- The deliveries that follow one that settles the run with a success. -/
theorem outcome_of_complete {q : Run} (hdone : r.BecomesComplete ds) :
    r.Outcome ds (q.ended .success none) where
  forked := fun hfork => by cases hdone.2.2 _ hfork
  completed := fun _ => ⟨q, rfl⟩
  running := fun _ hnot => absurd hdone hnot

/-- The deliveries that follow one that settles the run with a fork. -/
theorem outcome_of_forked (hfork : r.HasCourse ds .forked) (hv : r'.verdict? = some .forked) :
    r.Outcome ds r' where
  forked := fun _ => hv
  completed := fun hdone => by cases hdone.2.2 _ hfork
  running := fun hnot => absurd hfork hnot

/-- **Watch by watch.** A run after some deliveries is as the courses of its watches make it. -/
theorem outcome_deliver (h : r.Orderly) (hr : r.report = none) (ds : List Delivery) :
    r.Outcome ds (r.deliver ds) := by
  induction ds generalizing r with
  | nil => exact outcome_nil hr
  | cons d ds ih =>
    -- the first delivery does one of four things, and the rest follows from the run after it
    have horderly := h.react d.event
    have hreact := reaction_of_allOpen hr h.allOpen d.event
    rw [deliver_cons]
    generalize (r.react d.event).1 = r₁, (r.react d.event).2 = reply at hreact horderly
    unfold Delivery.event at hreact
    cases hreact with
    | noted hopen => exact outcome_cons_of_noted hopen (ih horderly hr)
    | retired hw hagrees hfinal hmore =>
      have hretire : (r.retire d.id).report = none := by
        rw [retire_eq hw]
        exact hr
      exact outcome_cons_of_retired h.allOpen hw hagrees hfinal hmore (ih horderly hretire)
    | @completed _ _ _ _ w hw hagrees hfinal hdone =>
      rw [deliver, after_of_isSettled rfl]
      obtain ⟨hall, hempty⟩ := hdone
      rw [retire_eq hw] at hall hempty
      refine outcome_of_complete ⟨hall, ?_, ?_⟩
      · exact List.ne_nil_of_mem (WatchTable.get?_eq_some_iff.mp hw).1
      · rintro c ⟨v, hv, rfl⟩
        -- nothing but the watch of the delivery was in flight
        have hid : v.id = d.id := by
          by_contra hid
          have hmem := WatchTable.mem_remove_iff.mpr ⟨hv, hid⟩
          rw [hempty] at hmem
          cases hmem
        rw [WatchTable.eq_of_get? hw hv hid]
        exact course_cons_of_isFinalized hagrees hfinal
    | @forked _ _ _ _ w hw hfork =>
      rw [deliver, after_of_isSettled rfl]
      refine outcome_of_forked ⟨w, (WatchTable.get?_eq_some_iff.mp hw).1, ?_⟩ rfl
      exact course_cons_of_not_agrees hfork

end Outcomes

/-! ### Runs with the same courses -/

/-- What deliveries leave as it is. -/
structure SameFrame (r r' : Run) : Prop where
  nodes : r'.nodes = r.nodes
  deadlines : r'.deadlines = r.deadlines
  target : r'.target = r.target
  submitted : r'.submitted = r.submitted
  nodeCount : r'.watches.nodeCount = r.watches.nodeCount

section Congruence

variable {r r' p q : Run} {n m : Nat} {ds ds' : List Delivery}

theorem SameFrame.refl (r : Run) : SameFrame r r := ⟨rfl, rfl, rfl, rfl, rfl⟩

theorem SameFrame.trans (h : SameFrame r p) (h' : SameFrame p q) : SameFrame r q :=
  ⟨h'.nodes.trans h.nodes, h'.deadlines.trans h.deadlines, h'.target.trans h.target,
    h'.submitted.trans h.submitted, h'.nodeCount.trans h.nodeCount⟩

theorem SameFrame.symm (h : SameFrame r p) : SameFrame p r :=
  ⟨h.nodes.symm, h.deadlines.symm, h.target.symm, h.submitted.symm, h.nodeCount.symm⟩

/-- What a frame leaves open are the watches, the counter of final transactions and the report. -/
theorem SameFrame.eq (h : SameFrame p q) (hwatches : p.watches = q.watches)
    (hfinalized : p.finalized = q.finalized) (hreport : p.report = q.report) : p = q := by
  -- field by field
  obtain ⟨⟩ := p
  obtain ⟨⟩ := q
  obtain ⟨rfl, rfl, rfl, rfl, -⟩ := h
  cases hwatches
  cases hfinalized
  cases hreport
  rfl

theorem sameFrame_retire {id : CorrelationId} {w : Watch} (hw : r.watches.get? id = some w) :
    SameFrame r (r.retire id) := by
  rw [retire_eq hw]
  exact ⟨rfl, rfl, rfl, rfl, rfl⟩

theorem sameFrame_ended (r : Run) (v : Verdict) (d : Option Diagnosis) :
    SameFrame r (r.ended v d) := ⟨rfl, rfl, rfl, rfl, rfl⟩

theorem sameFrame_react (h : r.Orderly) (d : Delivery) : SameFrame r (r.react d.event).1 := by
  cases hr : r.report with
  | some rep =>
    rw [react_of_isSettled (isSettled_eq_true hr)]
    exact .refl r
  | none =>
    have hreact := reaction_of_allOpen hr h.allOpen d.event
    generalize (r.react d.event).1 = r', (r.react d.event).2 = reply at hreact ⊢
    unfold Delivery.event at hreact
    -- to learn changes the watches only
    have hlearn : SameFrame r (r.learn d.id d.node d.answer) := ⟨rfl, rfl, rfl, rfl, rfl⟩
    cases hreact with
    | noted _ => exact hlearn
    | retired hw _ _ _ => exact sameFrame_retire hw
    | completed hw _ _ _ => exact (sameFrame_retire hw).trans (sameFrame_ended _ _ _)
    | forked _ _ => exact hlearn.trans (sameFrame_ended _ _ _)

theorem sameFrame_deliver (h : r.Orderly) (ds : List Delivery) : SameFrame r (r.deliver ds) := by
  induction ds generalizing r with
  | nil => exact .refl r
  | cons d ds ih => exact (sameFrame_react h d).trans (ih (h.react d.event))

/-- No delivery is the submission of a transaction. -/
theorem Balance.deliver (hb : r.Balance n) (h : r.Orderly) (ds : List Delivery) :
    (r.deliver ds).Balance n := by
  induction ds generalizing r with
  | nil => exact hb
  | cons d ds ih =>
    refine ih ?_ (h.react d.event)
    cases hr : r.report with
    | none => exact hb.reaction hr (reaction_of_allOpen hr h.allOpen d.event)
    | some rep =>
      rw [react_of_isSettled (isSettled_eq_true hr)]
      exact hb

/-- Runs that go on and watch the same are equal: the balance fixes the counter that is left. -/
theorem eq_of_running (hframe : SameFrame p q) (hp : p.Balance n) (hq : q.Balance n)
    (hpr : p.report = none) (hqr : q.report = none)
    (hmem : ∀ w, w ∈ p.watches.watches ↔ w ∈ q.watches.watches) : p = q := by
  have hwatches : p.watches = q.watches := WatchTable.ext_mem hframe.nodeCount.symm hmem
  -- finalized plus in flight is submitted on both sides
  have hpcount := hp.running hpr
  have hqcount := hq.running hqr
  rw [hframe.submitted, ← hwatches] at hqcount
  exact hframe.eq hwatches (UInt32.toNat_inj.mp (by omega)) (hpr.trans hqr.symm)

/-- The counter of final transactions of a run that has succeeded is the one of its submissions. -/
theorem Balance.finalized_eq (h : (p.ended .success none).Balance n) :
    p.watches.size = 0 ∧ p.finalized = p.submitted := by
  have hsnapshot := h.settled _ rfl
  obtain ⟨-, hnone⟩ := hsnapshot.success rfl
  -- nothing is in flight any more, so all that was submitted is final
  have hcount : p.submitted.toNat = p.finalized.toNat + p.watches.size := hsnapshot.balance
  have hsize : p.watches.size = 0 := hnone
  exact ⟨hsize, UInt32.toNat_inj.mp (by omega)⟩

/-- Runs that have succeeded at the same task are equal: everything is counted in their reports. -/
theorem eq_of_succeeded (hframe : SameFrame (p.ended .success none) (q.ended .success none))
    (hp : (p.ended .success none).Balance n) (hq : (q.ended .success none).Balance n) :
    p.ended .success none = q.ended .success none := by
  obtain ⟨hpsize, hpfinal⟩ := hp.finalized_eq
  obtain ⟨hqsize, hqfinal⟩ := hq.finalized_eq
  have hsubmitted : q.submitted = p.submitted := hframe.submitted
  have htarget : q.target = p.target := hframe.target
  have hfinalized : p.finalized = q.finalized := by rw [hpfinal, hqfinal, hsubmitted]
  -- the reports differ in nothing, for the progress consists of these counters
  have hprogress : p.progress = q.progress := by
    simp only [progress, htarget, hsubmitted, hfinalized, hpsize, hqsize]
  have hwatches : p.watches.clear = q.watches.clear :=
    WatchTable.ext_watches hframe.nodeCount.symm rfl
  refine hframe.eq hwatches hfinalized ?_
  change some (RunReport.mk .success none p.progress) = some (RunReport.mk .success none q.progress)
  rw [hprogress]

/-- **Two lists of deliveries with the same courses** lead to the same verdict, and unless that is a
fork, to the same run. -/
theorem deliver_congr (h : r.Orderly) (hb : r.Balance n) (hr : r.report = none)
    (hsame : ∀ w ∈ r.watches.watches, r.course ds w = r.course ds' w) :
    (r.deliver ds).verdict? = (r.deliver ds').verdict? ∧
      ((r.deliver ds).verdict? ≠ some .forked → r.deliver ds = r.deliver ds') := by
  have hout := outcome_deliver h hr ds
  have hout' := outcome_deliver h hr ds'
  have hcourse : ∀ c, r.HasCourse ds c ↔ r.HasCourse ds' c := by
    intro c
    refine exists_congr fun w => and_congr_right fun hw => ?_
    rw [hsame w hw]
  have hcomplete : r.BecomesComplete ds ↔ r.BecomesComplete ds' := by
    simp only [BecomesComplete, hcourse]
  -- deliveries change neither the frame nor the balance
  have hframe : SameFrame (r.deliver ds) (r.deliver ds') :=
    (sameFrame_deliver h ds).symm.trans (sameFrame_deliver h ds')
  have hbalance := hb.deliver h ds
  have hbalance' := hb.deliver h ds'
  by_cases hfork : r.HasCourse ds .forked
  · -- both have failed with a fork, though it may be another one
    have hv := hout.forked hfork
    exact ⟨hv.trans (hout'.forked ((hcourse _).mp hfork)).symm, fun hne => absurd hv hne⟩
  · have heq : r.deliver ds = r.deliver ds' := by
      by_cases hdone : r.BecomesComplete ds
      · obtain ⟨p, hp⟩ := hout.completed hdone
        obtain ⟨q, hq⟩ := hout'.completed (hcomplete.mp hdone)
        rw [hp] at hframe hbalance ⊢
        rw [hq] at hframe hbalance' ⊢
        exact eq_of_succeeded hframe hbalance hbalance'
      · obtain ⟨hnone, hmem⟩ := hout.running hfork hdone
        obtain ⟨hnone', hmem'⟩ := hout'.running (mt (hcourse _).mpr hfork) (mt hcomplete.mpr hdone)
        refine eq_of_running hframe hbalance hbalance' hnone hnone' fun v => ?_
        rw [hmem, hmem', hcourse]
    exact ⟨congrArg verdict? heq, fun _ => heq⟩

end Congruence

end Run

end ChainWatch
