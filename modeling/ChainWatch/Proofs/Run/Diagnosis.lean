import ChainWatch.Proofs.Run.Reaction
import Mathlib.Data.List.Zip

/-!
# A failure is justified by its diagnosis

The report of a failed run carries a `Diagnosis`. This file says that it is true, and that it shows
why the run failed:

* `Diagnosis.Describes` — it has one entry for each node, in the order of the nodes, and tells of
  the watch and of the nodes what they held when the run settled;
* `Diagnosis.Justifies` — the entries and the age of the watch satisfy the rule of the verdict.

Both are said of the entries themselves, without the tests that the run makes.
`failure_justified` states them for every history that ends in a failure. The watch is one that was
in flight when the event came that settled the run, with that event's answer applied (`Run.told`),
and its age counts from the event that registered it.

A run settles in two ways, on an answer or on a judgement, and these are the constructors of
`Run.Reaction` that end it. On an answer only a fork is told. A judgement meets open watches alone,
so the rules of age come with what openness says: the nodes agree, and one of them does not accept.
-/

namespace ChainWatch

/-! ### What a diagnosis tells -/

namespace Diagnosis

/-- What a node and the sighting on it amount to in a diagnosis. -/
def entry (n : Node) (s : Sighting) : NodeReport where
  url := n.url
  status := s.status
  everLocated := s.everLocated
  accepted := s.accepted
  irreversible := n.irreversible

/-- A diagnosis tells what a watch and the nodes hold at a moment. -/
structure Describes (d : Diagnosis) (w : Watch) (nodes : NodeList) (now : Moment) : Prop where
  correlationId : d.correlationId = w.id
  /-- The age is in whole seconds, and none if the watch was submitted later. -/
  ageSecs : d.ageSecs.toNat = (now.nanos - w.submittedAt.nanos) / 1000000000
  /-- The watch follows exactly these nodes. -/
  followed : w.sightings.length = nodes.size
  /-- There is one entry for each node, in the order of the nodes. -/
  entries : d.nodes = List.zipWith entry nodes.nodes w.sightings

/-- Two entries tell of different blocks. -/
def IsForked (d : Diagnosis) : Prop :=
  ∃ e₁ ∈ d.nodes, ∃ e₂ ∈ d.nodes, ∃ b₁ b₂,
    e₁.status = .located b₁ ∧ e₂.status = .located b₂ ∧ b₁.id ≠ b₂.id

/-- What the entries and the age must show for a verdict. -/
def Justifies (d : Diagnosis) (deadlines : Deadlines) (age : Span) : Verdict → Prop
  | .success => False
  | .forked => d.IsForked
  | .timedOut => deadlines.hard < age ∧ ¬ d.IsForked ∧ ∃ e ∈ d.nodes, e.accepted = false
  | .rolledBack =>
    deadlines.soft < age ∧ age ≤ deadlines.hard ∧
      (∀ e ∈ d.nodes, e.status = .rejected) ∧ ∃ e ∈ d.nodes, e.everLocated = true
  | .neverPacked =>
    deadlines.soft < age ∧ age ≤ deadlines.hard ∧
      (∀ e ∈ d.nodes, e.everLocated = false) ∧
        ∀ e ∈ d.nodes, e.status = .unknown ∨ e.status = .rejected

namespace Describes

variable {d : Diagnosis} {w : Watch} {nodes : NodeList} {now : Moment}

/-- Every entry tells of a sighting. -/
theorem exists_sighting (h : d.Describes w nodes now) {e : NodeReport} (he : e ∈ d.nodes) :
    ∃ n, ∃ s ∈ w.sightings, e = entry n s := by
  rw [h.entries] at he
  obtain ⟨i, hi⟩ := List.mem_iff_getElem?.mp he
  obtain ⟨n, s, -, hs, rfl⟩ := List.getElem?_zipWith_eq_some.mp hi
  exact ⟨n, s, List.mem_of_getElem? hs, rfl⟩

/-- Every sighting is told of by an entry. -/
theorem exists_entry (h : d.Describes w nodes now) {s : Sighting} (hs : s ∈ w.sightings) :
    ∃ n, entry n s ∈ d.nodes := by
  obtain ⟨i, hi⟩ := List.mem_iff_getElem?.mp hs
  -- there is a node at the position of the sighting, since the lists are equally long
  have hlt : i < nodes.nodes.length := by
    have hlen : w.sightings.length = nodes.nodes.length := h.followed
    rw [← hlen]
    exact (List.getElem?_eq_some_iff.mp hi).1
  refine ⟨nodes.nodes[i], ?_⟩
  rw [h.entries]
  refine List.mem_of_getElem? (i := i) ?_
  exact List.getElem?_zipWith_eq_some.mpr ⟨_, s, List.getElem?_eq_getElem hlt, hi, rfl⟩

/-- The entries are those of the nodes in their order. -/
theorem urls (h : d.Describes w nodes now) : d.nodes.map NodeReport.url = nodes.urls := by
  have hlen : nodes.nodes.length ≤ w.sightings.length := Nat.le_of_eq h.followed.symm
  rw [h.entries, List.map_zipWith]
  change List.zipWith (fun n _ => n.url) nodes.nodes w.sightings = nodes.nodes.map Node.url
  -- the sightings are forgotten, and none of the nodes is cut off
  rw [← List.map_uncurry_zip_eq_zipWith]
  change (nodes.nodes.zip w.sightings).map (Node.url ∘ Prod.fst) = _
  rw [← List.map_map, List.map_fst_zip hlen]

/-- The entries disagree exactly if the nodes do. -/
theorem isForked_iff (h : d.Describes w nodes now) : d.IsForked ↔ ¬ w.Agrees := by
  constructor
  · rintro ⟨e₁, he₁, e₂, he₂, b₁, b₂, hb₁, hb₂, hne⟩ hagrees
    -- the two entries come from two sightings, whose blocks agree
    obtain ⟨n₁, s₁, hs₁, rfl⟩ := h.exists_sighting he₁
    obtain ⟨n₂, s₂, hs₂, rfl⟩ := h.exists_sighting he₂
    exact hne (hagrees b₁ b₂ (List.mem_map.mpr ⟨s₁, hs₁, hb₁⟩) (List.mem_map.mpr ⟨s₂, hs₂, hb₂⟩))
  · intro hnot
    unfold Watch.Agrees at hnot
    push Not at hnot
    obtain ⟨b₁, b₂, hb₁, hb₂, hne⟩ := hnot
    obtain ⟨s₁, hs₁, hstatus₁⟩ := List.mem_map.mp hb₁
    obtain ⟨s₂, hs₂, hstatus₂⟩ := List.mem_map.mp hb₂
    obtain ⟨n₁, he₁⟩ := h.exists_entry hs₁
    obtain ⟨n₂, he₂⟩ := h.exists_entry hs₂
    exact ⟨_, he₁, _, he₂, b₁, b₂, hstatus₁, hstatus₂, hne⟩

/-- The rules of age, read on the entries: an open watch that fails is justified. -/
theorem justifies_of_failure (h : d.Describes w nodes now) (hopen : w.IsOpen)
    (hne : w.sightings ≠ []) {deadlines : Deadlines} {v : Verdict}
    (hfail : deadlines.Failure w now v) : d.Justifies deadlines (w.age now) v := by
  cases hfail with
  | timedOut hhard =>
    refine ⟨hhard, fun hforked => h.isForked_iff.mp hforked hopen.agrees, ?_⟩
    -- it is not final, so some node has not accepted
    obtain ⟨s, hs, hnot⟩ := Watch.exists_not_accepted hopen.not_final hne
    obtain ⟨n, he⟩ := h.exists_entry hs
    exact ⟨_, he, hnot⟩
  | rolledBack hsoft hhard hgone =>
    obtain ⟨⟨s, hs, hever⟩, hall⟩ := Watch.isRolledBack_iff.mp hgone
    refine ⟨hsoft, hhard, fun e he => ?_, ?_⟩
    · obtain ⟨n, s', hs', rfl⟩ := h.exists_sighting he
      exact hall s' hs'
    · obtain ⟨n, he⟩ := h.exists_entry hs
      exact ⟨_, he, hever⟩
  | neverPacked hsoft hhard hunseen =>
    obtain ⟨hnever, hall⟩ := Watch.isNotPacked_iff.mp hunseen
    refine ⟨hsoft, hhard, fun e he => ?_, fun e he => ?_⟩
    · obtain ⟨n, s, hs, rfl⟩ := h.exists_sighting he
      exact hnever s hs
    · obtain ⟨n, s, hs, rfl⟩ := h.exists_sighting he
      exact hall s hs

end Describes

end Diagnosis

namespace Run

variable {r : Run}

/-- The diagnosis of a watch tells what the watch and the nodes of the run hold. -/
theorem describes_diagnose {w : Watch} (hlen : w.sightings.length = r.nodes.size) (now : Moment) :
    (r.diagnose w now).Describes w r.nodes now where
  correlationId := rfl
  ageSecs := by
    -- no age is too large for a word
    have hlt : (w.age now).wholeSecs < 2 ^ 64 := Moment.wholeSecs_since_lt now w.submittedAt
    change (UInt64.ofNat (w.age now).wholeSecs).toNat = (w.age now).wholeSecs
    exact UInt64.toNat_ofNat_of_lt hlt
  followed := hlen
  entries := by
    apply List.ext_getElem?
    intro i
    rw [List.getElem?_zipWith]
    simp only [diagnose, List.getElem?_map, List.getElem?_zipIdx, Nat.zero_add]
    cases hn : r.nodes.nodes[i]? with
    | none => rfl
    | some n =>
      -- where there is a node there is a sighting, so that no default is told
      have hlt : i < w.sightings.length := by
        rw [hlen]
        exact (List.getElem?_eq_some_iff.mp hn).1
      simp [Watch.sighting, Watch.sighting?, List.getElem?_eq_getElem hlt, Diagnosis.entry]

/-- A reaction that settles the run does so with success and no diagnosis, or with a failure that
the diagnosis of a watch in flight justifies. -/
theorem justified_of_reaction {e : RunEvent} {r' : Run} {reply : RunReply} {rep : RunReport}
    (h : r.Orderly) (hr : r.report = none) (hreact : Reaction r e r' reply)
    (hrep : r'.report = some rep) :
    rep.verdict = .success ∧ rep.diagnosis = none ∨
      ∃ d w now, rep.diagnosis = some d ∧ rep.verdict ≠ .success ∧ w ∈ r.watches.watches ∧
        e.moment? = some now ∧ d.Describes (r.told e w) r.nodes now ∧
        d.Justifies r.deadlines (now.since w.submittedAt) rep.verdict := by
  -- a reaction that leaves the report alone does not settle
  have hnone : r.report ≠ some rep := by simp [hr]
  cases hreact with
  | refused _ => exact absurd hrep hnone
  | registered _ _ => exact absurd hrep hnone
  | informed => exact absurd hrep hnone
  | noted _ => exact absurd hrep hnone
  | retired hw _ _ _ =>
    rw [retire_eq hw] at hrep
    exact absurd hrep hnone
  | completed _ _ _ _ =>
    obtain rfl := Option.some.inj hrep
    exact Or.inl ⟨rfl, rfl⟩
  | @forked id node a now w hw hfork =>
    -- the diagnosis is made of the watch with the answer applied
    obtain rfl := Option.some.inj hrep
    have hmem : w ∈ r.watches.watches := (WatchTable.get?_eq_some_iff.mp hw).1
    have hlen : (r.told (.observe id node a now) w).sightings.length
        = (r.learn id node a).nodes.size := by
      rw [length_told]
      exact h.length_sightings w hmem
    have hdescribes := describes_diagnose hlen now
    exact Or.inr ⟨_, w, now, rfl, by simp, hmem, rfl, hdescribes, hdescribes.isForked_iff.mpr hfork⟩
  | waited _ _ => exact absurd hrep hnone
  | @failed now w v hw hfail _ =>
    obtain rfl := Option.some.inj hrep
    have hopen := h.allOpen w hw
    have hdescribes := describes_diagnose (h.length_sightings w hw) now
    -- there is a node, so a watch that is not final has one that does not accept it
    have hne : w.sightings ≠ [] := h.sightings_ne_nil hw
    have hv : v ≠ .success := by
      rintro rfl
      exact Deadlines.assess_ne_failed_success _ _ _ hfail
    exact Or.inr ⟨_, w, now, rfl, hv, hw, rfl, hdescribes,
      hdescribes.justifies_of_failure hopen hne (Deadlines.failure_of_isOpen hopen hfail)⟩
  | vacuous _ =>
    obtain rfl := Option.some.inj hrep
    exact Or.inl ⟨rfl, rfl⟩

/-- Along a history `es`, the run fails with a report because of a watch `w`, at the event `e` that
follows `before` and comes at `now`; and the report's diagnosis `d` says why. -/
structure FailsBy (r : Run) (es : List RunEvent) (rep : RunReport) (d : Diagnosis)
    (before : List RunEvent) (e : RunEvent) (w : Watch) (now : Moment) : Prop where
  diagnosis : rep.diagnosis = some d
  settlesAt : r.SettlesAt es before e rep
  moment : e.moment? = some now
  /-- The watch is in flight when the event comes. -/
  inFlight : w ∈ (r.after before).watches.watches
  /-- It was registered at the moment that its age counts from. -/
  registered : ∃ past since, before = past ++ .submit w.id w.submittedAt :: since ∧
    ((r.after past).react (.submit w.id w.submittedAt)).2 = .taken true
  /-- The diagnosis tells what the watch, having been told the event, and the nodes hold. -/
  describes : d.Describes ((r.after before).told e w) (r.after before).nodes now
  /-- It has one entry for each node that the run was started with. -/
  urls : d.nodes.map NodeReport.url = r.nodes.urls
  justifies : d.Justifies r.deadlines (now.since w.submittedAt) rep.verdict

/-- **Every failure is justified.** A report of success carries no diagnosis. Any other carries that
of a watch which was in flight when the run settled, and which shows what the verdict says. -/
theorem failure_justified (nodes : NodeList) (target : UInt32) (deadlines : Deadlines)
    (es : List RunEvent) (rep : RunReport)
    (hrep : ((start nodes target deadlines).after es).report = some rep) :
    (rep.verdict = .success → rep.diagnosis = none) ∧
    (rep.verdict ≠ .success → ∃ d before e w now,
      (start nodes target deadlines).FailsBy es rep d before e w now) := by
  obtain ⟨before, e, hsettles⟩ := exists_settlesAt rfl hrep
  have horderly := orderly_after nodes target deadlines before
  have hsame := sameTask_after (orderly_start nodes target deadlines) before
  have hreact := reaction_of_allOpen hsettles.unsettled horderly.allOpen e
  rcases justified_of_reaction horderly hsettles.unsettled hreact hsettles.settles with
    ⟨hv, hd⟩ | ⟨d, w, now, hd, hv, hw, hnow, hdescribes, hjustifies⟩
  · exact ⟨fun _ => hd, fun hne => absurd hv hne⟩
  · refine ⟨fun heq => absurd heq hv, fun _ => ⟨d, before, e, w, now, hd, hsettles, hnow, hw,
      exists_registration nodes target deadlines hw, hdescribes, ?_, ?_⟩⟩
    · rw [hdescribes.urls]
      exact hsame.urls
    · rw [hsame.deadlines] at hjustifies
      exact hjustifies

/-- Two nodes give different blocks, the second two seconds after the submission. -/
def forkHistory : List RunEvent :=
  [.submit .zero .start,
    .observe .zero 0 (.located ⟨5, ⟨"x"⟩⟩) .start,
    .observe .zero 1 (.located ⟨5, ⟨"y"⟩⟩) (.ofMillis 2000)]

/-- How a run ends that hears of this fork. -/
def forkReport : RunReport where
  verdict := .forked
  diagnosis := some
    { correlationId := .zero
      ageSecs := 2
      nodes := [⟨"a", .located ⟨5, ⟨"x"⟩⟩, true, false, 0⟩, ⟨"b", .located ⟨5, ⟨"y"⟩⟩, true, false, 0⟩] }
  progress := ⟨1, 1, 0, 1⟩

/-- The fork is told by the second answer, and the run fails by the watch as that answer left it. -/
theorem failure_justified_fork :
    ((start .pair 1 {}).after forkHistory).report = some forkReport ∧
      ∃ d before e w now, (start .pair 1 {}).FailsBy forkHistory forkReport d before e w now := by
  have hrep : ((start .pair 1 {}).after forkHistory).report = some forkReport := by decide
  exact ⟨hrep, (failure_justified .pair 1 {} forkHistory forkReport hrep).2 (by decide)⟩

end Run

end ChainWatch
