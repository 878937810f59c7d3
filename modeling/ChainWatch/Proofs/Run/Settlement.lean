import ChainWatch.Proofs.Run.Reaction

/-!
# A run settles once

A run replies a verdict to the event that settles it, and to no other. This file says so for every
history (`settles_once`):

* `Run.verdicts` — the verdicts that a run has replied along a history. They are the one of its
  report, or none as long as there is no report (`verdicts_eq_toList`);
* `after_of_isSettled`, `replies_of_isSettled` — a run that has settled stays as it is, in all its
  parts, and refuses every event that follows.

Several operations can settle a run. What they have in common is read off `Run.Reaction` in one step
(`verdict?_of_reaction`): the verdict that is replied is the one that the run then has.
-/

namespace ChainWatch

/-- The verdict in a reply, if there is one. -/
def RunReply.verdict? : RunReply → Option Verdict
  | .verdict v => v
  | _ => none

@[simp] theorem RunEvent.verdict?_refusal (e : RunEvent) : e.refusal.verdict? = none := by
  cases e <;> rfl

namespace Run

/-- The verdict of a run that has settled. -/
def verdict? (r : Run) : Option Verdict := r.report.map RunReport.verdict

/-- The verdicts that a run replies along some events. -/
def verdicts (r : Run) (es : List RunEvent) : List Verdict :=
  (r.replies es).filterMap RunReply.verdict?

variable {r : Run}

theorem verdict?_eq_none (hr : r.report = none) : r.verdict? = none := by
  rw [verdict?, hr, Option.map_none]

@[simp] theorem verdict?_ended (v : Verdict) (d : Option Diagnosis) :
    (r.ended v d).verdict? = some v := rfl

/-! ### A settled run -/

theorem after_of_isSettled (hr : r.isSettled = true) (es : List RunEvent) : r.after es = r := by
  induction es with
  | nil => rfl
  | cons e es ih => rw [after_cons, react_of_isSettled hr, ih]

theorem replies_of_isSettled (hr : r.isSettled = true) (es : List RunEvent) :
    r.replies es = es.map RunEvent.refusal := by
  induction es with
  | nil => rfl
  | cons e es ih => rw [replies_cons, react_of_isSettled hr, ih, List.map_cons]

theorem verdicts_of_isSettled (hr : r.isSettled = true) (es : List RunEvent) :
    r.verdicts es = [] := by
  have hnone : ∀ e ∈ es, (RunReply.verdict? ∘ RunEvent.refusal) e = none :=
    fun e _ => e.verdict?_refusal
  rw [verdicts, replies_of_isSettled hr, List.filterMap_map, List.filterMap_eq_nil_iff]
  exact hnone

/-! ### The event that settles -/

/-- The verdict that an unsettled run replies is the one that it then has. -/
theorem verdict?_of_reaction {e : RunEvent} {r' : Run} {reply : RunReply} (hr : r.report = none)
    (hreact : Reaction r e r' reply) : reply.verdict? = r'.verdict? := by
  -- most reactions leave the report as it is
  have hnone : ∀ q : Run, q.report = r.report → none = q.verdict? :=
    fun q hq => (verdict?_eq_none (hq.trans hr)).symm
  cases hreact with
  | refused _ => exact hnone _ rfl
  | registered _ _ => exact hnone _ rfl
  | informed => exact hnone _ rfl
  | noted _ => exact hnone _ rfl
  | retired hw _ _ _ => exact hnone _ (by rw [retire_eq hw])
  | waited _ _ => exact hnone _ rfl
  -- the others settle the run
  | completed _ _ _ _ => rfl
  | forked _ _ => rfl
  | failed _ _ _ => rfl
  | vacuous _ => rfl

theorem verdict?_react (h : r.Orderly) (hr : r.report = none) (e : RunEvent) :
    (r.react e).2.verdict? = (r.react e).1.verdict? :=
  verdict?_of_reaction hr (reaction_of_allOpen hr h.allOpen e)

/-- **One verdict.** Along every history, an unsettled run replies the verdict that it has in the
end, and no other. -/
theorem verdicts_eq_toList (h : r.Orderly) (hr : r.report = none) (es : List RunEvent) :
    r.verdicts es = (r.after es).verdict?.toList := by
  induction es generalizing r with
  | nil =>
    rw [after_nil, verdict?_eq_none hr]
    rfl
  | cons e es ih =>
    have hreact := verdict?_react h hr e
    have hcons : r.verdicts (e :: es)
        = (r.react e).1.verdict?.toList ++ (r.react e).1.verdicts es := by
      rw [verdicts, replies_cons, ← hreact]
      cases hv : (r.react e).2.verdict? with
      | none => rw [List.filterMap_cons_none hv]; rfl
      | some v => rw [List.filterMap_cons_some hv]; rfl
    rw [hcons, after_cons]
    cases hr' : (r.react e).1.report with
    | none =>
      rw [verdict?_eq_none hr']
      exact ih (h.react e) hr'
    | some rep =>
      -- the event has settled the run, so nothing is replied later and nothing changes
      have hsettled := isSettled_eq_true hr'
      rw [verdicts_of_isSettled hsettled, after_of_isSettled hsettled, List.append_nil]

/-- Neither a submission nor what a node says about its chain settles a run. -/
theorem report_react_of_verdict?_eq_none (h : r.Orderly) {e : RunEvent}
    (he : (r.react e).2.verdict? = none) : (r.react e).1.report = r.report := by
  cases hr : r.report with
  | some rep => rw [react_of_isSettled (isSettled_eq_true hr), hr]
  | none =>
    rw [verdict?_react h hr e] at he
    exact Option.map_eq_none_iff.mp he

/-- **A run settles once, and is frozen then.** The verdicts that a run replies along a history are
the one of its report, or none. An event is replied with a verdict exactly if it takes the run from
having no report to a report with this verdict, which is never a submission, nor what a node says
about its chain. From then on the run watches nothing, and whatever follows is refused and leaves
the run as it is. -/
theorem settles_once (nodes : NodeList) (target : UInt32) (deadlines : Deadlines)
    (es : List RunEvent) :
    let r := (start nodes target deadlines).after es
    (start nodes target deadlines).verdicts es = r.verdict?.toList ∧
    (∀ e v, (r.react e).2.verdict? = some v ↔
      r.report = none ∧ ∃ rep, (r.react e).1.report = some rep ∧ rep.verdict = v) ∧
    (∀ id now, (r.react (.submit id now)).1.report = r.report) ∧
    (∀ node info, (r.react (.hear node info)).1.report = r.report) ∧
    ∀ rep, r.report = some rep →
      r.watches.watches = [] ∧
      ∀ more, r.after more = r ∧ r.replies more = more.map RunEvent.refusal := by
  intro r
  have hstart := orderly_start nodes target deadlines
  have horderly : r.Orderly := hstart.after es
  refine ⟨verdicts_eq_toList hstart rfl es, fun e v => ⟨fun hv => ?_, ?_⟩,
    fun id now => report_react_of_verdict?_eq_none horderly rfl,
    fun node info => report_react_of_verdict?_eq_none horderly rfl, fun rep hrep => ?_⟩
  · cases hr : r.report with
    | some rep =>
      -- a settled run replies a refusal
      rw [react_of_isSettled (isSettled_eq_true hr), RunEvent.verdict?_refusal] at hv
      cases hv
    | none =>
      rw [verdict?_react horderly hr e] at hv
      exact ⟨rfl, Option.map_eq_some_iff.mp hv⟩
  · rintro ⟨hr, rep, hrep, rfl⟩
    rw [verdict?_react horderly hr e, verdict?, hrep, Option.map_some]
  · have hsettled := isSettled_eq_true hrep
    exact ⟨horderly.watches_of_isSettled hsettled,
      fun more => ⟨after_of_isSettled hsettled more, replies_of_isSettled hsettled more⟩⟩

end Run

end ChainWatch
