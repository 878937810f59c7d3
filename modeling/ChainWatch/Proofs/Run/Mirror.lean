import ChainWatch.Proofs.Run.Event
import ChainWatch.Proofs.Watch.Mirror

/-!
# The order of the nodes does not matter

A run that hears of nodes by their positions is played again on the same nodes in another order,
where every event names the new position of its node (`RunEvent.relabel`). The two runs stay
mirrored (`Run.Mirrored`): every watch has the sightings of its image, moved along with the nodes,
and all that is not kept by node is equal. So they reply the same, and when they settle, they do so
at the same event and with the same report, up to the order of the nodes in its diagnosis
(`node_order_irrelevant`).

There is one lemma for each thing that a run does; the one about judging is an induction over the
ids, which both runs go through in the same order (`Mirrored.judge`).
-/

namespace ChainWatch

variable {σ : Equiv.Perm Nat}

/-- The same event, said of nodes that are moved along `σ`. -/
def RunEvent.relabel (σ : Equiv.Perm Nat) : RunEvent → RunEvent
  | .submit id now => .submit id now
  | .hear node info => .hear (σ node) info
  | .observe id node a now => .observe id (σ node) a now
  | .evaluate now => .evaluate now

/-- Diagnoses of one transaction, whose entries are moved along with the nodes. -/
structure Diagnosis.Mirrored (σ : Equiv.Perm Nat) (d d' : Diagnosis) : Prop where
  correlationId : d'.correlationId = d.correlationId
  ageSecs : d'.ageSecs = d.ageSecs
  nodes : Moved σ d.nodes d'.nodes

/-- Reports that differ in the order of the nodes only. -/
structure RunReport.Mirrored (σ : Equiv.Perm Nat) (x x' : RunReport) : Prop where
  verdict : x'.verdict = x.verdict
  progress : x'.progress = x.progress
  diagnosis : Option.Rel (Diagnosis.Mirrored σ) x.diagnosis x'.diagnosis

namespace Run

/-- Runs that differ in the order of the nodes only. -/
structure Mirrored (σ : Equiv.Perm Nat) (r r' : Run) : Prop where
  nodes : Moved σ r.nodes.nodes r'.nodes.nodes
  watches : r.watches.Mirrored σ r'.watches
  deadlines : r'.deadlines = r.deadlines
  target : r'.target = r.target
  submitted : r'.submitted = r.submitted
  finalized : r'.finalized = r.finalized
  report : Option.Rel (RunReport.Mirrored σ) r.report r'.report

/-- Two results that lead to mirrored runs and tell the same. -/
def Echoes {α : Type} (σ : Equiv.Perm Nat) (p p' : Run × α) : Prop :=
  Mirrored σ p.1 p'.1 ∧ p'.2 = p.2

/-- Runs that start with mirrored nodes are mirrored. -/
theorem mirrored_start {nodes nodes' : NodeList} (h : Moved σ nodes.nodes nodes'.nodes)
    (target : UInt32) (deadlines : Deadlines) :
    Mirrored σ (start nodes target deadlines) (start nodes' target deadlines) where
  nodes := h
  watches := { nodeCount := h.length_eq, inRange := h.mem_range_iff, watches := .nil }
  deadlines := rfl
  target := rfl
  submitted := rfl
  finalized := rfl
  report := .none

namespace Mirrored

variable {r r' : Run} (h : Mirrored σ r r')
include h

/-! ### Looking at a run -/

/-- Both have settled, or neither has. -/
theorem isSettled_eq : r'.isSettled = r.isSettled := by
  -- there are two reports or none
  have hreport := h.report
  unfold isSettled
  generalize r.report = x at hreport ⊢
  generalize r'.report = x' at hreport ⊢
  cases hreport <;> rfl

theorem wantsSubmission_eq : r'.wantsSubmission = r.wantsSubmission := by
  unfold wantsSubmission
  rw [h.isSettled_eq, h.submitted, h.target]

theorem progress_eq : r'.progress = r.progress := by
  unfold progress
  rw [h.target, h.submitted, h.finalized, h.watches.size_eq]

/-- Mirrored watches are told of by mirrored diagnoses. -/
theorem diagnose {w w' : Watch} (hw : w.Mirrored σ w') (now : Moment) :
    Diagnosis.Mirrored σ (r.diagnose w now) (r'.diagnose w' now) where
  correlationId := hw.id
  ageSecs := by
    unfold Run.diagnose Watch.ageSecs
    rw [hw.age_eq]
  nodes := by
    -- an entry tells of the node at its position, and of the sighting there
    intro i
    unfold Run.diagnose
    simp only [List.getElem?_map, List.getElem?_zipIdx, h.nodes i, Option.map_map,
      Function.comp_def, Nat.zero_add, hw.sighting_eq]

/-! ### Settling -/

/-- Settling with mirrored diagnoses gives the same verdict on both sides. -/
theorem settle {d d' : Option Diagnosis} (hd : Option.Rel (Diagnosis.Mirrored σ) d d')
    (v : Verdict) : Echoes σ (r.settle v d) (r'.settle v d') := by
  unfold Run.settle
  rw [h.isSettled_eq]
  split
  · exact ⟨h, rfl⟩
  · exact ⟨{ h with
      watches := h.watches.clear
      report := .some ⟨rfl, h.progress_eq, hd⟩ }, rfl⟩

/-- A failure is told of a watch on the one side and of its mirror on the other. -/
theorem fail {w w' : Watch} (hw : w.Mirrored σ w') (v : Verdict) (now : Moment) :
    Echoes σ (r.fail v w now) (r'.fail v w' now) :=
  h.settle (.some (h.diagnose hw now)) v

/-- Retiring a transaction on both sides keeps runs mirrored. -/
theorem retire (id : CorrelationId) : Mirrored σ (r.retire id) (r'.retire id) := by
  have hrest := h.watches.remove id
  unfold Run.retire
  rcases h.watches.get?_cases id with ⟨hnone, hnone'⟩ | ⟨w, w', hw, hw', -⟩
  · simp only [WatchTable.remove, hnone, hnone']
    exact h
  · simp only [WatchTable.remove, hw, hw'] at hrest ⊢
    exact { h with
      watches := hrest
      finalized := congrArg (· + 1) h.finalized }

theorem settleIfComplete : Echoes σ r.settleIfComplete r'.settleIfComplete := by
  unfold Run.settleIfComplete
  rw [h.submitted, h.target, h.watches.isEmpty_eq]
  split
  · exact ⟨h, rfl⟩
  · exact h.settle .none .success

/-! ### What a run hears -/

theorem submit (id : CorrelationId) (now : Moment) :
    Echoes σ (r.submit id now) (r'.submit id now) := by
  have hadd := h.watches.add id now
  have hsnd := h.watches.add_snd_eq id now
  unfold Run.submit
  rw [h.wantsSubmission_eq]
  split
  · generalize r.watches.add id now = p at hadd hsnd ⊢
    generalize r'.watches.add id now = p' at hadd hsnd ⊢
    obtain ⟨t, b⟩ := p
    obtain ⟨t', b'⟩ := p'
    -- both tables take the id, or neither does
    obtain rfl : b' = b := hsnd
    cases b' with
    | true =>
      exact ⟨{ h with
        watches := hadd
        submitted := congrArg (· + 1) h.submitted }, rfl⟩
    | false => exact ⟨h, rfl⟩
  · exact ⟨h, rfl⟩

/-- What a node says about its chain is heard from the node that it is moved to. -/
theorem hear (node : Nat) (info : ChainInfo) :
    Mirrored σ (r.hear node info) (r'.hear (σ node) info) := by
  unfold Run.hear
  rw [h.isSettled_eq]
  split
  · exact h
  · exact { h with nodes := h.nodes.modify node _ }

theorem review {w w' : Watch} (hw : w.Mirrored σ w') (now : Moment) :
    Echoes σ (r.review w now) (r'.review w' now) := by
  unfold Run.review
  rw [hw.isSome_fork?_eq, hw.isFinalized_eq, hw.id]
  split
  · exact h.fail hw .forked now
  · split
    · exact (h.retire w.id).settleIfComplete
    · exact ⟨h, rfl⟩

/-- So is what it answers about a transaction. -/
theorem observe (id : CorrelationId) (node : Nat) (a : Answer) (now : Moment) :
    Echoes σ (r.observe id node a now) (r'.observe id (σ node) a now) := by
  unfold Run.observe
  rw [h.isSettled_eq, NodeList.frontier_of_moved h.nodes]
  -- the frontier is that of the node wherever it stands, so the answer is news to both or to neither
  have htable := h.watches.observe id node a (r.nodes.frontier node)
  have hnews := h.watches.observe_snd_eq id node a (r.nodes.frontier node)
  generalize r.watches.observe id node a (r.nodes.frontier node) = p at htable hnews ⊢
  generalize r'.watches.observe id (σ node) a (r.nodes.frontier node) = p' at htable hnews ⊢
  obtain ⟨t, news⟩ := p
  obtain ⟨t', news'⟩ := p'
  obtain rfl : news' = news := hnews
  split
  · exact ⟨h, rfl⟩
  · rcases news' with _ | _ | _
    · exact ⟨h, rfl⟩
    · exact ⟨h, rfl⟩
    · -- the watch that has changed is looked at in the run that has changed with it
      have hr : Mirrored σ { r with watches := t } { r' with watches := t' } :=
        { h with watches := htable }
      rcases htable.get?_cases id with ⟨hnone, hnone'⟩ | ⟨w, w', hw, hw', hmirrored⟩
      · simp only [hnone, hnone']
        exact ⟨hr, rfl⟩
      · simp only [hw, hw']
        exact hr.review hmirrored now

/-- Judging goes through the same ids in the same order on both sides. -/
theorem judge (now : Moment) (ids : List CorrelationId) :
    Echoes σ (Run.judge now ids r) (Run.judge now ids r') := by
  -- retiring a watch changes the run, so the induction is on the ids for all mirrored runs
  induction ids generalizing r r' with
  | nil => exact h.settleIfComplete
  | cons id ids ih =>
    unfold Run.judge
    rcases h.watches.get?_cases id with ⟨hnone, hnone'⟩ | ⟨w, w', hw, hw', hmirrored⟩
    · simp only [hnone, hnone']
      exact ih h
    · simp only [hw, hw', h.deadlines, hmirrored.assess_eq]
      split
      · exact ih (h.retire id)
      · exact ih h
      · exact h.fail hmirrored _ now

theorem evaluate (now : Moment) : Echoes σ (r.evaluate now) (r'.evaluate now) := by
  unfold Run.evaluate
  rw [h.isSettled_eq, h.watches.ids_eq]
  split
  · exact ⟨h, rfl⟩
  · exact h.judge now r.watches.ids

/-! ### Histories -/

/-- **One event.** A run and its mirror react alike, if the nodes in the event are moved along. -/
theorem react (e : RunEvent) : Echoes σ (r.react e) (r'.react (e.relabel σ)) := by
  cases e with
  | submit id now =>
    obtain ⟨hrun, htaken⟩ := h.submit id now
    exact ⟨hrun, congrArg RunReply.taken htaken⟩
  | hear node info => exact ⟨h.hear node info, rfl⟩
  | observe id node a now =>
    obtain ⟨hrun, hverdict⟩ := h.observe id node a now
    exact ⟨hrun, congrArg RunReply.verdict hverdict⟩
  | evaluate now =>
    obtain ⟨hrun, hverdict⟩ := h.evaluate now
    exact ⟨hrun, congrArg RunReply.verdict hverdict⟩

/-- Mirrored runs that hear mirrored events stay mirrored and reply the same. -/
theorem replay (es : List RunEvent) :
    Mirrored σ (r.after es) (r'.after (es.map (RunEvent.relabel σ))) ∧
      r'.replies (es.map (RunEvent.relabel σ)) = r.replies es := by
  induction es generalizing r r' with
  | nil => exact ⟨h, rfl⟩
  | cons e es ih =>
    obtain ⟨hrun, hreply⟩ := h.react e
    obtain ⟨hafter, hreplies⟩ := ih hrun
    refine ⟨hafter, ?_⟩
    rw [List.map_cons, replies_cons, replies_cons, hreply, hreplies]

end Mirrored

/-- **The order of the nodes does not matter.** Urls that name nodes do so in any other order; and a
run on the nodes in the other order, where the same happens to the same nodes, gives the same
replies, has the same counters, and differs in the order of the nodes only: in the sightings of its
watches, in the entries of any diagnosis, and with it in its report. As the events may stop
anywhere, this is so after every one of them. -/
theorem node_order_irrelevant {urls urls' : List String} {nodes : NodeList}
    (hnodes : NodeList.ofUrls urls = .ok nodes) (hperm : urls.Perm urls') :
    (∃ σ, Moved σ urls urls') ∧
      ∃ nodes', NodeList.ofUrls urls' = .ok nodes' ∧
        ∀ σ, Moved σ urls urls' → ∀ target deadlines es,
          let first := start nodes target deadlines
          let first' := start nodes' target deadlines
          let r := first.after es
          let r' := first'.after (es.map (RunEvent.relabel σ))
          first'.replies (es.map (RunEvent.relabel σ)) = first.replies es ∧
            r'.progress = r.progress ∧
            List.Forall₂ (Watch.Mirrored σ) r.watches.watches r'.watches.watches ∧
            (∀ w w' now, w.Mirrored σ w' →
              (r.diagnose w now).Mirrored σ (r'.diagnose w' now)) ∧
            Option.Rel (RunReport.Mirrored σ) r.report r'.report := by
  obtain ⟨nodes', hnodes'⟩ := NodeList.exists_ofUrls_of_perm hnodes hperm
  refine ⟨exists_moved_of_perm hperm, nodes', hnodes', fun σ hσ target deadlines es => ?_⟩
  have hmoved : Moved σ nodes.nodes nodes'.nodes := NodeList.moved_of_ofUrls hnodes hnodes' hσ
  obtain ⟨h, hreplies⟩ := (mirrored_start hmoved target deadlines).replay es
  exact ⟨hreplies, h.progress_eq, h.watches.watches, fun _ _ now hw => h.diagnose hw now, h.report⟩

/-- One transaction, found in different blocks by two nodes. -/
def parting : List RunEvent :=
  [.submit .zero .start, .observe .zero 0 (.located ⟨1, ⟨"x"⟩⟩) .start,
    .observe .zero 1 (.located ⟨1, ⟨"y"⟩⟩) .start]

/-- The fork is found with the nodes in either order. -/
theorem node_order_irrelevant_parting :
    NodeList.ofUrls ["a", "b"] = .ok .pair ∧ ["a", "b"].Perm ["b", "a"] ∧
      ∃ nodes', NodeList.ofUrls ["b", "a"] = .ok nodes' ∧
        (start nodes' 1 {}).replies (parting.map (RunEvent.relabel (Equiv.swap 0 1)))
          = [.taken true, .verdict none, .verdict (some .forked)] := by
  have hpair : NodeList.ofUrls ["a", "b"] = .ok .pair :=
    NodeList.ofUrls_eq_ok_iff.mpr (by decide +kernel)
  have hperm : ["a", "b"].Perm ["b", "a"] := List.Perm.swap ..
  obtain ⟨-, nodes', hnodes', hsame⟩ := node_order_irrelevant hpair hperm
  refine ⟨hpair, hperm, nodes', hnodes', ?_⟩
  rw [(hsame _ (.swap "b" "a" []) 1 {} parting).1]
  decide +kernel

end Run

end ChainWatch
