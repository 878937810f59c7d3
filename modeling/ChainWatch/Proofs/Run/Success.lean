import ChainWatch.Proofs.Run.Balance

/-!
# A success is vouched for by every node

A run forgets a watch as soon as it is final, so the report of a success shows nothing of why each
transaction was counted. This file finds the reason in the history (`success_sound`): for every
transaction that the run has taken there is a moment after its registration at which the nodes have
vouched for it.

* `Run.Vouched` — the watch was in flight up to the last of some events, and these tell that every
  node holds the transaction, all in one block, each node having secured its location
  (`Sighting.Secured`).

The invariant is on one watch and the events since its registration. As long as it is in flight,
`Run.Follows` says that it remembers, node by node, exactly what these events told of it. It leaves
the flight in two ways (`fate_of_mem`): with the failure of the run, or final and without a fork. In
the second case what it remembers is what vouching asks for (`Follows.vouched`): acceptance is traced
to the answer that brought it, however the frontier of the node has moved since, and the locations
that are accepted are those given last, of which no two differ. A run that has succeeded has nothing
in flight, so each transaction has left in this way.
-/

namespace ChainWatch

namespace Run

variable {r : Run} {n : Nat} {id : CorrelationId} {es : List RunEvent} {e : RunEvent} {w : Watch}

/-- Some events that follow the registration of a transaction vouch for it: it is watched until the
last of them, and at their end all of `n` nodes hold it in one block and have secured it there. -/
structure Vouched (r : Run) (n : Nat) (id : CorrelationId) (es : List RunEvent) : Prop where
  /-- The transaction is in flight when each of the events comes. -/
  watched : ∀ before e later, es = before ++ e :: later →
    ∃ w ∈ (r.after before).watches.watches, w.id = id
  /-- Every node has located it last in this block, and has secured this location. -/
  agreed : ∃ block, ∀ node < n, ∃ number,
    (r.heard id node es).getLast?.map Prod.fst = some (.located ⟨number, block⟩) ∧
      Sighting.Secured ⟨number, block⟩ (r.heard id node es)

/-! ### A watch that is followed -/

/-- Along some events that follow its registration, a watch has stayed in flight and remembers what
the events have told of its transaction. -/
structure Follows (r : Run) (es : List RunEvent) (w : Watch) : Prop where
  watched : ∀ before e later, es = before ++ e :: later →
    ∃ v ∈ (r.after before).watches.watches, v.id = w.id
  inFlight : w ∈ (r.after es).watches.watches
  remembers : ∀ node s, w.sightings[node]? = some s →
    s = ({} : Sighting).afterAll (r.heard w.id node es)

namespace Follows

/-- A watch is followed from its registration on. -/
theorem registered {now : Moment} (hw : .fresh id now n ∈ r.watches.watches) :
    r.Follows [] (.fresh id now n) where
  watched := by
    intro before e later heq
    simp at heq
  inFlight := hw
  remembers := by
    intro node s hs
    -- nothing was told yet, and every sighting of a fresh watch is empty
    exact List.eq_of_mem_replicate (List.mem_of_getElem? hs)

/-- A watch that is followed is in flight when one more event comes. -/
theorem watched_concat (h : r.Follows es w) (e : RunEvent) :
    ∀ before e' later, es ++ [e] = before ++ e' :: later →
      ∃ v ∈ (r.after before).watches.watches, v.id = w.id := by
  intro before e' later heq
  rcases List.eq_nil_or_concat' later with rfl | ⟨later, last, rfl⟩
  · -- the event is the new one
    obtain ⟨rfl, -⟩ := List.append_inj' heq rfl
    exact ⟨w, h.inFlight, rfl⟩
  · rw [← List.cons_append, ← List.append_assoc] at heq
    obtain ⟨hes, -⟩ := List.append_inj' heq rfl
    exact h.watched before e' later hes

/-- Having been told one more event, the watch remembers it as well. -/
theorem remembers_told (h : r.Follows es w) (e : RunEvent) {node : Nat} {s : Sighting}
    (hs : ((r.after es).told e w).sightings[node]? = some s) :
    s = ({} : Sighting).afterAll (r.heard w.id node (es ++ [e])) := by
  rw [getElem?_told] at hs
  obtain ⟨s₀, hs₀, rfl⟩ := Option.map_eq_some_iff.mp hs
  rw [h.remembers node s₀ hs₀, heard_concat, Sighting.afterAll_append]

/-- The watch is followed further if it stays in flight. -/
theorem step (h : r.Follows es w)
    (hmem : (r.after es).told e w ∈ ((r.after es).react e).1.watches.watches) :
    r.Follows (es ++ [e]) ((r.after es).told e w) where
  watched := by
    rw [told_id]
    exact h.watched_concat e
  inFlight := by
    rw [after_concat]
    exact hmem
  remembers := by
    intro node s hs
    rw [told_id]
    exact h.remembers_told e hs

/-- What a watch remembers vouches for its transaction when it is final and shows no fork. -/
theorem vouched (h : r.Follows es w) (hlen : w.sightings.length = n)
    (hagrees : ((r.after es).told e w).Agrees)
    (hfinal : ((r.after es).told e w).isFinalized = true) : r.Vouched n w.id (es ++ [e]) := by
  obtain ⟨hne, haccepted⟩ := Watch.isFinalized_iff.mp hfinal
  -- on every node some location is secured, and is the status of the sighting there
  have hsecured : ∀ node < n, ∃ b, Sighting.Secured b (r.heard w.id node (es ++ [e])) ∧
      .located b ∈ ((r.after es).told e w).statuses := by
    intro node hnode
    have hlt : node < ((r.after es).told e w).sightings.length := by
      rw [length_told, hlen]
      exact hnode
    have hget := List.getElem?_eq_getElem hlt
    have hmem := List.getElem_mem hlt
    generalize ((r.after es).told e w).sightings[node] = s at hget hmem
    have hs := h.remembers_told e hget
    have hacc := haccepted s hmem
    rw [hs] at hacc
    obtain ⟨b, hb⟩ := (Sighting.accepted_afterAll_iff _).mp hacc
    have hstatus : s.status = .located b := by
      rw [hs]
      exact hb.status_afterAll
    exact ⟨b, hb, List.mem_map.mpr ⟨s, hmem, hstatus⟩⟩
  -- the block of the first node is that of all others, since the nodes agree
  have hpos : 0 < n := by
    rw [← hlen, ← length_told (r.after es) e w]
    exact List.length_pos_of_ne_nil hne
  obtain ⟨first, -, hfirst⟩ := hsecured 0 hpos
  refine ⟨h.watched_concat e, first.id, fun node hnode => ?_⟩
  obtain ⟨b, hb, hlocated⟩ := hsecured node hnode
  have hid : b.id = first.id := hagrees b first hlocated hfirst
  obtain ⟨number, block⟩ := b
  obtain rfl : block = first.id := hid
  exact ⟨number, hb.getLast?, hb⟩

end Follows

/-! ### From the registration to the end of the run -/

/-- What has become of a transaction along some events that follow its registration. -/
inductive Fate (r : Run) (n : Nat) (id : CorrelationId) (es : List RunEvent) : Prop
  /-- It is in flight. -/
  | followed {v : Watch} (hid : v.id = id) (h : r.Follows es v)
  /-- The nodes have vouched for it. -/
  | vouched {mid later : List RunEvent} (hsplit : es = mid ++ later) (h : r.Vouched n id mid)
  /-- The run has failed. -/
  | failed {rep : RunReport} (hrep : (r.after es).report = some rep) (hv : rep.verdict ≠ .success)

/-- **Invariant preservation.** -/
theorem Fate.step (horderly : (r.after es).Orderly) (hsize : (r.after es).nodes.size = n)
    (h : r.Fate n id es) (e : RunEvent) : r.Fate n id (es ++ [e]) := by
  cases h with
  | @followed w hid h =>
    subst hid
    have hr : (r.after es).report = none := by
      cases hrep : (r.after es).report with
      | none => rfl
      | some rep =>
        -- a settled run has nothing in flight
        have hmem := h.inFlight
        rw [horderly.watches_of_isSettled (isSettled_eq_true hrep)] at hmem
        cases hmem
    have hreact := reaction_of_allOpen hr horderly.allOpen e
    rcases fate_of_mem hreact h.inFlight with hstays | ⟨hagrees, hfinal⟩ | ⟨rep, hrep, hv⟩
    · exact .followed (told_id _ _ _) (h.step hstays)
    · have hlen : w.sightings.length = n := (horderly.length_sightings w h.inFlight).trans hsize
      exact .vouched (List.append_nil _).symm (h.vouched hlen hagrees hfinal)
    · rw [← after_concat] at hrep
      exact .failed hrep hv
  | @vouched mid later hsplit h =>
    have hmore : es ++ [e] = mid ++ (later ++ [e]) := by rw [hsplit, List.append_assoc]
    exact .vouched hmore h
  | @failed rep hrep hv =>
    -- a run that has failed does not react
    refine .failed ?_ hv
    rw [after_concat, react_of_isSettled (isSettled_eq_true hrep)]
    exact hrep

theorem Fate.after (horderly : r.Orderly) (hsize : r.nodes.size = n) (h : r.Fate n id [])
    (es : List RunEvent) : r.Fate n id es := by
  induction es using List.reverseRecOn with
  | nil => exact h
  | append_singleton es e ih =>
    have hsame : (r.after es).nodes.size = r.nodes.size := (sameTask_after horderly es).size
    exact ih.step (horderly.after es) (hsame.trans hsize) e

/-- A transaction that is taken is watched afresh. -/
theorem fresh_mem_of_taken (h : r.Orderly) {now : Moment}
    (htaken : (r.react (.submit id now)).2 = .taken true) :
    .fresh id now r.nodes.size ∈ (r.react (.submit id now)).1.watches.watches := by
  cases hr : r.report with
  | some rep =>
    rw [react_of_isSettled (isSettled_eq_true hr)] at htaken
    cases htaken
  | none =>
    have hreact := reaction_of_allOpen hr h.allOpen (.submit id now)
    generalize r.react (.submit id now) = p at hreact htaken ⊢
    obtain ⟨r', reply⟩ := p
    cases hreact with
    | refused _ => cases htaken
    | registered _ hnew =>
      refine (WatchTable.mem_add_iff hnew now).mpr (Or.inl ?_)
      rw [h.nodeCount_eq]

/-- **Soundness of success.** If a run has succeeded, it has taken as many transactions as it was to
submit; and for each of them there is a moment after its registration at which every node has located
it last in one and the same block, and has given this location while it was not past the node's
frontier, answering nothing else from then on. -/
theorem success_sound (nodes : NodeList) (target : UInt32) (deadlines : Deadlines)
    (es : List RunEvent) (rep : RunReport)
    (hrep : ((start nodes target deadlines).after es).report = some rep)
    (hsuccess : rep.verdict = .success) :
    (start nodes target deadlines).registrations es = target.toNat ∧
    ∀ past id now rest, es = past ++ .submit id now :: rest →
      (((start nodes target deadlines).after past).react (.submit id now)).2 = .taken true →
      ∃ mid later, rest = mid ++ later ∧
        ((start nodes target deadlines).after (past ++ [.submit id now])).Vouched
          nodes.size id mid := by
  have hstart := orderly_start nodes target deadlines
  constructor
  · have hbalance := balance_after nodes target deadlines es
    obtain ⟨hall, -⟩ := (hbalance.settled rep hrep).success hsuccess
    have htarget : ((start nodes target deadlines).after es).target = target :=
      (sameTask_after hstart es).target
    rw [htarget] at hall
    calc (start nodes target deadlines).registrations es
        = ((start nodes target deadlines).after es).submitted.toNat := hbalance.submitted_eq.symm
      _ = target.toNat := congrArg UInt32.toNat hall
  · rintro past id now rest rfl htaken
    have hfresh := fresh_mem_of_taken (hstart.after past) htaken
    rw [← after_concat] at hfresh
    have hsplit : past ++ .submit id now :: rest = (past ++ [.submit id now]) ++ rest := by simp
    rw [hsplit, after_append] at hrep
    have horderly := hstart.after (past ++ [.submit id now])
    have hsize : ((start nodes target deadlines).after (past ++ [.submit id now])).nodes.size
        = nodes.size := (sameTask_after hstart _).size
    generalize (start nodes target deadlines).after (past ++ [.submit id now]) = r at *
    have hfate : r.Fate nodes.size id [] := .followed rfl (.registered hfresh)
    cases hfate.after horderly hsize rest with
    | vouched hmid h => exact ⟨_, _, hmid, h⟩
    | followed _ h =>
      -- the run has settled, so nothing is in flight
      have hmem := h.inFlight
      rw [(horderly.after rest).watches_of_isSettled (isSettled_eq_true hrep)] at hmem
      cases hmem
    | failed hrep' hv =>
      rw [hrep] at hrep'
      cases hrep'
      exact absurd hsuccess hv

/-- Two nodes locate a transaction in one block. The first has this block irreversible when it says
so, and then none. -/
def successHistory : List RunEvent :=
  [.hear 0 { irreversible := 7 },
    .submit .zero .start,
    .observe .zero 0 (.located ⟨5, ⟨"x"⟩⟩) .start,
    .hear 0 { irreversible := 0 },
    .hear 1 { irreversible := 5 },
    .observe .zero 1 (.located ⟨5, ⟨"x"⟩⟩) (.ofMillis 2000)]

/-- How a run ends that was to submit this transaction. -/
def successReport : RunReport where
  verdict := .success
  diagnosis := none
  progress := ⟨1, 1, 1, 0⟩

/-- The first node is still counted on when the second answers, and the nodes have vouched. -/
theorem success_sound_pair :
    ((start .pair 1 {}).after successHistory).report = some successReport ∧
      successReport.verdict = .success ∧
      ∃ mid later, successHistory.drop 2 = mid ++ later ∧
        ((start .pair 1 {}).after (successHistory.take 2)).Vouched 2 .zero mid := by
  have hrep : ((start .pair 1 {}).after successHistory).report = some successReport := by decide
  refine ⟨hrep, rfl, ?_⟩
  obtain ⟨-, hvouched⟩ := success_sound .pair 1 {} successHistory successReport hrep rfl
  exact hvouched (successHistory.take 1) .zero .start (successHistory.drop 2) rfl (by decide)

end Run

end ChainWatch
