import ChainWatch.Proofs.Run.Reaction

/-!
# Answers that come twice

A run looks for a fork or a final watch only when an answer has changed a watch, and takes the word
of `Watch.observe` for that. Its word is true (`Watch.observe_snd_eq_true_iff`): the flag says
exactly whether the watch is another one than before.

An answer that comes again, with the frontier as it was, finds the watch as it has left it
(`Watch.observe_observe`). At the level of a run there is more that the first delivery may have
done: it may have retired the watch, or settled the run. `Reaction.redelivered` goes through these
outcomes, and none of them leaves anything for the second delivery to do. All runs that a history
leads to are orderly, so this holds of them (`redelivery_harmless`).
-/

namespace ChainWatch

namespace Sighting

variable (s : Sighting) (a : Answer) (frontier : UInt64)

/-- An answer adds nothing to itself. -/
@[simp] theorem after_after : (s.after a frontier).after a frontier = s.after a frontier := by
  cases hfinal : a.isFinal frontier <;> simp [after, keepsAcceptance, moves, hfinal]

theorem isNews_after : (s.after a frontier).isNews a frontier = false :=
  (isNews_eq_false_iff _ _ _).mpr (s.after_after a frontier)

end Sighting

namespace Watch

variable (w : Watch) (node : Nat) (a : Answer) (frontier : UInt64)

theorem observe_snd (node : Nat) :
    (w.observe node a frontier).2
      = (w.sightings[node]?.map fun s => s.isNews a frontier).getD false := by
  unfold observe sighting?
  split
  · next hnone => rw [hnone, Option.map_none, Option.getD_none]
  · next s hs => rw [hs, Option.map_some, Option.getD_some]

/-- **The flag of an answer is truthful.** It is set exactly if the watch has changed. -/
theorem observe_snd_eq_true_iff :
    (w.observe node a frontier).2 = true ↔ (w.observe node a frontier).1 ≠ w := by
  rw [← not_iff_not, not_not, Bool.not_eq_true]
  refine ⟨w.observe_eq_self node a frontier, fun hsame => ?_⟩
  -- if the watch stays, so does the sighting of the node
  have hget := w.getElem?_observe node a frontier node
  rw [hsame, if_pos rfl] at hget
  rw [observe_snd]
  cases hs : w.sightings[node]? with
  | none => rfl
  | some s =>
    rw [hs, Option.map_some, Option.some.injEq] at hget
    rw [Option.map_some, Option.getD_some, s.isNews_eq_false_iff]
    exact hget.symm

/-- An answer that comes again is no news and changes nothing. -/
theorem observe_observe :
    (w.observe node a frontier).1.observe node a frontier
      = ((w.observe node a frontier).1, false) := by
  have hflag : ((w.observe node a frontier).1.observe node a frontier).2 = false := by
    rw [observe_snd, getElem?_observe, if_pos rfl]
    cases w.sightings[node]? with
    | none => rfl
    | some s => exact s.isNews_after a frontier
  exact Prod.ext (observe_eq_self _ _ _ _ hflag) hflag

/-- A status that is unknown after an answer is the one of another node, and was unknown before. -/
theorem unknown_of_observe {i : Nat}
    (h : (w.observe node a frontier).1.statuses[i]? = some .unknown) :
    i ≠ node ∧ w.statuses[i]? = some .unknown := by
  unfold statuses at h ⊢
  rw [List.getElem?_map, getElem?_observe] at h
  split at h
  · -- the node that answers has the status of its answer
    rw [Option.map_map] at h
    obtain ⟨s, -, hs⟩ := Option.map_eq_some_iff.mp h
    rw [Function.comp_apply, Sighting.after_status] at hs
    cases a <;> cases hs
  · next hne =>
    rw [List.getElem?_map]
    exact ⟨Ne.symm hne, h⟩

end Watch

namespace WatchTable

/-- An answer that has just come is no news to a table. -/
theorem observe_observe_snd_ne (t : WatchTable) (id : CorrelationId) (node : Nat) (a : Answer)
    (frontier : UInt64) :
    ((t.observe id node a frontier).1.observe id node a frontier).2 ≠ some true := by
  change ((t.observe id node a frontier).1.get? id).map _ ≠ some true
  rw [get?_observe, Option.map_map]
  simp [Function.comp_def, Watch.observe_observe]

end WatchTable

namespace Run

variable {r r' : Run} {reply : RunReply} {id : CorrelationId} {node : Nat} {a : Answer}
  {now : Moment}

theorem observe_of_isSettled (hr : r.isSettled = true) (id : CorrelationId) (node : Nat)
    (a : Answer) (now : Moment) : r.observe id node a now = (r, none) := by
  rw [observe, if_pos hr]

/-- Whatever an answer has done to a run, its redelivery does nothing. -/
theorem Reaction.redelivered (hr : r.report = none)
    (hreact : Reaction r (.observe id node a now) r' reply) (later : Moment) :
    r'.observe id node a later = (r', none) := by
  cases hreact with
  -- the watch has just been told the answer, at the frontier that the node still has
  | noted _ => exact observe_of_no_news hr (WatchTable.observe_observe_snd_ne _ _ _ _ _)
  | retired hw _ _ _ =>
    -- nothing is watched under the id any more
    rw [retire_eq hw]
    refine observe_of_no_news hr ?_
    change ((r.watches.remove id).1.get? id).map _ ≠ some true
    rw [WatchTable.get?_remove, if_pos rfl, Option.map_none]
    nofun
  -- the run has settled
  | completed _ _ _ _ => exact observe_of_isSettled rfl id node a later
  | forked _ _ => exact observe_of_isSettled rfl id node a later

theorem Orderly.observe_observe (h : r.Orderly) (id : CorrelationId) (node : Nat) (a : Answer)
    (now later : Moment) :
    (r.observe id node a now).1.observe id node a later = ((r.observe id node a now).1, none) := by
  cases hr : r.report with
  | none => exact (reaction_observe hr h.allOpen id node a now).redelivered hr later
  | some rep =>
    have hsettled := isSettled_eq_true hr
    rw [observe_of_isSettled hsettled, observe_of_isSettled hsettled]

/-- **Answers may come twice.** The flag of an answer says whether the watch has changed. An answer
touches neither the sighting of any other node, nor the id, nor the moment of the submission, and
makes no status unknown. If it comes to a run a second time, at whatever moment and whatever it has
done the first time, then the run stays as it is and gives no verdict. -/
theorem redelivery_harmless :
    (∀ (w : Watch) (node : Nat) (a : Answer) (frontier : UInt64),
      let w' := (w.observe node a frontier).1
      ((w.observe node a frontier).2 = true ↔ w' ≠ w) ∧
      (∀ i : Nat, i ≠ node → w'.sightings[i]? = w.sightings[i]?) ∧
      (w'.sightings.length = w.sightings.length ∧ w'.id = w.id ∧ w'.submittedAt = w.submittedAt) ∧
      ∀ i : Nat, w'.statuses[i]? = some .unknown → i ≠ node ∧ w.statuses[i]? = some .unknown) ∧
    ∀ (nodes : NodeList) (target : UInt32) (deadlines : Deadlines) (es : List RunEvent)
      (id : CorrelationId) (node : Nat) (a : Answer) (now later : Moment),
      let r := (((start nodes target deadlines).after es).observe id node a now).1
      r.observe id node a later = (r, none) := by
  refine ⟨fun w node a frontier => ⟨w.observe_snd_eq_true_iff node a frontier, fun i hne => ?_,
    ⟨w.length_observe node a frontier, w.observe_id node a frontier,
      w.observe_submittedAt node a frontier⟩, fun i => w.unknown_of_observe node a frontier⟩,
    fun nodes target deadlines es id node a now later =>
      (orderly_after nodes target deadlines es).observe_observe id node a now later⟩
  rw [Watch.getElem?_observe, if_neg hne.symm]

end Run

end ChainWatch
