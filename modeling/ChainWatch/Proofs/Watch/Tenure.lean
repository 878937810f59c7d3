import ChainWatch.Proofs.Watch.History

/-!
# The table of watches along events

What is done to a table of watches is data here: a `TableEvent` adds a transaction, tells its watch
an answer, or ends one watch or all of them. This file says what a table holds after any events, in
terms of the events alone (`faithful_map`).

An id is watched from an add that finds it unwatched to the next event that ends its watch. While
this lasts (`Tenure`), adding it again changes nothing, and the watch is told what is addressed to
its id. So the table holds, for every id with a tenure, a fresh watch of the time of the add that
has been told since what was addressed to it (`get?_after_eq_some_iff`); what happens to other ids
does not come into it. One event does to one id what `get?_react_eq_some_iff` says, and the
induction goes along the events from their end, where `tenure_concat_iff` is the step.
-/

namespace ChainWatch

/-- One thing that is done to a table of watches. -/
inductive TableEvent where
  /-- A transaction is to be watched. -/
  | add (id : CorrelationId) (now : Moment)
  /-- A watch is told an answer. -/
  | observe (id : CorrelationId) (notice : Notice)
  /-- A transaction is no longer to be watched. -/
  | remove (id : CorrelationId)
  /-- Nothing is to be watched any longer. -/
  | clear

namespace TableEvent

/-- The id that an event is about; one kind of event is about all ids. -/
def id? : TableEvent → Option CorrelationId
  | .add id _ => some id
  | .observe id _ => some id
  | .remove id => some id
  | .clear => none

/-- Does an event end the watch of an id? -/
def Ends (id : CorrelationId) : TableEvent → Prop
  | .remove i => i = id
  | .clear => True
  | _ => False

/-- What an event addresses to an id. -/
def notices (id : CorrelationId) : TableEvent → List Notice
  | .observe i notice => if i = id then [notice] else []
  | _ => []

end TableEvent

/-- What some events address to an id, in their order. -/
def addressedTo (id : CorrelationId) (es : List TableEvent) : List Notice :=
  es.flatMap (TableEvent.notices id)

theorem addressedTo_concat (id : CorrelationId) (es : List TableEvent) (e : TableEvent) :
    addressedTo id (es ++ [e]) = addressedTo id es ++ e.notices id := by
  unfold addressedTo
  rw [List.flatMap_append, List.flatMap_singleton]

namespace WatchTable

variable {t : WatchTable} {e : TableEvent} {id : CorrelationId} {w : Watch}

/-- The table after an event. -/
def react (t : WatchTable) : TableEvent → WatchTable
  | .add id now => (t.add id now).1
  | .observe id n => (t.observe id n.node n.answer n.frontier).1
  | .remove id => (t.remove id).1
  | .clear => t.clear

/-- The table after some events. -/
def after (t : WatchTable) (es : List TableEvent) : WatchTable := es.foldl react t

theorem after_concat (t : WatchTable) (es : List TableEvent) (e : TableEvent) :
    t.after (es ++ [e]) = (t.after es).react e := List.foldl_concat ..

theorem after_append (t : WatchTable) (es fs : List TableEvent) :
    t.after (es ++ fs) = (t.after es).after fs := List.foldl_append

/-! ### One event -/

@[simp] theorem nodeCount_react (t : WatchTable) (e : TableEvent) :
    (t.react e).nodeCount = t.nodeCount := by
  cases e with
  | add id now => exact t.nodeCount_add id now
  | _ => rfl

@[simp] theorem nodeCount_after (t : WatchTable) (es : List TableEvent) :
    (t.after es).nodeCount = t.nodeCount := by
  induction es using List.reverseRecOn with
  | nil => rfl
  | append_singleton es e ih => rw [after_concat, nodeCount_react, ih]

/-- The watch of an id after an event: a fresh one if it is added now, and else the one from before,
told what is addressed to it, unless the event ends it. -/
theorem get?_react_eq_some_iff :
    (t.react e).get? id = some w ↔
      (∃ now, e = .add id now ∧ t.get? id = none ∧ w = .fresh id now t.nodeCount) ∨
        ¬ e.Ends id ∧ ∃ v, t.get? id = some v ∧ w = v.observeAll (e.notices id) := by
  cases e with
  | add i now =>
    rw [react, get?_add]
    -- an event about another id does not come into it
    by_cases hid : i = id
    · subst hid
      -- the add is refused if there is a watch, which is told nothing by it
      cases hget : t.get? i <;> simp [TableEvent.Ends, TableEvent.notices, eq_comm]
    · simp [hid, TableEvent.Ends, TableEvent.notices]
  | observe i n =>
    rw [react, get?_observe, Option.map_eq_some_iff]
    by_cases hid : i = id
    · simp [hid, TableEvent.Ends, TableEvent.notices, eq_comm (a := w)]
    · simp [hid, TableEvent.Ends, TableEvent.notices]
  | remove i =>
    rw [react, get?_remove]
    by_cases hid : i = id
    · simp [hid, TableEvent.Ends]
    · simp [hid, TableEvent.Ends, TableEvent.notices]
  | clear => simp [react, TableEvent.Ends]

/-- An event leaves the watches of other ids as they are. -/
theorem get?_react_of_ne {i : CorrelationId} (he : e.id? = some i) (hne : i ≠ id) :
    (t.react e).get? id = t.get? id := by
  cases e with
  | add j now =>
    cases he
    exact get?_add_of_ne hne now
  | observe j n =>
    cases he
    rw [react, get?_observe]
    simp [hne]
  | remove j =>
    cases he
    rw [react, get?_remove, if_neg hne]
  | clear => cases he

theorem add_of_mem_ids (h : id ∈ t.ids) (now : Moment) : t.add id now = (t, false) := by
  obtain ⟨w, hw⟩ := Option.isSome_iff_exists.mp (mem_ids_iff.mp h)
  refine Prod.ext (add_eq_self hw now) ?_
  rw [add_snd, hw]
  rfl

/-! ### Tenures -/

/-- Along some events, an id was added at a moment, when it was not watched, and these events have
followed since, none of which has ended its watch. So if they add it again, they are refused. -/
def Tenure (t : WatchTable) (es : List TableEvent) (id : CorrelationId) (now : Moment)
    (since : List TableEvent) : Prop :=
  ∃ before, es = before ++ .add id now :: since ∧ ((t.after before).add id now).2 = true ∧
    ∀ e ∈ since, ¬ e.Ends id

variable {es : List TableEvent} {now : Moment} {since : List TableEvent}

/-- One event more begins a tenure, or goes on with one that it does not end. -/
theorem tenure_concat_iff :
    t.Tenure (es ++ [e]) id now since ↔
      since = [] ∧ e = .add id now ∧ (t.after es).get? id = none ∨
        ∃ earlier, since = earlier ++ [e] ∧ t.Tenure es id now earlier ∧ ¬ e.Ends id := by
  -- an add is refused exactly if there is a watch already
  have hadded (before : List TableEvent) :
      ((t.after before).add id now).2 = true ↔ (t.after before).get? id = none := by
    rw [add_snd, Option.isNone_iff_eq_none]
  constructor
  · rintro ⟨before, heq, hnew, hends⟩
    -- the tenure begins with the last event, or had begun before it
    rcases List.eq_nil_or_concat' since with rfl | ⟨earlier, last, rfl⟩
    · obtain ⟨rfl, hlast⟩ := List.append_inj' heq rfl
      cases hlast
      exact Or.inl ⟨rfl, rfl, (hadded es).mp hnew⟩
    · rw [← List.cons_append, ← List.append_assoc] at heq
      obtain ⟨rfl, hlast⟩ := List.append_inj' heq rfl
      cases hlast
      obtain ⟨hearlier, hlast⟩ := List.forall_mem_append.mp hends
      exact Or.inr ⟨earlier, rfl, ⟨before, rfl, hnew, hearlier⟩, hlast e (List.mem_singleton_self e)⟩
  · rintro (⟨rfl, rfl, hnew⟩ | ⟨earlier, rfl, ⟨before, rfl, hnew, hends⟩, hlast⟩)
    · exact ⟨es, rfl, (hadded es).mpr hnew, nofun⟩
    · refine ⟨before, by simp, hnew, ?_⟩
      exact List.forall_mem_append.mpr ⟨hends, List.forall_mem_singleton.mpr hlast⟩

/-- From a table without watches on, an id is watched iff it has a tenure, by a fresh watch that was
told what was addressed to the id since. -/
theorem get?_after_eq_some_iff (ht : t.watches = []) :
    (t.after es).get? id = some w ↔ ∃ now since, t.Tenure es id now since ∧
      w = (Watch.fresh id now t.nodeCount).observeAll (addressedTo id since) := by
  induction es using List.reverseRecOn generalizing w with
  | nil =>
    -- nothing is watched, and nothing was added
    have hnone : t.get? id = none := by
      unfold get?
      rw [ht, List.find?_nil]
    refine iff_of_false (by rw [after, List.foldl_nil, hnone]; nofun) ?_
    rintro ⟨now, since, ⟨before, heq, -⟩, -⟩
    simp at heq
  | append_singleton es e ih =>
    rw [after_concat, get?_react_eq_some_iff, nodeCount_after]
    simp only [tenure_concat_iff]
    constructor
    · rintro (⟨now, he, hnone, hw⟩ | ⟨hends, v, hv, rfl⟩)
      · exact ⟨now, [], Or.inl ⟨rfl, he, hnone⟩, hw⟩
      · -- the tenure goes on, and what is addressed to the id now comes last
        obtain ⟨now, since, htenure, rfl⟩ := ih.mp hv
        refine ⟨now, since ++ [e], Or.inr ⟨since, rfl, htenure, hends⟩, ?_⟩
        rw [addressedTo_concat, Watch.observeAll_append]
    · rintro ⟨now, since, ⟨rfl, he, hnone⟩ | ⟨earlier, rfl, htenure, hends⟩, hw⟩
      · exact Or.inl ⟨now, he, hnone, hw⟩
      · refine Or.inr ⟨hends, _, ih.mpr ⟨now, earlier, htenure, rfl⟩, ?_⟩
        rw [hw, addressedTo_concat, Watch.observeAll_append]

/-! ### What is watched -/

/-- What is watched stays so until an event ends it. -/
theorem mem_ids_after (h : id ∈ t.ids) (hends : ∀ e ∈ es, ¬ e.Ends id) : id ∈ (t.after es).ids := by
  induction es using List.reverseRecOn with
  | nil => exact h
  | append_singleton es e ih =>
    obtain ⟨hearlier, hlast⟩ := List.forall_mem_append.mp hends
    have hbefore := ih hearlier
    rw [mem_ids_iff, Option.isSome_iff_exists] at hbefore ⊢
    obtain ⟨v, hv⟩ := hbefore
    rw [after_concat]
    -- the watch is told what is addressed to it, and it is still there
    refine ⟨v.observeAll (e.notices id), get?_react_eq_some_iff.mpr ?_⟩
    exact Or.inr ⟨hlast e (List.mem_singleton_self e), v, hv, rfl⟩

/-- The ids that are watched are those that were added and whose watch has not been ended since. -/
theorem mem_ids_after_iff (ht : t.watches = []) :
    id ∈ (t.after es).ids ↔
      ∃ before now since, es = before ++ .add id now :: since ∧ ∀ e ∈ since, ¬ e.Ends id := by
  constructor
  · -- the last add of an id need not have begun its tenure, but the one that has will do
    intro hid
    obtain ⟨w, hw⟩ := Option.isSome_iff_exists.mp (mem_ids_iff.mp hid)
    obtain ⟨now, since, ⟨before, heq, -, hends⟩, -⟩ := (get?_after_eq_some_iff ht).mp hw
    exact ⟨before, now, since, heq, hends⟩
  · rintro ⟨before, now, since, rfl, hends⟩
    rw [after_append]
    refine mem_ids_after (t := (t.after before).react (.add id now)) ?_ hends
    rw [mem_ids_iff, react, get?_add, if_pos rfl]
    rfl

/-- **The table is a faithful ordered map.** Whatever is done to a new table: its ids ascend in the
order of their bytes, and are those that were added and neither removed nor cleared since. Its
number of watches, its emptiness and what is found in it agree with the ids. Adding an id that is
watched is refused and changes nothing. The watch of an id is a fresh one, of the moment of its last
add that was not refused, after what was addressed to the id since; and what is done to one id
leaves the watches of all others as they are. -/
theorem faithful_map (nodeCount : Nat) (es : List TableEvent) :
    let new : WatchTable := { nodeCount := nodeCount }
    let t := new.after es
    (t.ids.Pairwise fun i j => i.bytes < j.bytes) ∧
    (∀ id, id ∈ t.ids ↔
      ∃ before now since, es = before ++ .add id now :: since ∧ ∀ e ∈ since, ¬ e.Ends id) ∧
    (t.size = t.ids.length ∧ (t.isEmpty = true ↔ t.ids = []) ∧
      ∀ id, (t.get? id).isSome = true ↔ id ∈ t.ids) ∧
    (∀ id now, (id ∈ t.ids → t.add id now = (t, false)) ∧
      (id ∉ t.ids → (t.add id now).2 = true)) ∧
    (∀ id w, t.get? id = some w ↔ ∃ now since, new.Tenure es id now since ∧
      w = (Watch.fresh id now nodeCount).observeAll (addressedTo id since)) ∧
    ∀ e i id, e.id? = some i → i ≠ id → (t.react e).get? id = t.get? id := by
  intro new t
  refine ⟨List.pairwise_map.mpr t.isAscending, fun id => mem_ids_after_iff rfl, ⟨?_, ?_, ?_⟩,
    fun id now => ⟨fun h => add_of_mem_ids h now, fun h => ?_⟩,
    fun id w => get?_after_eq_some_iff rfl, fun e i id => get?_react_of_ne⟩
  · rw [size, ids, List.length_map]
  · rw [isEmpty, List.isEmpty_iff, ids, List.map_eq_nil_iff]
  · exact fun id => mem_ids_iff.symm
  · rw [mem_ids_iff, Bool.not_eq_true, Option.isSome_eq_false_iff] at h
    rwa [add_snd]

/-- A watch that is added again while it is there goes on, and one that was removed starts anew. -/
example :
    let rejection : Notice := ⟨0, .rejected, 0⟩
    let t := ({ nodeCount := 1 } : WatchTable).after
      [.add .zero .start, .observe .zero rejection, .add .zero (.ofMillis 1)]
    t.get? .zero = some ((Watch.fresh .zero .start 1).observeAll [rejection]) ∧
      (t.after [.remove .zero, .add .zero (.ofMillis 1)]).get? .zero
        = some (.fresh .zero (.ofMillis 1) 1) := by
  decide

end WatchTable

end ChainWatch
