import ChainWatch.Watch.Table
import ChainWatch.Proofs.Watch.Sighting
import Mathlib.Data.List.Nodup

/-!
# The table of watches as a set of watches

Ids ascend in a table, so an id names at most one of its watches (`nodup_ids`,
`eq_of_id_eq`), and `WatchTable.get?` is membership under an id (`get?_eq_some_iff`). This file says
what the operations do to the watches and to their number:

* adding an id that is not there brings one fresh watch (`mem_add_iff`, `size_add`);
* observing changes the one watch of an id (`watches_observe`, `size_observe`), and nothing at all
  if the answer is no news (`observe_eq_self`);
* removing an id that is there drops one watch (`mem_remove_iff`, `size_remove`).

What they do to the watch that is found under an id is `get?_add`, `get?_observe` and `get?_remove`.

Two tables with the same watches are equal (`ext_watches`): that the ids ascend is a proof.
-/

namespace ChainWatch

/-- Inserting a watch makes the list longer by one. -/
theorem length_insertWatch (w : Watch) (ws : List Watch) :
    (insertWatch w ws).length = ws.length + 1 := by
  induction ws with
  | nil => rfl
  | cons v vs ih =>
    unfold insertWatch
    -- the watch comes before the first one or somewhere among the rest
    split
    · rfl
    · rw [List.length_cons, ih, List.length_cons]

namespace Watch

variable (w : Watch) (node : Nat) (a : Answer) (frontier : UInt64)

@[simp] theorem observe_submittedAt :
    (w.observe node a frontier).1.submittedAt = w.submittedAt := by
  unfold observe
  split <;> rfl

/-- An answer changes the sighting of its own node only. -/
theorem getElem?_observe (i : Nat) :
    (w.observe node a frontier).1.sightings[i]?
      = if node = i then w.sightings[i]?.map fun s => s.after a frontier else w.sightings[i]? := by
  unfold observe sighting?
  split
  · next hnone =>
    -- there is no such node, and nothing changes anywhere
    split
    · next hi => rw [← hi, hnone, Option.map_none]
    · rfl
  · next s hs =>
    -- the position is in the list, so that the new sighting stands there
    have hlt : node < w.sightings.length := (List.getElem?_eq_some_iff.mp hs).1
    simp only [List.getElem?_set, hlt, if_true]
    split
    · next hi => rw [← hi, hs, Option.map_some]
    · rfl

@[simp] theorem length_observe :
    (w.observe node a frontier).1.sightings.length = w.sightings.length := by
  unfold observe
  split
  · rfl
  · rw [List.length_set]

/-- An answer that is no news leaves the watch as it is. -/
theorem observe_eq_self (h : (w.observe node a frontier).2 = false) :
    (w.observe node a frontier).1 = w := by
  unfold observe sighting? at h ⊢
  split
  · rfl
  · next s hs =>
    simp only [hs] at h
    rw [(s.isNews_eq_false_iff a frontier).mp h]
    obtain ⟨hlt, hget⟩ := List.getElem?_eq_some_iff.mp hs
    rw [← hget, List.set_getElem_self]

/-- Watches of one transaction are equal if they know the same of every node. -/
theorem ext_sightings {v w : Watch} (hid : v.id = w.id) (htime : v.submittedAt = w.submittedAt)
    (hsightings : ∀ node : Nat, v.sightings[node]? = w.sightings[node]?) : v = w := by
  cases v
  cases w
  cases hid
  cases htime
  cases List.ext_getElem? hsightings
  rfl

end Watch

namespace WatchTable

variable {t : WatchTable} {id : CorrelationId} {v w : Watch}

/-- A table is its watches and its number of nodes. -/
theorem ext_watches {t u : WatchTable} (hcount : t.nodeCount = u.nodeCount)
    (hwatches : t.watches = u.watches) : t = u := by
  cases t
  cases u
  cases hcount
  cases hwatches
  rfl

/-! ### One watch for an id -/

/-- No id is watched twice. -/
theorem nodup_ids (t : WatchTable) : t.ids.Nodup := by
  refine List.pairwise_map.mpr (t.isAscending.imp ?_)
  intro v w hlt heq
  rw [heq] at hlt
  exact CorrelationId.lt_irrefl _ hlt

theorem nodup_watches (t : WatchTable) : t.watches.Nodup := t.nodup_ids.of_map Watch.id

/-- The order of the ids is no more than a way to write a set of watches down. -/
theorem ext_mem {t u : WatchTable} (hcount : t.nodeCount = u.nodeCount)
    (hmem : ∀ w, w ∈ t.watches ↔ w ∈ u.watches) : t = u := by
  -- the same watches without repetition are a permutation
  have hperm : t.watches.Perm u.watches :=
    (List.perm_ext_iff_of_nodup t.nodup_watches u.nodup_watches).mpr hmem
  -- and there is one order only in which their ids ascend
  refine ext_watches hcount (hperm.eq_of_pairwise ?_ t.isAscending u.isAscending)
  intro v w _ _ hvw hwv
  exact absurd (CorrelationId.lt_trans hvw hwv) (CorrelationId.lt_irrefl _)

/-- So a watch in a table is known by its id. -/
theorem eq_of_id_eq (hv : v ∈ t.watches) (hw : w ∈ t.watches) (h : v.id = w.id) : v = w :=
  List.inj_on_of_nodup_map t.nodup_ids hv hw h

/-- What is found under an id is the watch with this id. -/
theorem get?_eq_some_iff : t.get? id = some w ↔ w ∈ t.watches ∧ w.id = id := by
  constructor
  · intro h
    exact ⟨List.mem_of_find?_eq_some h, by simpa using List.find?_some h⟩
  · rintro ⟨hw, rfl⟩
    -- the search finds some watch with this id, and there is one only
    cases hget : t.get? w.id with
    | none =>
      have hne : w.id ≠ w.id := by simpa using List.find?_eq_none.mp hget w hw
      exact absurd rfl hne
    | some v =>
      have hv : v.id = w.id := by simpa using List.find?_some hget
      rw [eq_of_id_eq (List.mem_of_find?_eq_some hget) hw hv]

theorem get?_of_mem (hw : w ∈ t.watches) : t.get? w.id = some w :=
  get?_eq_some_iff.mpr ⟨hw, rfl⟩

/-- The watch of an id is the only one with this id. -/
theorem eq_of_get? (hw : t.get? id = some w) (hv : v ∈ t.watches) (hid : v.id = id) : v = w := by
  obtain ⟨hmem, hwid⟩ := get?_eq_some_iff.mp hw
  exact eq_of_id_eq hv hmem (hid.trans hwid.symm)

/-- An id is watched if something is found under it. -/
theorem mem_ids_iff : id ∈ t.ids ↔ (t.get? id).isSome = true := by
  rw [Option.isSome_iff_exists]
  simp only [ids, List.mem_map, get?_eq_some_iff]

/-- An id that is less than another comes before it. -/
theorem mem_before_of_lt {before later : List CorrelationId}
    (hids : t.ids = before ++ id :: later) (hw : w ∈ t.watches) (hlt : w.id < id) :
    w.id ∈ before := by
  have hmem : w.id ∈ before ++ id :: later := hids ▸ List.mem_map_of_mem hw
  have hascending : (before ++ id :: later).Pairwise (· < ·) :=
    hids ▸ List.pairwise_map.mpr t.isAscending
  -- it is neither the id itself nor after it, for there it would be greater
  rcases List.mem_append.mp hmem with hbefore | hrest
  · exact hbefore
  · rcases List.mem_cons.mp hrest with heq | hlater
    · exact absurd (heq ▸ hlt) (CorrelationId.lt_irrefl _)
    · have hgt : id < w.id :=
        List.rel_of_pairwise_cons (List.pairwise_append.mp hascending).2.1 hlater
      exact absurd (CorrelationId.lt_trans hlt hgt) (CorrelationId.lt_irrefl _)

/-! ### Adding -/

theorem add_snd (t : WatchTable) (id : CorrelationId) (now : Moment) :
    (t.add id now).2 = (t.get? id).isNone := by
  unfold add
  split
  · next h => simp [h]
  · next h => simp [h]

/-- A new id gets a fresh watch, at its place among the others. -/
theorem watches_add (h : t.get? id = none) (now : Moment) :
    (t.add id now).1.watches = insertWatch (.fresh id now t.nodeCount) t.watches := by
  unfold add
  split
  · next hsome => rw [h] at hsome; cases hsome
  · rfl

/-- An id that is watched is refused, and the table stays as it is. -/
theorem add_eq_self (h : t.get? id = some w) (now : Moment) : (t.add id now).1 = t := by
  unfold add
  split
  · rfl
  · next hnone => rw [h] at hnone; cases hnone

@[simp] theorem nodeCount_add (t : WatchTable) (id : CorrelationId) (now : Moment) :
    (t.add id now).1.nodeCount = t.nodeCount := by
  unfold add
  split <;> rfl

/-- Adding a new id brings the fresh watch in and loses none. -/
theorem mem_add_iff (h : t.get? id = none) (now : Moment) :
    w ∈ (t.add id now).1.watches ↔ w = .fresh id now t.nodeCount ∨ w ∈ t.watches := by
  rw [watches_add h, mem_insertWatch]

/-- An id is watched once it is added, as before if it was watched then. -/
theorem get?_add (t : WatchTable) (id : CorrelationId) (now : Moment) (i : CorrelationId) :
    (t.add id now).1.get? i
      = if id = i then some ((t.get? i).getD (.fresh i now t.nodeCount)) else t.get? i := by
  cases hid : t.get? id with
  | some w =>
    rw [add_eq_self hid]
    split
    · next heq => rw [← heq, hid, Option.getD_some]
    · rfl
  | none =>
    -- an id that was not watched: compare what can be found before and after
    refine Option.ext fun w => ?_
    rw [get?_eq_some_iff, mem_add_iff hid]
    split
    · next heq =>
      subst heq
      rw [hid, Option.getD_none, Option.some.injEq, eq_comm (a := Watch.fresh ..)]
      refine ⟨fun ⟨hw, hwid⟩ => ?_, fun hw => ⟨Or.inl hw, by rw [hw]; rfl⟩⟩
      -- under the new id there is the fresh watch, and nothing that was there before
      refine hw.resolve_right fun hmem => ?_
      rw [get?_eq_some_iff.mpr ⟨hmem, hwid⟩] at hid
      cases hid
    · next hne =>
      rw [get?_eq_some_iff]
      -- under any other id the fresh watch is not found
      refine and_congr_left fun hwid => or_iff_right ?_
      rintro rfl
      exact hne hwid

/-- Adding an id leaves what is found under the others. -/
theorem get?_add_of_ne {i : CorrelationId} (hne : id ≠ i) (now : Moment) :
    (t.add id now).1.get? i = t.get? i := by
  rw [get?_add, if_neg hne]

/-- The order in which two watches are added does not show. -/
theorem add_comm {id' : CorrelationId} (h : t.get? id = none) (h' : t.get? id' = none)
    (hne : id ≠ id') (now now' : Moment) :
    ((t.add id now).1.add id' now').1 = ((t.add id' now').1.add id now).1 := by
  have hnew : (t.add id now).1.get? id' = none := (get?_add_of_ne hne now).trans h'
  have hnew' : (t.add id' now').1.get? id = none := (get?_add_of_ne hne.symm now').trans h
  -- in both orders the same two watches are new
  refine ext_mem (by simp only [nodeCount_add]) fun w => ?_
  rw [mem_add_iff hnew, mem_add_iff h, mem_add_iff hnew', mem_add_iff h', nodeCount_add,
    nodeCount_add]
  exact or_left_comm

theorem size_add (h : t.get? id = none) (now : Moment) : (t.add id now).1.size = t.size + 1 := by
  unfold size
  rw [watches_add h, length_insertWatch]

/-! ### Observing -/

section Observing

variable (t) (id) (node : Nat) (a : Answer) (frontier : UInt64)

/-- An answer is told to the one watch with its id. -/
theorem watches_observe :
    (t.observe id node a frontier).1.watches
      = t.watches.map fun w => if w.id = id then (w.observe node a frontier).1 else w := rfl

@[simp] theorem size_observe : (t.observe id node a frontier).1.size = t.size := by
  unfold size
  rw [watches_observe, List.length_map]

/-- An answer that is no news to the watch of its id, or whose id is not watched, changes
nothing. -/
theorem observe_eq_self (h : (t.observe id node a frontier).2 ≠ some true) :
    (t.observe id node a frontier).1 = t := by
  refine ext_watches rfl ?_
  rw [watches_observe]
  refine (List.map_congr_left ?_).trans (List.map_id _)
  intro w hw
  simp only [id_eq]
  split
  · next hid =>
    -- the flag of the table is that of the one watch it has found
    refine w.observe_eq_self node a frontier ?_
    simpa [observe, get?_eq_some_iff.mpr ⟨hw, hid⟩] using h
  · rfl

end Observing

/-- An answer reaches the watch of its id only. -/
theorem get?_observe (t : WatchTable) (id : CorrelationId) (node : Nat) (a : Answer)
    (frontier : UInt64) (i : CorrelationId) :
    (t.observe id node a frontier).1.get? i
      = (t.get? i).map fun w => if id = i then (w.observe node a frontier).1 else w := by
  refine Option.ext fun w => ?_
  rw [get?_eq_some_iff, watches_observe, List.mem_map, Option.map_eq_some_iff]
  simp only [get?_eq_some_iff]
  constructor
  · rintro ⟨⟨v, hv, rfl⟩, hid⟩
    -- to be told something does not change an id
    have hvid : v.id = i := by
      rw [← hid]
      split <;> simp
    exact ⟨v, ⟨hv, hvid⟩, by simp only [hvid, eq_comm (a := i)]⟩
  · rintro ⟨v, ⟨hv, rfl⟩, rfl⟩
    refine ⟨⟨v, hv, by simp only [eq_comm (a := id)]⟩, ?_⟩
    split <;> simp

/-! ### Removing -/

theorem mem_remove_iff : w ∈ (t.remove id).1.watches ↔ w ∈ t.watches ∧ w.id ≠ id := by
  simp [remove]

/-- Removing an id leaves what is found under the others. -/
theorem get?_remove (t : WatchTable) (id i : CorrelationId) :
    (t.remove id).1.get? i = if id = i then none else t.get? i := by
  refine Option.ext fun w => ?_
  rw [get?_eq_some_iff, mem_remove_iff]
  split
  · next heq => simp [heq]
  · next hne =>
    rw [get?_eq_some_iff]
    refine and_congr_left fun hwid => and_iff_left ?_
    rintro rfl
    exact hne hwid

@[simp] theorem get?_clear (t : WatchTable) (i : CorrelationId) : t.clear.get? i = none := rfl

/-- Removing an id that is watched makes the table smaller by one. -/
theorem size_remove (h : t.get? id = some w) : (t.remove id).1.size + 1 = t.size := by
  have hmem : id ∈ t.ids := by
    rw [mem_ids_iff, h]
    rfl
  -- counted by the ids, of which one is erased
  have hids : (t.remove id).1.ids = t.ids.erase id := by
    rw [t.nodup_ids.erase_eq_filter]
    simp [ids, remove, List.filter_map, Function.comp_def, bne, Bool.beq_eq_decide_eq]
  have hlen : ∀ u : WatchTable, u.size = u.ids.length := fun u => by simp [size, ids]
  rw [hlen, hlen, hids, List.length_erase_of_mem hmem]
  have hpos := List.length_pos_of_mem hmem
  omega

/-- The watch that is dropped may as well be observed before. -/
theorem remove_observe (t : WatchTable) (id : CorrelationId) (node : Nat) (a : Answer)
    (frontier : UInt64) :
    ((t.observe id node a frontier).1.remove id).1 = (t.remove id).1 := by
  refine ext_watches rfl ?_
  -- the one watch that could have changed is filtered out
  change ((t.watches.map fun w => if w.id = id then (w.observe node a frontier).1 else w).filter
      fun w => w.id ≠ id) = t.watches.filter fun w => w.id ≠ id
  induction t.watches with
  | nil => rfl
  | cons w ws ih =>
    rw [List.map_cons]
    by_cases hid : w.id = id
    · simpa [hid] using ih
    · simpa [hid] using ih

end WatchTable

end ChainWatch
