import ChainWatch.Watch.Basic

/-!
# The table of watches

A `WatchTable` holds the watches that are in flight, one for an id, in the order of their ids. So
the order in which watches are looked at depends on nothing but the ids; that it is kept is part of
the type. Every watch follows the same number of nodes.

A table is seen through `WatchTable.get?`. Adding an id that is there changes nothing and is
refused; observing or removing one that is not there changes nothing.
-/

namespace ChainWatch

namespace CorrelationId

theorem lt_irrefl (a : CorrelationId) : ¬ a < a := List.lt_irrefl a.bytes

theorem lt_trans {a b c : CorrelationId} (hab : a < b) (hbc : b < c) : a < c :=
  List.lt_trans hab hbc

theorem lt_of_not_lt_of_ne {a b : CorrelationId} (hlt : ¬ a < b) (hne : a ≠ b) : b < a := by
  rcases List.le_total a.bytes b.bytes with h | h
  · rcases Decidable.em (b < a) with hba | hba
    · exact hba
    · exact absurd (List.le_antisymm h (List.not_lt.1 hlt)) fun hbytes => hne <| by
        cases a; cases b; cases hbytes; rfl
  · rcases Decidable.em (b < a) with hba | hba
    · exact hba
    · exact absurd (List.le_antisymm (List.not_lt.1 hba) (List.not_lt.1 hlt))
        fun hbytes => hne <| by
          cases a; cases b; cases hbytes; rfl

end CorrelationId

/-- Are the ids of some watches in ascending order, each there once? -/
def IsAscending (ws : List Watch) : Prop :=
  ws.Pairwise fun v w => v.id < w.id

theorem isAscending_nil : IsAscending [] := List.Pairwise.nil

/-- Put a watch before the first one with a greater id. -/
def insertWatch (w : Watch) : List Watch → List Watch
  | [] => [w]
  | v :: vs => if w.id < v.id then w :: v :: vs else v :: insertWatch w vs

theorem mem_insertWatch {w x : Watch} {ws : List Watch} :
    x ∈ insertWatch w ws ↔ x = w ∨ x ∈ ws := by
  induction ws with
  | nil => simp [insertWatch]
  | cons v vs ih =>
    simp only [insertWatch]
    split
    · simp
    · simp only [List.mem_cons, ih]
      constructor
      · rintro (h | h | h) <;> simp [h]
      · rintro (h | h | h) <;> simp [h]

theorem isAscending_insertWatch {w : Watch} {ws : List Watch} (h : IsAscending ws)
    (hnew : ∀ v ∈ ws, v.id ≠ w.id) : IsAscending (insertWatch w ws) := by
  induction ws with
  | nil => simp [insertWatch, IsAscending]
  | cons v vs ih =>
    obtain ⟨hv, hvs⟩ := List.pairwise_cons.1 h
    simp only [insertWatch]
    split
    · rename_i hlt
      refine List.pairwise_cons.2 ⟨fun x hx => ?_, h⟩
      rcases List.mem_cons.1 hx with rfl | hx
      · exact hlt
      · exact CorrelationId.lt_trans hlt (hv x hx)
    · rename_i hlt
      refine List.pairwise_cons.2 ⟨fun x hx => ?_, ih hvs fun y hy => hnew y (by simp [hy])⟩
      rcases mem_insertWatch.1 hx with rfl | hx
      · exact CorrelationId.lt_of_not_lt_of_ne hlt (hnew v (by simp)).symm
      · exact hv x hx

/-- The watches in flight. -/
structure WatchTable where
  nodeCount : Nat
  watches : List Watch := []
  isAscending : IsAscending watches := by exact isAscending_nil
deriving DecidableEq

namespace WatchTable

/-- The watch of an id. -/
def get? (t : WatchTable) (id : CorrelationId) : Option Watch :=
  t.watches.find? fun w => w.id = id

/-- The ids of the watches, in ascending order. -/
def ids (t : WatchTable) : List CorrelationId := t.watches.map Watch.id

/-- The number of watches. -/
def size (t : WatchTable) : Nat := t.watches.length

/-- Is nothing in flight? -/
def isEmpty (t : WatchTable) : Bool := t.watches.isEmpty

/-- Watch a transaction, and tell whether it was not watched before. -/
def add (t : WatchTable) (id : CorrelationId) (submittedAt : Moment) : WatchTable × Bool :=
  match h : t.get? id with
  | some _ => (t, false)
  | none =>
    ({ t with
        watches := insertWatch (.fresh id submittedAt t.nodeCount) t.watches
        isAscending := isAscending_insertWatch t.isAscending <| by
          intro v hv
          simpa using List.find?_eq_none.1 h v hv }, true)

/-- Change the watch of an id, keeping the id. -/
def modify (t : WatchTable) (id : CorrelationId) (f : Watch → Watch)
    (hf : ∀ w, (f w).id = w.id) : WatchTable :=
  { t with
    watches := t.watches.map fun w => if w.id = id then f w else w
    isAscending := by
      refine List.pairwise_map.2 (t.isAscending.imp fun {v w} h => ?_)
      have hid : ∀ u : Watch, (if u.id = id then f u else u).id = u.id := fun u => by
        split <;> simp [hf]
      rw [hid v, hid w]
      exact h }

/-- Apply the answer of a node with this frontier about a transaction, and tell whether it changed
anything. There is nothing to tell about a transaction that is not watched. -/
def observe (t : WatchTable) (id : CorrelationId) (node : Nat) (a : Answer) (frontier : UInt64) :
    WatchTable × Option Bool :=
  (t.modify id (fun w => (w.observe node a frontier).1) fun w => w.observe_id node a frontier,
    (t.get? id).map fun w => (w.observe node a frontier).2)

/-- Stop watching a transaction, and give its watch. -/
def remove (t : WatchTable) (id : CorrelationId) : WatchTable × Option Watch :=
  ({ t with
      watches := t.watches.filter fun w => w.id ≠ id
      isAscending := t.isAscending.filter _ }, t.get? id)

/-- Stop watching anything. -/
def clear (t : WatchTable) : WatchTable := { nodeCount := t.nodeCount }

end WatchTable

end ChainWatch
