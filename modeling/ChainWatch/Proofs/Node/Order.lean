import ChainWatch.Proofs.Node.List
import Mathlib.Algebra.Group.End
import Mathlib.Data.Finset.Card
import Mathlib.Data.Finset.Range

/-!
# The order of the nodes

A node is named by its position, so a list of nodes in another order comes with a renaming of
positions. `Moved σ l l'` says that `l'` has every entry of `l`, and that the entry at position `i`
is at position `σ i` there; a position outside the one list is taken to a position outside the
other.

Two lists are permutations of each other exactly if one is the other moved along some renaming; the
direction that has to find the renaming is `exists_moved_of_perm`. What is done to the entry of one
position, and to all entries alike, may be done before or after they are moved (`Moved.modify`,
`Moved.map`).
-/

namespace ChainWatch

/-- The entry of `l` at position `i` is the entry of `l'` at position `σ i`. -/
def Moved {α : Type} (σ : Equiv.Perm Nat) (l l' : List α) : Prop :=
  ∀ i, l'[σ i]? = l[i]?

namespace Moved

variable {α β : Type} {σ τ : Equiv.Perm Nat} {l l' l'' : List α}

/-- Nothing needs to be moved. -/
theorem refl (l : List α) : Moved 1 l l := fun _ => rfl

/-- Moving twice is moving along both renamings, the first one first. -/
theorem trans (h : Moved σ l l') (h' : Moved τ l' l'') : Moved (τ * σ) l l'' :=
  fun i => (h' (σ i)).trans (h i)

/-- Moving loses no entry and brings none in. -/
theorem mem_iff (h : Moved σ l l') {a : α} : a ∈ l' ↔ a ∈ l := by
  rw [List.mem_iff_getElem?, List.mem_iff_getElem?]
  constructor
  · rintro ⟨j, hj⟩
    -- an entry comes from the position that is moved to its own
    refine ⟨σ.symm j, ?_⟩
    rw [← h, σ.apply_symm_apply, hj]
  · rintro ⟨i, hi⟩
    exact ⟨σ i, (h i).trans hi⟩

/-- Only an empty list is moved to an empty list. -/
theorem eq_nil_iff (h : Moved σ l l') : l' = [] ↔ l = [] := by
  simp only [List.eq_nil_iff_forall_not_mem, h.mem_iff]

/-- Positions inside the one list are taken to positions inside the other. -/
theorem lt_length_iff (h : Moved σ l l') (i : Nat) : σ i < l'.length ↔ i < l.length := by
  rw [← Nat.not_le, ← Nat.not_le, ← List.getElem?_eq_none_iff, ← List.getElem?_eq_none_iff, h i]

/-- Moved lists are equally long, since the renaming matches their positions. -/
theorem length_eq (h : Moved σ l l') : l'.length = l.length := by
  -- the renaming takes the positions of one list to those of the other
  have hrange : (Finset.range l.length).map σ.toEmbedding = Finset.range l'.length := by
    ext j
    rw [Finset.mem_map_equiv, Finset.mem_range, Finset.mem_range, ← h.lt_length_iff,
      σ.apply_symm_apply]
  rw [← Finset.card_range l'.length, ← hrange, Finset.card_map, Finset.card_range]

/-- So the positions inside the list stay among themselves. -/
theorem mem_range_iff (h : Moved σ l l') (i : Nat) : σ i < l.length ↔ i < l.length := by
  rw [← h.lt_length_iff i, h.length_eq]

/-- What is done to all entries alike may be done before they are moved or after. -/
theorem map (h : Moved σ l l') (f : α → β) : Moved σ (l.map f) (l'.map f) := by
  intro i
  rw [List.getElem?_map, List.getElem?_map, h i]

/-- What is done to one entry may be done before it is moved or after, at the position that it is
moved to. -/
theorem modify (h : Moved σ l l') (i : Nat) (f : α → α) :
    Moved σ (l.modify i f) (l'.modify (σ i) f) := by
  intro j
  rw [List.getElem?_modify, List.getElem?_modify, h j]
  -- the position that is meant is moved too, and to no other's place
  simp only [σ.injective.eq_iff]

/-- A list of equal entries may be moved along any renaming that keeps its positions. -/
theorem replicate {n : Nat} (hσ : ∀ i, σ i < n ↔ i < n) (a : α) :
    Moved σ (List.replicate n a) (List.replicate n a) := by
  intro i
  simp only [List.getElem?_replicate, hσ i]

end Moved

/-! ### Finding the renaming -/

/-- The renaming of the positions of a tail, as one of a list whose first entry stays. -/
def shifted (σ : Equiv.Perm Nat) : Equiv.Perm Nat where
  toFun
    | 0 => 0
    | i + 1 => σ i + 1
  invFun
    | 0 => 0
    | i + 1 => σ.symm i + 1
  left_inv := by
    rintro (_ | i)
    · rfl
    · exact congrArg (· + 1) (σ.symm_apply_apply i)
  right_inv := by
    rintro (_ | i)
    · rfl
    · exact congrArg (· + 1) (σ.apply_symm_apply i)

/-- An entry in front of both lists stays there, and the renaming is shifted behind it. -/
theorem Moved.cons {α : Type} {σ : Equiv.Perm Nat} {l l' : List α} (h : Moved σ l l') (a : α) :
    Moved (shifted σ) (a :: l) (a :: l') := by
  rintro (_ | i)
  · rfl
  · exact h i

/-- The first two entries change places. -/
theorem Moved.swap {α : Type} (a b : α) (l : List α) :
    Moved (Equiv.swap 0 1) (b :: a :: l) (a :: b :: l) := by
  rintro (_ | _ | i)
  · rfl
  · rfl
  · rw [Equiv.swap_apply_of_ne_of_ne (by omega) (by omega)]
    rfl

/-- **A permutation moves entries**, by induction on how it is built. -/
theorem exists_moved_of_perm {α : Type} {l l' : List α} (h : l.Perm l') : ∃ σ, Moved σ l l' := by
  induction h with
  | nil => exact ⟨1, .refl _⟩
  | cons a _ ih =>
    obtain ⟨σ, hσ⟩ := ih
    exact ⟨shifted σ, hσ.cons a⟩
  | swap a b l => exact ⟨Equiv.swap 0 1, .swap a b l⟩
  | trans _ _ ih₁ ih₂ =>
    obtain ⟨σ, hσ⟩ := ih₁
    obtain ⟨τ, hτ⟩ := ih₂
    exact ⟨τ * σ, hσ.trans hτ⟩

/-! ### Lists of nodes -/

namespace NodeList

variable {σ : Equiv.Perm Nat} {l l' : NodeList} {entries entries' : List String}

/-- The nodes of two lists are moved as the entries are that they are read from. -/
theorem moved_of_ofUrls (h : ofUrls entries = .ok l) (h' : ofUrls entries' = .ok l')
    (hmoved : Moved σ entries entries') : Moved σ l.nodes l'.nodes := by
  obtain ⟨-, -, -, hnodes⟩ := ofUrls_eq_ok_iff.mp h
  obtain ⟨-, -, -, hnodes'⟩ := ofUrls_eq_ok_iff.mp h'
  rw [hnodes, hnodes']
  exact hmoved.map _

/-- A node takes its frontier along. -/
theorem frontier_of_moved (h : Moved σ l.nodes l'.nodes) (node : Nat) :
    l'.frontier (σ node) = l.frontier node := by
  unfold frontier get?
  rw [h node]

end NodeList

end ChainWatch
