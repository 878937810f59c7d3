import ChainWatch.Proofs.Watch.Classification
import Mathlib.Data.Prod.Lex
import Mathlib.Order.Bounds.Basic

/-!
# The fork that is found

Whether nodes hold a transaction in different blocks is a question about every two of them.
`Watch.disputes` asks it that way: it goes through all pairs of located nodes, in lexicographic
order, and keeps those whose blocks differ. It lists the pairs of nodes that are in dispute
(`mem_disputes_iff`), each before the greater ones (`pairwise_disputes`).

`Watch.fork?` compares with the first located node only, and yet what it gives is the first of these
disputes (`fork?_eq_head?_disputes`). If the first node agrees with all others, then they agree with
one another, and there is no dispute at all; if it does not, then no pair of other nodes comes
before the pairs that it is in. So a fork is found iff there is one, and it is the least
(`first_dispute_found`).
-/

namespace ChainWatch

/-! ### The pairs of a list -/

/-- Every two members of a list, the earlier one first, in the lexicographic order of their
places. -/
def pairs {α : Type} : List α → List (α × α)
  | [] => []
  | a :: as => as.map (fun b => (a, b)) ++ pairs as

section Pairs

variable {α : Type} {key : α → Nat} {as : List α}

theorem mem_of_mem_pairs {p : α × α} (h : p ∈ pairs as) : p.1 ∈ as ∧ p.2 ∈ as := by
  induction as with
  | nil => cases h
  | cons a as ih =>
    rcases List.mem_append.mp h with hfirst | hrest
    · obtain ⟨b, hb, rfl⟩ := List.mem_map.mp hfirst
      exact ⟨List.mem_cons_self .., List.mem_cons_of_mem _ hb⟩
    · obtain ⟨hleft, hright⟩ := ih hrest
      exact ⟨List.mem_cons_of_mem _ hleft, List.mem_cons_of_mem _ hright⟩

/-- If the keys of a list ascend, then its pairs are those whose keys do. -/
theorem mem_pairs_iff (has : as.Pairwise fun a b => key a < key b) {a b : α} :
    (a, b) ∈ pairs as ↔ a ∈ as ∧ b ∈ as ∧ key a < key b := by
  induction as with
  | nil => simp [pairs]
  | cons c as ih =>
    obtain ⟨hc, has⟩ := List.pairwise_cons.mp has
    rw [pairs, List.mem_append, ih has, List.mem_map]
    constructor
    · rintro (⟨d, hd, heq⟩ | ⟨ha, hb, hlt⟩)
      · cases heq
        exact ⟨List.mem_cons_self .., List.mem_cons_of_mem _ hd, hc _ hd⟩
      · exact ⟨List.mem_cons_of_mem _ ha, List.mem_cons_of_mem _ hb, hlt⟩
    · rintro ⟨ha, hb, hlt⟩
      rcases List.mem_cons.mp hb with hfirst | hb
      · -- nothing comes before the first member
        subst hfirst
        rcases List.mem_cons.mp ha with rfl | ha
        · exact absurd hlt (Nat.lt_irrefl _)
        · exact absurd hlt (Nat.lt_asymm (hc _ ha))
      · rcases List.mem_cons.mp ha with hfirst | ha
        · exact Or.inl ⟨b, hb, by rw [hfirst]⟩
        · exact Or.inr ⟨ha, hb, hlt⟩

/-- If the keys of a list ascend, then its pairs ascend lexicographically. -/
theorem pairwise_pairs (has : as.Pairwise fun a b => key a < key b) :
    (pairs as).Pairwise fun p q =>
      toLex (key p.1, key p.2) < toLex (key q.1, key q.2) := by
  induction as with
  | nil => exact List.Pairwise.nil
  | cons c as ih =>
    obtain ⟨hc, has⟩ := List.pairwise_cons.mp has
    refine List.pairwise_append.mpr ⟨?_, ih has, ?_⟩
    · -- the pairs of the first member are ordered by the other one
      refine List.pairwise_map.mpr (has.imp fun hlt => ?_)
      exact Prod.Lex.toLex_lt_toLex.mpr (Or.inr ⟨rfl, hlt⟩)
    · intro p hp q hq
      obtain ⟨b, -, rfl⟩ := List.mem_map.mp hp
      exact Prod.Lex.toLex_lt_toLex.mpr (Or.inl (hc _ (mem_of_mem_pairs hq).1))

end Pairs

namespace Watch

variable {w : Watch} {i j : Nat}

/-! ### Disputes -/

/-- The two nodes hold the transaction in blocks of different ids. -/
def InDispute (w : Watch) (i j : Nat) : Prop :=
  ∃ b c, w.statuses[i]? = some (.located b) ∧ w.statuses[j]? = some (.located c) ∧ b.id ≠ c.id

/-- The pairs of nodes that are in dispute, found by comparing every two located nodes. -/
def disputes (w : Watch) : List (Nat × Nat) :=
  ((pairs w.locations).filter fun p => p.1.2 ≠ p.2.2).map fun p => (p.1.1, p.2.1)

/-- The located nodes are looked at in their order. -/
theorem pairwise_locations (w : Watch) : w.locations.Pairwise fun k l => k.1 < l.1 := by
  have hnodes : w.statuses.zipIdx.Pairwise fun s t => s.2 < t.2 := by
    refine List.pairwise_map.mp ?_
    rw [List.zipIdx_map_snd]
    exact List.pairwise_lt_range'
  refine hnodes.filterMap _ fun s t hlt k hk l hl => ?_
  obtain ⟨b, -, rfl⟩ := Option.map_eq_some_iff.mp hk
  obtain ⟨c, -, rfl⟩ := Option.map_eq_some_iff.mp hl
  exact hlt

theorem mem_disputes_iff : (i, j) ∈ w.disputes ↔ i < j ∧ w.InDispute i j := by
  unfold disputes
  simp only [List.mem_map, List.mem_filter, decide_eq_true_eq, Prod.mk.injEq]
  constructor
  · rintro ⟨⟨⟨_, bid⟩, _, cid⟩, ⟨hpair, hne⟩, rfl, rfl⟩
    obtain ⟨hi, hj, hlt⟩ := (mem_pairs_iff w.pairwise_locations).mp hpair
    obtain ⟨b, hb, rfl⟩ := mem_locations_iff.mp hi
    obtain ⟨c, hc, rfl⟩ := mem_locations_iff.mp hj
    exact ⟨hlt, b, c, hb, hc, hne⟩
  · rintro ⟨hlt, b, c, hb, hc, hne⟩
    have hi : (i, b.id) ∈ w.locations := mem_locations_iff.mpr ⟨b, hb, rfl⟩
    have hj : (j, c.id) ∈ w.locations := mem_locations_iff.mpr ⟨c, hc, rfl⟩
    refine ⟨((i, b.id), (j, c.id)), ⟨?_, hne⟩, rfl, rfl⟩
    exact (mem_pairs_iff w.pairwise_locations).mpr ⟨hi, hj, hlt⟩

theorem pairwise_disputes (w : Watch) :
    w.disputes.Pairwise fun p q => toLex p < toLex q :=
  List.pairwise_map.mpr ((pairwise_pairs w.pairwise_locations).filter _)

/-- If the nodes agree, none of them is in a dispute. -/
theorem disputes_eq_nil (h : w.Agrees) : w.disputes = [] := by
  refine List.eq_nil_iff_forall_not_mem.mpr fun ⟨i, j⟩ hmem => ?_
  obtain ⟨-, b, c, hb, hc, hne⟩ := mem_disputes_iff.mp hmem
  exact hne (h b c (List.mem_of_getElem? hb) (List.mem_of_getElem? hc))

/-- Comparing with the first located node finds the first of all disputes. -/
theorem fork?_eq_head?_disputes (w : Watch) : w.fork? = w.disputes.head? := by
  cases hfork : w.fork? with
  | none => rw [disputes_eq_nil (fork?_eq_none_iff.mp hfork), List.head?_nil]
  | some p =>
    unfold fork? at hfork
    split at hfork
    · cases hfork
    · next first id others hcons =>
      obtain ⟨l, hfind, rfl⟩ := Option.map_eq_some_iff.mp hfork
      -- the pairs of the first node come first, and of these the one with this node differs first
      have hpair : (pairs w.locations).find? (fun p => p.1.2 ≠ p.2.2) = some ((first, id), l) := by
        have hsame : (fun k : Nat × BlockId => decide (id ≠ k.2)) = fun k => decide (k.2 ≠ id) :=
          funext fun k => decide_eq_decide.mpr ne_comm
        rw [hcons, pairs, List.find?_append, List.find?_map]
        change ((others.find? fun k => decide (id ≠ k.2)).map _).or _ = _
        rw [hsame, hfind]
        rfl
      rw [disputes, List.head?_map, List.head?_filter, hpair, Option.map_some]

/-! ### The least dispute -/

/-- **Comparing with the first located node finds every fork.** Nothing is found iff no two nodes
hold the transaction in different blocks. Otherwise, of all pairs of nodes in dispute, the
lexicographically least is found. -/
theorem first_dispute_found (w : Watch) :
    (w.fork? = none ↔ ¬ w.IsForked) ∧
    ∀ i j, w.fork? = some (i, j)
      ↔ IsLeast {p : Nat ×ₗ Nat | (ofLex p).1 < (ofLex p).2 ∧
          w.InDispute (ofLex p).1 (ofLex p).2} (toLex (i, j)) := by
  refine ⟨by rw [isForked_iff, not_not, fork?_eq_none_iff], fun i j => ?_⟩
  have hset : {p : Nat ×ₗ Nat | (ofLex p).1 < (ofLex p).2 ∧
      w.InDispute (ofLex p).1 (ofLex p).2} = {p | ofLex p ∈ w.disputes} :=
    Set.ext fun p => mem_disputes_iff.symm
  rw [hset, fork?_eq_head?_disputes]
  -- the disputes are listed from the least one on
  have hleast {p : Nat × Nat} {ps : List (Nat × Nat)} (hcons : w.disputes = p :: ps) :
      IsLeast {q : Nat ×ₗ Nat | ofLex q ∈ w.disputes} (toLex p) := by
    have hbefore := w.pairwise_disputes
    rw [hcons] at hbefore ⊢
    refine ⟨List.mem_cons_self .., fun q hq => ?_⟩
    rcases List.mem_cons.mp hq with hq | hq
    · exact le_of_eq (congrArg toLex hq.symm)
    · exact le_of_lt (List.rel_of_pairwise_cons hbefore hq)
  constructor
  · intro hhead
    obtain ⟨ps, hcons⟩ := List.head?_eq_some_iff.mp hhead
    exact hleast hcons
  · intro h
    cases hdisputes : w.disputes with
    | nil =>
      have hmem : (i, j) ∈ w.disputes := h.1
      rw [hdisputes] at hmem
      cases hmem
    | cons p ps => rw [List.head?_cons, toLex.injective ((hleast hdisputes).unique h)]

/-- Of nodes in three blocks, the first two are found, and a node that gives no block is passed
over. -/
example :
    let given (id : String) : Sighting := { status := .located ⟨5, ⟨id⟩⟩ }
    let w : Watch := ⟨.zero, .start, [{}, given "x", { status := .rejected }, given "y", given "z"]⟩
    w.fork? = some (1, 3) ∧ w.disputes = [(1, 3), (1, 4), (3, 4)] := by
  decide

end Watch

end ChainWatch
