import ChainWatch.Watch.Basic
import Mathlib.Data.List.Basic
import Mathlib.Data.List.DropRight
import Mathlib.Data.List.Induction

/-!
# What a sighting remembers

A `Sighting` is all that a watch keeps of the answers of one node. This file says which answers they
were. `Sighting.afterAll` applies a list of answers, each with the frontier that the node had when
the answer came, and the two fields that a verdict rests on are read off the list:

* `status_afterAll` — the status is the one of the last answer;
* `accepted_afterAll_iff` — the transaction is accepted iff some block is `Secured` by the answers:
  the node gave the block while it was not past its frontier, and has answered nothing else since.

Acceptance is therefore not lost when the frontier falls, and is lost with the first answer that
gives another location or none. The proofs go along the list from its end, since an answer is
compared with the one before it; `secured_concat_iff` is the step.

The flag that an answer brings is truthful: `isNews_eq_false_iff` says that an answer is no news
exactly if the sighting stays as it is.
-/

namespace ChainWatch

namespace Answer

@[simp] theorem status_located (b : BlockRef) : (located b).status = .located b := rfl

/-- An answer is known by the status it leads to. -/
theorem eq_located_of_status {a : Answer} {b : BlockRef} (h : a.status = .located b) :
    a = .located b := by
  cases a with
  | located c =>
    rw [status_located, Status.located.injEq] at h
    rw [h]
  | rejected => cases h

theorem isFinal_iff {a : Answer} {frontier : UInt64} :
    a.isFinal frontier = true ↔ ∃ b, a = .located b ∧ b.number ≤ frontier := by
  cases a with
  | located b => simp [isFinal]
  | rejected => simp [isFinal]

end Answer

namespace Sighting

/-! ### One answer -/

section OneAnswer

variable (s : Sighting) (a : Answer) (frontier : UInt64)

@[simp] theorem after_status : (s.after a frontier).status = a.status := rfl

/-- After an answer a transaction is accepted if it was accepted for the location that the node
gives again, or if the node gives a location that is not past its frontier. -/
theorem after_accepted_iff :
    (s.after a frontier).accepted = true
      ↔ s.accepted = true ∧ s.status = a.status ∨ a.isFinal frontier = true := by
  simp [after, keepsAcceptance, moves]

/-- A location is remembered, and nothing else adds one. -/
theorem after_everLocated_iff :
    (s.after a frontier).everLocated = true ↔ s.everLocated = true ∨ ∃ b, a = .located b := by
  cases a with
  | located b => simp [after, Answer.block?]
  | rejected => simp [after, Answer.block?]

/-- An answer is no news exactly if it leaves the sighting as it is. -/
theorem isNews_eq_false_iff : s.isNews a frontier = false ↔ s.after a frontier = s := by
  obtain ⟨status, everLocated, accepted⟩ := s
  -- the three ways of being news are the three fields that can change
  by_cases hmoves : status = a.status
  · subst hmoves
    simp only [isNews, after, keepsAcceptance, moves, Sighting.mk.injEq, true_and]
    cases everLocated <;> cases accepted <;> simp
  · have hafter : ¬ (a.status = status) := fun h => hmoves h.symm
    simp [isNews, after, moves, hmoves, hafter]

end OneAnswer

/-! ### A list of answers -/

/-- The sighting after some answers, each with the frontier of the node as it came. -/
def afterAll (s : Sighting) (heard : List (Answer × UInt64)) : Sighting :=
  heard.foldl (fun s h => s.after h.1 h.2) s

@[simp] theorem afterAll_nil (s : Sighting) : s.afterAll [] = s := rfl

theorem afterAll_append (s : Sighting) (heard more : List (Answer × UInt64)) :
    s.afterAll (heard ++ more) = (s.afterAll heard).afterAll more := by
  unfold afterAll
  rw [List.foldl_append]

theorem afterAll_concat (s : Sighting) (heard : List (Answer × UInt64)) (h : Answer × UInt64) :
    s.afterAll (heard ++ [h]) = (s.afterAll heard).after h.1 h.2 := by
  rw [afterAll_append]
  rfl

/-- The status is the one of the last answer. -/
theorem status_afterAll (s : Sighting) (heard : List (Answer × UInt64)) :
    (s.afterAll heard).status = (heard.getLast?.map fun h => h.1.status).getD s.status := by
  induction heard using List.reverseRecOn with
  | nil => rfl
  | append_singleton heard h _ => simp [afterAll_concat]

/-- A location is remembered iff some answer was one. -/
theorem everLocated_afterAll_iff (heard : List (Answer × UInt64)) :
    (({} : Sighting).afterAll heard).everLocated = true
      ↔ ∃ b frontier, (.located b, frontier) ∈ heard := by
  induction heard using List.reverseRecOn with
  | nil => simp
  | append_singleton heard h ih =>
    obtain ⟨a, frontier⟩ := h
    rw [afterAll_concat, after_everLocated_iff, ih]
    constructor
    · rintro (⟨b, f, hmem⟩ | ⟨b, rfl⟩)
      · exact ⟨b, f, List.mem_append_left _ hmem⟩
      · exact ⟨b, frontier, List.mem_append_right _ (List.mem_singleton_self _)⟩
    · rintro ⟨b, f, hmem⟩
      rcases List.mem_append.mp hmem with hmem | hmem
      · exact Or.inl ⟨b, f, hmem⟩
      · cases List.mem_singleton.mp hmem
        exact Or.inr ⟨b, rfl⟩

/-- The node has given a block while it was not past the node's frontier, and has answered nothing
else since. -/
def Secured (b : BlockRef) (heard : List (Answer × UInt64)) : Prop :=
  ∃ before frontier since, heard = before ++ (.located b, frontier) :: since ∧
    b.number ≤ frontier ∧ ∀ h ∈ since, h.1 = .located b

/-- One answer more: it must give the block, and either secures it itself or finds it secured. -/
theorem secured_concat_iff {b : BlockRef} {heard : List (Answer × UInt64)} {a : Answer}
    {frontier : UInt64} :
    Secured b (heard ++ [(a, frontier)])
      ↔ a = .located b ∧ (b.number ≤ frontier ∨ Secured b heard) := by
  constructor
  · rintro ⟨before, f, since, heq, hle, hsince⟩
    rcases List.eq_nil_or_concat' since with rfl | ⟨since, last, rfl⟩
    · -- the securing answer is the last one
      obtain ⟨-, hlast⟩ := List.append_inj' heq rfl
      cases hlast
      exact ⟨rfl, Or.inl hle⟩
    · rw [← List.cons_append, ← List.append_assoc] at heq
      obtain ⟨hheard, hlast⟩ := List.append_inj' heq rfl
      cases hlast
      refine ⟨hsince (a, frontier) (by simp), Or.inr ⟨before, f, since, hheard, hle, ?_⟩⟩
      exact fun h hh => hsince h (List.mem_append_left _ hh)
  · rintro ⟨rfl, hle | ⟨before, f, since, rfl, hle, hsince⟩⟩
    · exact ⟨heard, frontier, [], rfl, hle, by simp⟩
    · refine ⟨before, f, since ++ [(.located b, frontier)], by simp, hle, ?_⟩
      intro h hh
      rcases List.mem_append.mp hh with hh | hh
      · exact hsince h hh
      · rw [List.mem_singleton.mp hh]

/-- Only the last stretch of answers counts, in which the node gave nothing but the block. -/
theorem secured_iff_rtakeWhile {b : BlockRef} {heard : List (Answer × UInt64)} :
    Secured b heard ↔ ∃ h ∈ heard.rtakeWhile fun h => h.1 = .located b, b.number ≤ h.2 := by
  induction heard using List.reverseRecOn with
  | nil =>
    constructor
    · rintro ⟨before, f, since, heq, -⟩
      simp at heq
    · simp
  | append_singleton heard h ih =>
    obtain ⟨a, frontier⟩ := h
    rw [secured_concat_iff, ih]
    by_cases ha : a = .located b
    · -- the stretch is longer by this answer
      rw [List.rtakeWhile_concat_pos _ _ _ (by simpa using ha)]
      simp [ha, or_comm]
    · -- another answer ends the stretch
      rw [List.rtakeWhile_concat_neg _ _ _ (by simpa using ha)]
      simp [ha]

/-- The block that is secured is the one that the node gave last. -/
theorem Secured.getLast? {b : BlockRef} {heard : List (Answer × UInt64)} (h : Secured b heard) :
    heard.getLast?.map Prod.fst = some (.located b) := by
  rcases List.eq_nil_or_concat' heard with rfl | ⟨heard, ⟨a, frontier⟩, rfl⟩
  · obtain ⟨before, f, since, heq, -⟩ := h
    simp at heq
  · obtain ⟨rfl, -⟩ := secured_concat_iff.mp h
    simp

theorem Secured.status_afterAll {b : BlockRef} {heard : List (Answer × UInt64)} {s : Sighting}
    (h : Secured b heard) : (s.afterAll heard).status = .located b := by
  have hlast := h.getLast?
  rw [Sighting.status_afterAll]
  cases hheard : heard.getLast? with
  | none => simp [hheard] at hlast
  | some last =>
    simp only [hheard, Option.map_some, Option.some.injEq] at hlast
    simp [hlast]

/-- A transaction is accepted exactly for the block that the answers of the node have secured. -/
theorem accepted_afterAll_iff (heard : List (Answer × UInt64)) :
    (({} : Sighting).afterAll heard).accepted = true ↔ ∃ b, Secured b heard := by
  induction heard using List.reverseRecOn with
  | nil =>
    constructor
    · intro h
      cases h
    · rintro ⟨b, before, f, since, heq, -⟩
      simp at heq
  | append_singleton heard h ih =>
    obtain ⟨a, frontier⟩ := h
    simp only [afterAll_concat, after_accepted_iff, ih, secured_concat_iff, Answer.isFinal_iff]
    constructor
    · rintro (⟨⟨b, hb⟩, hstatus⟩ | ⟨b, rfl, hle⟩)
      · rw [hb.status_afterAll] at hstatus
        exact ⟨b, Answer.eq_located_of_status hstatus.symm, Or.inr hb⟩
      · exact ⟨b, rfl, Or.inl hle⟩
    · rintro ⟨b, rfl, hle | hb⟩
      · exact Or.inr ⟨b, rfl, hle⟩
      · exact Or.inl ⟨⟨b, hb⟩, hb.status_afterAll⟩

end Sighting

end ChainWatch
