import ChainWatch.Text.Blank
import Mathlib.Data.List.Induction
import Mathlib.Data.List.TakeWhile

/-!
# What trimming leaves

To cut the longest run of some characters from an end is to split a text in two: what is cut
consists of such characters, and what is left does not begin, or does not end, with one. There is
one such split, so this says what is left (`dropWhile_eq_iff`, `dropEndWhile_eq_iff`).

Cutting the blanks from both ends leaves the middle of a split in three
(`trimBlankChars_eq_iff`). A text of nothing but blanks can be split in several ways, and all of
them have nothing in the middle.
-/

namespace ChainWatch

section Ends

variable {p : Char → Bool} {cs core front tail : List Char} {c : Char}

/-- The first character satisfies `p`, and there is one. -/
def BeginsWith (p : Char → Bool) (cs : List Char) : Prop :=
  ∃ c rest, cs = c :: rest ∧ p c = true

/-- The last character satisfies `p`, and there is one. -/
def EndsWith (p : Char → Bool) (cs : List Char) : Prop :=
  ∃ front c, cs = front ++ [c] ∧ p c = true

/-- An empty text has no first character. -/
theorem not_beginsWith_nil : ¬ BeginsWith p [] := by
  rintro ⟨c, rest, h, -⟩
  cases h

/-- An empty text has no last character. -/
theorem not_endsWith_nil : ¬ EndsWith p [] := by
  rintro ⟨front, c, h, -⟩
  exact List.cons_ne_nil c [] (List.append_eq_nil_iff.mp h.symm).2

/-- A text that shows its first character begins with it. -/
@[simp] theorem beginsWith_cons_iff : BeginsWith p (c :: cs) ↔ p c = true := by
  constructor
  · rintro ⟨c', rest, h, hc⟩
    cases h
    exact hc
  · exact fun hc => ⟨c, cs, rfl, hc⟩

/-- A text that shows its last character ends with it. -/
@[simp] theorem endsWith_concat_iff : EndsWith p (cs ++ [c]) ↔ p c = true := by
  constructor
  · rintro ⟨front, c', h, hc⟩
    obtain ⟨-, rfl⟩ := List.append_singleton_inj.mp h
    exact hc
  · exact fun hc => ⟨cs, c, rfl, hc⟩

/-- The last character can be looked up. -/
theorem any_getLast?_iff : cs.getLast?.any p = true ↔ EndsWith p cs := by
  induction cs using List.reverseRecOn with
  | nil => simp [not_endsWith_nil]
  | append_singleton cs c ih => simp

/-- So it can be decided how a text ends. -/
instance : Decidable (EndsWith p cs) := decidable_of_iff _ any_getLast?_iff

/-- What follows does not change how a text begins. -/
theorem BeginsWith.append (h : BeginsWith p cs) (tail : List Char) : BeginsWith p (cs ++ tail) := by
  obtain ⟨c, rest, rfl, hc⟩ := h
  exact ⟨c, rest ++ tail, rfl, hc⟩

/-- The end of a text is where its reverse begins. -/
theorem beginsWith_reverse_iff : BeginsWith p cs.reverse ↔ EndsWith p cs := by
  induction cs using List.reverseRecOn with
  | nil => exact iff_of_false not_beginsWith_nil not_endsWith_nil
  | append_singleton cs c ih => simp

/-! ### Cutting at one end -/

/-- What is left after cutting from the front: the other part consists of characters that are cut,
and the part that is left does not begin with one. -/
theorem dropWhile_eq_iff :
    cs.dropWhile p = core ↔
      ∃ front, cs = front ++ core ∧ (∀ c ∈ front, p c = true) ∧ ¬ BeginsWith p core := by
  constructor
  · rintro rfl
    refine ⟨cs.takeWhile p, List.takeWhile_append_dropWhile.symm,
      fun c hc => List.mem_takeWhile_imp hc, ?_⟩
    rintro ⟨c, rest, hrest, hc⟩
    have hfirst := List.head?_dropWhile_not p cs
    rw [hrest] at hfirst
    exact Bool.false_ne_true (hfirst.symm.trans hc)
  · rintro ⟨front, rfl, hfront, hcore⟩
    rw [List.dropWhile_append_of_pos hfront]
    cases core with
    | nil => rfl
    | cons c rest => exact List.dropWhile_cons_of_neg fun hc => hcore ⟨c, rest, rfl, hc⟩

/-- What is left after cutting from the end, by the same for the reverse. -/
theorem dropEndWhile_eq_iff :
    dropEndWhile p cs = core ↔
      ∃ tail, cs = core ++ tail ∧ (∀ c ∈ tail, p c = true) ∧ ¬ EndsWith p core := by
  -- the end of a text is the beginning of the reversed text
  rw [dropEndWhile, List.reverse_eq_iff, dropWhile_eq_iff, beginsWith_reverse_iff]
  constructor
  · rintro ⟨front, hcs, hfront, hcore⟩
    refine ⟨front.reverse, ?_, fun c hc => hfront c (List.mem_reverse.mp hc), hcore⟩
    rw [← List.reverse_inj, hcs, List.reverse_append, List.reverse_reverse]
  · rintro ⟨tail, rfl, htail, hcore⟩
    exact ⟨tail.reverse, List.reverse_append, fun c hc => htail c (List.mem_reverse.mp hc), hcore⟩

end Ends

/-! ### Cutting blanks at both ends -/

variable {cs core : List Char}

/-- **What trimming leaves.** It is the middle of a text between blanks, and is not blank at either
end. -/
theorem trimBlankChars_eq_iff :
    trimBlankChars cs = core ↔
      ∃ left right, cs = left ++ core ++ right ∧ (∀ c ∈ left ++ right, isBlank c = true) ∧
        ¬ BeginsWith isBlank core ∧ ¬ EndsWith isBlank core := by
  unfold trimBlankChars
  rw [dropEndWhile_eq_iff]
  constructor
  · rintro ⟨right, hmiddle, hright, hend⟩
    obtain ⟨left, rfl, hleft, hbegin⟩ := dropWhile_eq_iff.mp hmiddle
    refine ⟨left, right, (List.append_assoc ..).symm, ?_, fun h => hbegin (h.append right), hend⟩
    exact fun c hc => (List.mem_append.mp hc).elim (hleft c) (hright c)
  · rintro ⟨left, right, rfl, hblank, hbegin, hend⟩
    rw [List.forall_mem_append] at hblank
    cases core with
    | nil =>
      -- all is blank, and cutting at the front takes it all
      refine ⟨[], dropWhile_eq_iff.mpr ⟨left ++ right, by simp, ?_, not_beginsWith_nil⟩, nofun,
        not_endsWith_nil⟩
      exact List.forall_mem_append.mpr hblank
    | cons c rest =>
      have hmiddle : (left ++ c :: rest ++ right).dropWhile isBlank = c :: rest ++ right := by
        refine dropWhile_eq_iff.mpr ⟨left, List.append_assoc .., hblank.1, ?_⟩
        rintro ⟨c', rest', heq, hc⟩
        cases heq
        exact hbegin ⟨c, rest, rfl, hc⟩
      exact ⟨right, hmiddle, hblank.2, hend⟩

end ChainWatch
