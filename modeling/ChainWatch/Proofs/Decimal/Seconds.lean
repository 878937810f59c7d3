import ChainWatch.Run.Schedule
import Mathlib.Algebra.Order.Field.Power
import Mathlib.Algebra.Order.Ring.Abs
import Mathlib.Algebra.Order.Ring.Rat
import Mathlib.Tactic.FieldSimp
import Mathlib.Tactic.Linarith
import Mathlib.Tactic.Positivity
import Mathlib.Tactic.Ring

/-!
# Seconds as spans

The time between two submissions comes as a double precision number of seconds and is kept as a
whole number of nanoseconds. This file says which numbers make a span, and which span they make, in
terms of the rational number `Binary64.value` that a finite word stands for:

* `roundsTo_roundHalfEven` — the rounding of a quotient is the nearest whole number, a tie going to
  the even one, and there is only one such number (`RoundsTo.unique`);
* `Binary64.positiveSpan?_eq_some_iff` — the span of a number of seconds is what its nanoseconds
  round to, as long as this is not zero and the seconds fit a word;
* `Binary64.positiveSpan?_eq_none_iff` — there is none exactly for the numbers of
  `Binary64.Unusable`, which lists them by their kind.
-/

namespace ChainWatch

/-! ### Rounding -/

/-- A rational number is rounded to `n`: no whole number is nearer, and of two that are as near it
is the even one. -/
structure RoundsTo (q : ℚ) (n : ℕ) : Prop where
  near : |q - n| ≤ 1 / 2
  even_of_tie : |q - n| = 1 / 2 → Even n

namespace RoundsTo

variable {q : ℚ} {m n : ℕ}

theorem le (hm : RoundsTo q m) (hn : RoundsTo q n) : m ≤ n := by
  by_contra hlt
  have hm' := abs_le.mp hm.near
  have hn' := abs_le.mp hn.near
  have hgap : (n : ℚ) + 1 ≤ m := by exact_mod_cast Nat.not_le.mp hlt
  -- the two are neighbours, and the number lies halfway between them
  have hleft : q - n = 1 / 2 := by linarith
  have hright : q - m = -(1 / 2) := by linarith
  have hnext : m = n + 1 := by
    have hcast : (m : ℚ) = ((n + 1 : ℕ) : ℚ) := by push_cast; linarith
    exact_mod_cast hcast
  have heven : Even m := hm.even_of_tie (by rw [hright, abs_neg, abs_of_pos (by norm_num)])
  have heven' : Even n := hn.even_of_tie (by rw [hleft, abs_of_pos (by norm_num)])
  rw [hnext, Nat.even_add_one] at heven
  exact heven heven'

theorem unique (hm : RoundsTo q m) (hn : RoundsTo q n) : m = n :=
  Nat.le_antisymm (hm.le hn) (hn.le hm)

/-- What rounds to a positive number is positive. -/
theorem pos (h : RoundsTo q n) (hn : 0 < n) : 0 < q := by
  have hone : (1 : ℚ) ≤ n := by exact_mod_cast hn
  linarith [(abs_le.mp h.near).1]

end RoundsTo

theorem roundsTo_roundHalfEven (num : ℕ) {den : ℕ} (hden : 0 < den) :
    RoundsTo (num / den) (roundHalfEven num den) := by
  have hden' : (0 : ℚ) < den := by exact_mod_cast hden
  -- the quotient is its whole part and a fraction
  have hsplit : (num : ℚ) / den = (num / den : ℕ) + (num % den : ℕ) / den := by
    have hnum : (num : ℚ) = den * (num / den : ℕ) + (num % den : ℕ) := by
      exact_mod_cast (Nat.div_add_mod num den).symm
    rw [div_eq_iff hden'.ne', add_mul, div_mul_cancel₀ _ hden'.ne', mul_comm]
    exact hnum
  have hlt : ((num % den : ℕ) : ℚ) / den < 1 := by
    rw [div_lt_one hden']
    exact_mod_cast Nat.mod_lt num hden
  have hnonneg : (0 : ℚ) ≤ ((num % den : ℕ) : ℚ) / den := by positivity
  have hle_half : ((num % den : ℕ) : ℚ) / den ≤ 1 / 2 ↔ 2 * (num % den) ≤ den := by
    rw [div_le_div_iff₀ hden' two_pos, one_mul, mul_comm]
    exact_mod_cast Iff.rfl
  have hhalf_le : 1 / 2 ≤ ((num % den : ℕ) : ℚ) / den ↔ den ≤ 2 * (num % den) := by
    rw [div_le_div_iff₀ two_pos hden', one_mul, mul_comm (_ : ℚ) 2]
    exact_mod_cast Iff.rfl
  rw [hsplit]
  unfold roundHalfEven
  dsimp only
  split
  · next hup =>
    -- the next whole number is at least as near
    have hhalf := hhalf_le.mpr (by omega)
    have hdist : |((num / den : ℕ) : ℚ) + (num % den : ℕ) / den - (num / den + 1 : ℕ)|
        = 1 - (num % den : ℕ) / den := by
      push_cast
      rw [abs_of_nonpos (by linarith)]
      ring
    refine ⟨by rw [hdist]; linarith, fun htie => ?_⟩
    rw [hdist] at htie
    have hexact : 2 * (num % den) ≤ den := hle_half.mp (by linarith)
    rw [Nat.even_add_one, Nat.not_even_iff]
    omega
  · next hdown =>
    have hhalf := hle_half.mpr (by omega)
    have hdist : |((num / den : ℕ) : ℚ) + (num % den : ℕ) / den - (num / den : ℕ)|
        = (num % den : ℕ) / den := by
      rw [add_sub_cancel_left, abs_of_nonneg hnonneg]
    refine ⟨by rw [hdist]; exact hhalf, fun htie => ?_⟩
    rw [hdist] at htie
    have hexact : den ≤ 2 * (num % den) := hhalf_le.mp htie.ge
    rw [Nat.even_iff]
    omega

namespace Binary64

variable {x : Binary64}

/-! ### The number of a word -/

/-- The number that a finite word stands for without its sign. -/
def magnitude (x : Binary64) : ℚ := x.significand * 2 ^ x.scale

/-- The number that a finite word stands for. -/
def value (x : Binary64) : ℚ := if x.negative then -x.magnitude else x.magnitude

theorem magnitude_nonneg (x : Binary64) : 0 ≤ x.magnitude := by
  unfold magnitude
  positivity

theorem denominator_pos (x : Binary64) : 0 < x.denominator := by
  unfold denominator
  rw [Nat.one_shiftLeft]
  positivity

/-- The numerator and the denominator are those of the magnitude. -/
theorem numerator_div_denominator (x : Binary64) :
    (x.numerator : ℚ) / x.denominator = x.magnitude := by
  unfold numerator denominator magnitude
  rw [Nat.shiftLeft_eq, Nat.one_shiftLeft]
  -- only one of them has a power of two
  rcases Int.le_total 0 x.scale with hscale | hscale
  · obtain ⟨k, hk⟩ := Int.eq_ofNat_of_zero_le hscale
    rw [hk]
    simp
  · obtain ⟨k, hk⟩ := Int.eq_ofNat_of_zero_le (Int.neg_nonneg.mpr hscale)
    have hneg : x.scale = -k := by rw [← hk, neg_neg]
    rw [hneg]
    simp [div_eq_mul_inv]

theorem value_of_not_negative (h : x.negative = false) : x.value = x.magnitude := by
  rw [value, h, if_neg Bool.false_ne_true]

theorem value_nonpos (h : x.negative = true) : x.value ≤ 0 := by
  rw [value, if_pos h]
  exact neg_nonpos.mpr x.magnitude_nonneg

/-- A number is zero if its word says so. -/
theorem value_eq_zero_iff : x.value = 0 ↔ x.isZero = true := by
  have hpower : (2 : ℚ) ^ x.scale ≠ 0 := by positivity
  have hvalue : x.value = 0 ↔ x.significand = 0 := by
    unfold value magnitude
    split <;> simp [hpower]
  rw [hvalue, significand, isZero, decide_eq_true_eq]
  -- a number that is normal has a leading bit
  have hlead : 0 < fractionCount := by decide
  split
  · next hsubnormal => simp [hsubnormal]
  · next hnormal => exact iff_of_false (by omega) fun h => hnormal h.1

/-! ### The span of a number of seconds -/

/-- The nanoseconds that are computed are the nearest to those of the magnitude. -/
theorem roundsTo_nanos (x : Binary64) :
    RoundsTo (x.magnitude * 10 ^ 9)
      (roundHalfEven (x.numerator * 1000000000) x.denominator) := by
  have hquotient := roundsTo_roundHalfEven (x.numerator * 1000000000) x.denominator_pos
  rwa [Nat.cast_mul, mul_div_right_comm, x.numerator_div_denominator,
    show ((1000000000 : ℕ) : ℚ) = 10 ^ 9 by norm_num] at hquotient

/-- **The span of a number of seconds.** A finite number of seconds that fits a word makes the span
that its nanoseconds round to, unless they round to none. -/
theorem positiveSpan?_eq_some_iff {n : Span} :
    x.positiveSpan? = some n ↔
      x.isFinite = true ∧ x.value < 2 ^ 64 ∧ RoundsTo (x.value * 10 ^ 9) n ∧ 0 < n := by
  have hden : (0 : ℚ) < x.denominator := by exact_mod_cast x.denominator_pos
  -- the two bounds that are computed are those of the magnitude
  have hfits : x.denominator * UInt64.size ≤ x.numerator ↔ 2 ^ 64 ≤ x.magnitude := by
    rw [← x.numerator_div_denominator, le_div_iff₀ hden, mul_comm]
    exact_mod_cast Iff.rfl
  unfold positiveSpan?
  dsimp only
  cases hfinite : x.isFinite with
  | false => simp
  | true =>
    cases hnegative : x.negative with
    | true =>
      -- what is not positive rounds to nothing positive
      refine iff_of_false (by simp) ?_
      rintro ⟨-, -, hround, hpos⟩
      have hvalue := hround.pos hpos
      linarith [value_nonpos hnegative]
    | false =>
      rw [value_of_not_negative hnegative]
      simp only [Bool.not_true, Bool.or_self, Bool.false_eq_true, if_false, true_and, hfits]
      by_cases hbig : 2 ^ 64 ≤ x.magnitude
      · rw [if_pos hbig]
        exact iff_of_false (by simp) fun h => absurd h.1 (not_lt.mpr hbig)
      · rw [if_neg hbig]
        constructor
        · intro h
          split at h
          · cases h
          · next hnonzero =>
            cases h
            exact ⟨not_le.mp hbig, x.roundsTo_nanos, Nat.pos_of_ne_zero hnonzero⟩
        · rintro ⟨-, hround, hpos⟩
          rw [x.roundsTo_nanos.unique hround, if_neg hpos.ne']

/-- The numbers that are no time between two submissions. -/
inductive Unusable (x : Binary64) : Prop
  /-- It is no number. -/
  | nan (h : x.isNan = true)
  /-- It is infinite, of either sign. -/
  | infinite (hfinite : x.isFinite = false) (h : x.isNan = false)
  /-- It is zero, of either sign. -/
  | zero (h : x.isZero = true)
  | negative (hfinite : x.isFinite = true) (h : x.value < 0)
  /-- Its seconds fit no word. -/
  | tooLarge (hfinite : x.isFinite = true) (h : 2 ^ 64 ≤ x.value)
  /-- It is positive, and no nanosecond is left of it. -/
  | vanishing (hfinite : x.isFinite = true) (hpos : 0 < x.value)
      (h : RoundsTo (x.value * 10 ^ 9) 0)

theorem isFinite_eq_false_of_isNan (h : x.isNan = true) : x.isFinite = false := by
  simp only [isNan, decide_eq_true_eq] at h
  simp [isFinite, h.1]

/-- Every number of seconds makes a span or is unusable. -/
theorem positiveSpan?_eq_none_iff : x.positiveSpan? = none ↔ x.Unusable := by
  rw [Option.eq_none_iff_forall_ne_some]
  simp only [ne_eq, positiveSpan?_eq_some_iff]
  constructor
  · intro hnone
    cases hfinite : x.isFinite with
    | false =>
      cases hnan : x.isNan with
      | true => exact .nan hnan
      | false => exact .infinite hfinite hnan
    | true =>
      rcases lt_trichotomy x.value 0 with hneg | hzero | hpos
      · exact .negative hfinite hneg
      · exact .zero (value_eq_zero_iff.mp hzero)
      · by_cases hbig : 2 ^ 64 ≤ x.value
        · exact .tooLarge hfinite hbig
        · -- what the number rounds to would make a span if it were not zero
          have hnegative : x.negative = false := by
            by_contra h
            exact absurd hpos (not_lt.mpr (value_nonpos (Bool.eq_true_of_not_eq_false h)))
          have hround := x.roundsTo_nanos
          rw [← value_of_not_negative hnegative] at hround
          have hnanos : roundHalfEven (x.numerator * 1000000000) x.denominator = 0 := by
            by_contra hne
            exact hnone _ ⟨hfinite, not_le.mp hbig, hround, Nat.pos_of_ne_zero hne⟩
          exact .vanishing hfinite hpos (hnanos ▸ hround)
  · intro h n hspan
    obtain ⟨hfinite, hfits, hround, hn⟩ := hspan
    have hpos : 0 < x.value := by linarith [hround.pos hn]
    cases h with
    | nan h => rw [isFinite_eq_false_of_isNan h] at hfinite; cases hfinite
    | infinite h _ => rw [h] at hfinite; cases hfinite
    | zero h => exact hpos.ne' (value_eq_zero_iff.mpr h)
    | negative _ h => exact lt_asymm hpos h
    | tooLarge _ h => exact absurd hfits (not_lt.mpr h)
    | vanishing _ _ h => exact hn.ne' (hround.unique h)

end Binary64

end ChainWatch
