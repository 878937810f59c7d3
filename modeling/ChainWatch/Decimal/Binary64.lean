/-!
# Double precision numbers, exactly

`Binary64` is a word of sixty-four bits read as a sign, an exponent and a fraction. Everything here
is exact arithmetic on natural numbers: a finite number is `significand * 2 ^ scale`, and a quotient
of naturals becomes the number nearest to it, a tie going to the even neighbour (`ofRatio`).
Products and quotients are the nearest numbers to the exact ones.

The order of magnitudes is the order of the words: for a significand `s` and a scale `q` in range
the word of `s * 2 ^ q` is `(q + 1074) * 2 ^ 52 + s`, for normal and subnormal numbers alike, and a
significand that rounding carries to `2 ^ 53` lands on the word of the next power of two.
-/

namespace ChainWatch

/-- A double precision number, as its word. -/
structure Binary64 where
  bits : UInt64
deriving DecidableEq, Repr

/-- The quotient `num / den` rounded to a natural number, a tie going to the even one. -/
def roundHalfEven (num den : Nat) : Nat :=
  let q := num / den
  let r := num % den
  if den < 2 * r ∨ (den = 2 * r ∧ q % 2 = 1) then q + 1 else q

/-- A power of ten. -/
def tenTo (n : Nat) : Nat := Nat.pow 10 n

namespace Binary64

/-- The word of which only the sign bit is set. -/
def signWord : Nat := 0x8000000000000000

/-- How many fractions there are. -/
def fractionCount : Nat := 0x10000000000000

/-- The sign bit: set for negative numbers and for negative zero. -/
def negative (x : Binary64) : Bool :=
  signWord ≤ x.bits.toNat

/-- The eleven bits of the exponent. -/
def exponentField (x : Binary64) : Nat :=
  x.bits.toNat / fractionCount % 2048

/-- The fifty-two bits of the fraction. -/
def fractionField (x : Binary64) : Nat :=
  x.bits.toNat % fractionCount

/-- Neither infinite nor an invalid number. -/
def isFinite (x : Binary64) : Bool :=
  x.exponentField ≠ 2047

/-- An invalid number. -/
def isNan (x : Binary64) : Bool :=
  x.exponentField = 2047 ∧ x.fractionField ≠ 0

/-- Zero of either sign. -/
def isZero (x : Binary64) : Bool :=
  x.exponentField = 0 ∧ x.fractionField = 0

/-- The whole number that `2 ^ scale` multiplies. -/
def significand (x : Binary64) : Nat :=
  if x.exponentField = 0 then x.fractionField else x.fractionField + fractionCount

/-- The power of two that multiplies the significand. -/
def scale (x : Binary64) : Int :=
  (max x.exponentField 1 : Nat) - 1075

/-- The word of the magnitude of infinity. -/
def infinityWord : Nat :=
  2047 * fractionCount

/-- The number with the given sign and the given magnitude word, infinite from `infinityWord` on. -/
def ofMagnitude (negative : Bool) (word : Nat) : Binary64 :=
  ⟨UInt64.ofNat ((if negative then signWord else 0) + min word infinityWord)⟩

/-- The scale at which `num / den` has a significand of fifty-three bits, or the least scale. -/
def scaleOfRatio (num den : Nat) : Int :=
  let guess : Int := (num.log2 : Int) - den.log2 - 52
  let short := num <<< (-guess).toNat < den <<< (guess.toNat + 52)
  max (if short then guess - 1 else guess) (-1074)

/-- The number nearest to `num / den` with the given sign. -/
def ofRatio (negative : Bool) (num den : Nat) : Binary64 :=
  if num = 0 then ofMagnitude negative 0
  else
    let q := scaleOfRatio num den
    let s := roundHalfEven (num <<< (-q).toNat) (den <<< q.toNat)
    ofMagnitude negative ((q + 1074).toNat * fractionCount + s)

/-- The number nearest to a natural number. -/
def ofNat (n : Nat) : Binary64 :=
  ofRatio false n 1

/-- The number nearest to an integer. -/
def ofInt (i : Int) : Binary64 :=
  ofRatio (i < 0) i.natAbs 1

/-- The numerator of a finite magnitude. -/
def numerator (x : Binary64) : Nat :=
  x.significand <<< x.scale.toNat

/-- The denominator of a finite magnitude. -/
def denominator (x : Binary64) : Nat :=
  1 <<< (-x.scale).toNat

/-- The nearest number to the product of two finite numbers. -/
def mul (x y : Binary64) : Binary64 :=
  ofRatio (x.negative != y.negative) (x.numerator * y.numerator) (x.denominator * y.denominator)

/-- The nearest number to the quotient of two finite numbers, the second of them not zero. -/
def div (x y : Binary64) : Binary64 :=
  ofRatio (x.negative != y.negative) (x.numerator * y.denominator) (x.denominator * y.numerator)

/-- The number with the given sign and the magnitude of `x`. -/
def withSign (negative : Bool) (x : Binary64) : Binary64 :=
  ofMagnitude negative (x.bits.toNat % signWord)

/-- The number nearest to `digits * 10 ^ exponent` with the given sign. Outside the range where the
answer depends on the digits, no power is computed. -/
def ofDecimal (negative : Bool) (digits : Nat) (exponent : Int) : Binary64 :=
  let size : Int := digits.log2 / 3 + 1
  if digits = 0 ∨ size + exponent < -400 then ofMagnitude negative 0
  else if 400 < exponent then ofMagnitude negative infinityWord
  else ofRatio negative (digits * tenTo exponent.toNat) (tenTo (-exponent).toNat)

/-- Positive infinity. -/
def infinity : Binary64 := ofMagnitude false infinityWord

/-- The invalid number that reading the word `nan` gives. -/
def nan : Binary64 := ⟨0x7FF8000000000000⟩

end Binary64

example : (Binary64.ofNat 1).bits = 0x3FF0000000000000 := by decide
example : (Binary64.ofRatio false 1 10).bits = 0x3FB999999999999A := by decide
example : (Binary64.ofRatio true 0 1).bits = 0x8000000000000000 := by decide
example : (Binary64.ofNat (1 <<< 53 + 1)).bits = (Binary64.ofNat (1 <<< 53)).bits := by decide

end ChainWatch
