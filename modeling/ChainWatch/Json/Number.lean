import ChainWatch.Decimal.Style

/-!
# Numbers of JSON text

A number keeps its kind: a numeral without point and exponent is an integer as long as it lies
between `-2 ^ 63` and `2 ^ 64 - 1`, and every other numeral is a double precision number. The one
exception is `-0`, which is a double so that the sign survives.

`Numeral` is the grammar of the text and `Numeral.value?` its meaning. The digits are collected into
a word of sixty-four bits until the next digit would not fit; what is left of the whole part then
only counts as powers of ten, and what is left of the fraction is dropped. The double is that word,
rounded, times or over a rounded power of ten: at most two roundings more than the exact value. A
numeral whose double would be infinite has no value.
-/

namespace ChainWatch.Json

/-- Integers that fit sixty-four bits, signed or not. -/
def IntRange (i : Int) : Prop :=
  -0x8000000000000000 ≤ i ∧ i < 0x10000000000000000

instance (i : Int) : Decidable (IntRange i) :=
  inferInstanceAs (Decidable (_ ∧ _))

/-- A number: an integer of sixty-four bits or a finite double. -/
inductive Number where
  | int (value : Int) (inRange : IntRange value)
  | float (value : Binary64) (finite : value.isFinite = true)
deriving DecidableEq

namespace Number

/-- The number of a word. -/
def ofUInt64 (n : UInt64) : Number :=
  .int n.toNat ⟨by omega, by have := n.toNat_lt; omega⟩

/-- The number of a short word. -/
def ofUInt32 (n : UInt32) : Number :=
  .int n.toNat ⟨by omega, by have := n.toNat_lt; omega⟩

/-- The integer of a number in the range of a word. -/
def toUInt64? : Number → Option UInt64
  | .int i _ => if 0 ≤ i then some (UInt64.ofNat i.toNat) else none
  | .float _ _ => none

/-- The integer of a number in the range of a short word. -/
def toUInt32? : Number → Option UInt32
  | .int i _ => if 0 ≤ i ∧ i < UInt32.size then some (UInt32.ofNat i.toNat) else none
  | .float _ _ => none

/-- A number as a double; an integer becomes the nearest one. -/
def toBinary64 : Number → Binary64
  | .int i _ => Binary64.ofInt i
  | .float x _ => x

/-- The text of a number. -/
def write : Number → List Char
  | .int i _ => intDigits i
  | .float x _ => x.write jsonStyle

/-- A double as a number, unless it is not finite. -/
def ofBinary64? (x : Binary64) : Option Number :=
  if h : x.isFinite = true then some (.float x h) else none

@[simp] theorem toUInt64?_ofUInt64 (n : UInt64) : (ofUInt64 n).toUInt64? = some n := by
  simp [ofUInt64, toUInt64?]

@[simp] theorem toUInt32?_ofUInt32 (n : UInt32) : (ofUInt32 n).toUInt32? = some n := by
  have := n.toNat_lt
  simp only [ofUInt32, toUInt32?, UInt32.size]
  rw [if_pos ⟨by omega, by omega⟩]
  simp

end Number

/-- The text of a number, by its parts. -/
structure Numeral where
  /-- Does it begin with a minus sign? -/
  minus : Bool
  /-- The digits before the point. -/
  whole : List Nat
  /-- The digits after the point, if there is one. -/
  fraction : Option (List Nat)
  /-- The sign and the digits of the exponent, if there is one. -/
  exponent : Option (Bool × List Nat)
deriving DecidableEq, Repr

/-- Append digits to a word as long as it fits sixty-four bits; gives the word and the digits that
were left. -/
def gather : Nat → List Nat → Nat × List Nat
  | word, [] => (word, [])
  | word, d :: ds =>
    if word * 10 + d < UInt64.size then gather (word * 10 + d) ds else (word, d :: ds)

/-- A word times a power of ten, as a double, unless that is infinite. Powers up to `10 ^ 308` are
doubles; beyond them a small number is divided in two steps. -/
def scaleByTen (word : Nat) (exponent : Int) : Option Binary64 :=
  let x := Binary64.ofNat word
  if 0 ≤ exponent then
    if exponent ≤ 308 then
      let y := x.mul (Binary64.ofNat (tenTo exponent.toNat))
      if y.isFinite then some y else none
    else if x.isZero then some x else none
  else if -308 ≤ exponent then some (x.div (Binary64.ofNat (tenTo (-exponent).toNat)))
  else
    let y := x.div (Binary64.ofNat (tenTo 308))
    if y.isZero then some y
    else if -616 ≤ exponent then some (y.div (Binary64.ofNat (tenTo (-exponent - 308).toNat)))
    else some (y.div (Binary64.ofNat (tenTo 308)))

namespace Numeral

/-- The number that digits write in base ten. -/
def ofDigits (ds : List Nat) : Nat :=
  ds.foldl (fun n d => n * 10 + d) 0

/-- The word of the leading digits, and the power of ten that it stands on. -/
def mantissa (n : Numeral) : Nat × Int :=
  let (word, dropped) := gather 0 n.whole
  match n.fraction with
  | none => (word, dropped.length)
  | some ds =>
    let (all, left) := gather word ds
    (all, (dropped.length : Int) - (ds.length - left.length : Nat))

/-- The exponent that is written. -/
def writtenExponent (n : Numeral) : Int :=
  match n.exponent with
  | none => 0
  | some (minus, ds) => if minus then -(ofDigits ds : Int) else ofDigits ds

/-- The value as a double. -/
def toBinary64? (n : Numeral) : Option Binary64 :=
  let (word, power) := n.mantissa
  (scaleByTen word (power + n.writtenExponent)).map (Binary64.withSign n.minus)

/-- The value of a numeral that has neither point nor exponent, as an integer: minus zero has
none. -/
def integer? (n : Numeral) : Option Int :=
  let magnitude := ofDigits n.whole
  if n.minus then if magnitude = 0 then none else some (-magnitude) else some magnitude

/-- The value of a numeral: an integer if it is written as one and fits, else a double. -/
def value? (n : Numeral) : Option Number :=
  let double := n.toBinary64?.bind Number.ofBinary64?
  if n.fraction.isSome ∨ n.exponent.isSome then double
  else
    match n.integer? with
    | some i => if h : IntRange i then some (.int i h) else double
    | none => double

end Numeral

end ChainWatch.Json
