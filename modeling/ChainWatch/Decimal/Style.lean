import ChainWatch.Decimal.Shortest

/-!
# Writing a number as text

A `NumeralStyle` is the set of choices that a format makes about numbers whose digits are known:
which exponents are written positionally, whether a whole number shows a zero after its point, and
which of two equally near sequences of digits is taken. `Binary64.write` is the one function that
applies them, to the shortest digits that read back. In scientific notation one digit stands before
the point, the exponent always shows its sign, and it has no leading zeros.
-/

namespace ChainWatch

/-- How a format writes numbers. -/
structure NumeralStyle where
  /-- Is a number whose leading digit has this exponent written without an exponent? -/
  positional : Int → Bool
  /-- Is a whole number that is written positionally followed by a point and a zero? -/
  marksWhole : Bool
  /-- Which of two equally near shortest decimals is written? -/
  tie : Tie

/-- The decimal digits of a natural number. -/
def natDigits (n : Nat) : List Char :=
  Nat.toDigits 10 n

/-- The decimal digits of an integer, after a sign if it is negative. -/
def intDigits (i : Int) : List Char :=
  if i < 0 then '-' :: natDigits i.natAbs else natDigits i.natAbs

namespace NumeralStyle

/-- Write digits with the point after `10 ^ exponent` of them. -/
def writePositional (style : NumeralStyle) (ds : List Char) (exponent : Int) : List Char :=
  let point : Int := ds.length + exponent
  if 0 ≤ exponent then
    ds ++ List.replicate exponent.toNat '0' ++ (if style.marksWhole then ['.', '0'] else [])
  else if 0 < point then
    ds.take point.toNat ++ '.' :: ds.drop point.toNat
  else
    '0' :: '.' :: (List.replicate (-point).toNat '0' ++ ds)

/-- Write digits with one before the point, and the exponent of that one. -/
def writeScientific (ds : List Char) (lead : Int) : List Char :=
  let fraction := ds.drop 1
  ds.take 1 ++ (if fraction.isEmpty then [] else '.' :: fraction)
    ++ 'e' :: (if 0 ≤ lead then '+' else '-') :: natDigits lead.natAbs

/-- Write a decimal. -/
def writeDecimal (style : NumeralStyle) (d : Decimal) : List Char :=
  let ds := natDigits d.digits
  let lead := d.exponent + ds.length - 1
  if style.positional lead then style.writePositional ds d.exponent else writeScientific ds lead

end NumeralStyle

/-- Write a double precision number. -/
def Binary64.write (style : NumeralStyle) (x : Binary64) : List Char :=
  if x.isNan then ['N', 'a', 'N']
  else
    let body := if x.isFinite then style.writeDecimal (x.shortest style.tie) else ['i', 'n', 'f']
    if x.negative then '-' :: body else body

/-- Numbers in messages to people: never an exponent, no point after a whole number, and a tie goes
away from zero. -/
def plainStyle : NumeralStyle where
  positional := fun _ => true
  marksWhole := false
  tie := .up

/-- Numbers in JSON text: positional from `10 ^ -5` up to, and not with, `10 ^ 16`; a whole number
keeps a point so that it reads back as a fraction, and a tie goes to the even digits. -/
def jsonStyle : NumeralStyle where
  positional := fun e => -5 ≤ e && e ≤ 15
  marksWhole := true
  tie := .toEven

example : (Binary64.ofDecimal false 1 22).write jsonStyle = "1e+22".toList := by decide +kernel
example : (Binary64.ofDecimal false 1 (-7)).write jsonStyle = "1e-7".toList := by decide +kernel
example : (Binary64.ofDecimal false 1 (-5)).write jsonStyle = "0.00001".toList := by decide +kernel
example : (Binary64.ofDecimal true 0 0).write jsonStyle = "-0.0".toList := by decide +kernel
example : (Binary64.ofDecimal true 15 (-1)).write plainStyle = "-1.5".toList := by decide +kernel
example : (Binary64.ofNat (UInt64.size - 1)).write plainStyle = "18446744073709552000".toList := by
  decide +kernel

end ChainWatch
