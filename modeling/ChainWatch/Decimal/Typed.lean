import ChainWatch.Decimal.Binary64

/-!
# Numbers that people type

A number on a command line may have a sign, needs a digit on one side of its point only, and may be
infinite or invalid by name, in either case (`Binary64.ofTyped?`). Integers have decimal digits and
perhaps a sign (`natOfTyped?`, `intOfTyped?`).
-/

namespace ChainWatch

/-- The number of decimal digits, all of which are digits, at least one. -/
def digitsValue? (cs : List Char) : Option Nat :=
  if cs.isEmpty || cs.any fun c => !c.isDigit then none
  else some (cs.foldl (fun n c => n * 10 + (c.toNat - 48)) 0)

/-- A sign, if there is one: is it a minus? -/
def cutSign : List Char → Bool × List Char
  | '-' :: cs => (true, cs)
  | '+' :: cs => (false, cs)
  | cs => (false, cs)

/-- A natural number, perhaps after a plus. -/
def natOfTyped? (s : String) : Option Nat :=
  match s.toList with
  | '+' :: cs => digitsValue? cs
  | cs => digitsValue? cs

/-- An integer, perhaps after a sign. -/
def intOfTyped? (s : String) : Option Int := do
  let (negative, cs) := cutSign s.toList
  let n ← digitsValue? cs
  return if negative then -n else n

namespace Binary64

/-- The exponent after its mark, or zero without a mark. -/
def typedExponent? : List Char → Option Int
  | [] => some 0
  | mark :: cs =>
    if mark = 'e' ∨ mark = 'E' then do
      let (negative, cs) := cutSign cs
      let n ← digitsValue? cs
      return if negative then -n else n
    else none

/-- A number without its sign. -/
def ofTypedMagnitude? (negative : Bool) (cs : List Char) : Option Binary64 :=
  let name := String.ofList (cs.map Char.toLower)
  if name = "inf" ∨ name = "infinity" then some (infinity.withSign negative)
  else if name = "nan" then some (nan.withSign negative)
  else do
    let whole := cs.takeWhile Char.isDigit
    let rest := cs.dropWhile Char.isDigit
    let (fraction, rest) := match rest with
      | '.' :: rest => (rest.takeWhile Char.isDigit, rest.dropWhile Char.isDigit)
      | rest => ([], rest)
    let exponent ← typedExponent? rest
    let digits ← digitsValue? (whole ++ fraction)
    return ofDecimal negative digits (exponent - fraction.length)

/-- A number that people type. -/
def ofTyped? (s : String) : Option Binary64 :=
  let (negative, cs) := cutSign s.toList
  ofTypedMagnitude? negative cs

end Binary64

end ChainWatch
