import ChainWatch.Decimal.Binary64

/-!
# The shortest decimal that reads back

A finite double precision number owns the reals that round to it. Among the decimals in that
interval `Binary64.shortest` gives one with the fewest digits, and of those one nearest to the
number. Where two are equally near, the format that asks decides between them (`Tie`).

The search goes by grids. For `1, 2, … 17` digits the grid of that many leading digits is walked at
the two points next to the number, below and above; the first grid with a point inside the interval
wins. No more than two points need a look: the interval holds the number itself, so if it holds a
point of a grid it holds one of the two neighbours. Seventeen digits always suffice.

Everything is compared as whole numbers, in units of a quarter of the gap above the number: there
the number is `4 * significand`, the upper end is two units away, and the lower end is two units
away or, just above a power of two, one.
-/

namespace ChainWatch

/-- Which of two equally near neighbours on a grid is taken. -/
inductive Tie where
  /-- The one that is an even number of units. -/
  | toEven
  /-- The greater one. -/
  | up
deriving DecidableEq, Repr

/-- Does a tie between a grid point and the next greater one go to the former? -/
def Tie.keeps (tie : Tie) (below : Nat) : Bool :=
  match tie with
  | .toEven => below % 2 == 0
  | .up => false

/-- The decimal `digits * 10 ^ exponent`. -/
structure Decimal where
  digits : Nat
  exponent : Int
deriving DecidableEq, Repr

namespace Decimal

/-- Drop the zeros at the end of the digits, at most `n` of them. -/
def trimZeros : Nat → Decimal → Decimal
  | 0, d => d
  | n + 1, d => if d.digits % 10 = 0 then trimZeros n ⟨d.digits / 10, d.exponent + 1⟩ else d

end Decimal

namespace Binary64

/-- Where a grid point lies: it is the fraction `top / bottom` of a quarter gap, for each unit. -/
structure GridUnit where
  top : Nat
  bottom : Nat

/-- The unit `10 ^ k` of a grid, in quarter gaps of a number whose scale is `q`. -/
def gridUnit (q k : Int) : GridUnit where
  top := tenTo k.toNat <<< (2 - q).toNat
  bottom := tenTo (-k).toNat <<< (q - 2).toNat

/-- The lower end of the interval of reals that round to `x`, in quarter gaps. -/
def lowEnd (x : Binary64) : Nat :=
  4 * x.significand - (if x.fractionField = 0 ∧ 1 < x.exponentField then 1 else 2)

/-- The upper end of the interval of reals that round to `x`, in quarter gaps. -/
def highEnd (x : Binary64) : Nat :=
  4 * x.significand + 2

/-- Does the grid point `c` round to `x`? The ends count if the significand is even. -/
def owns (x : Binary64) (u : GridUnit) (c : Nat) : Bool :=
  let p := c * u.top
  let low := x.lowEnd * u.bottom
  let high := x.highEnd * u.bottom
  if x.significand % 2 = 0 then low ≤ p && p ≤ high else low < p && p < high

/-- The point of one grid that stands for `x`, if one rounds to it: the nearer of the two
neighbours, where a tie goes as `tie` says. -/
def gridPoint? (tie : Tie) (x : Binary64) (u : GridUnit) : Option Nat :=
  let v := 4 * x.significand * u.bottom
  let below := v / u.top
  let gap := v % u.top
  let nearBelow := 2 * gap < u.top || (2 * gap == u.top && tie.keeps below)
  match x.owns u below, x.owns u (below + 1) with
  | true, true => some (if nearBelow then below else below + 1)
  | true, false => some below
  | false, true => some (below + 1)
  | false, false => none

/-- The exponent of the leading decimal digit of a finite number that is not zero: the greatest `e`
with `10 ^ e` no larger than the number. -/
def leadingExponent (x : Binary64) : Int :=
  let binary : Int := (x.significand.log2 : Int) + x.scale
  let guess := binary * 30103 / 100000
  let reaches (e : Int) : Bool :=
    let u := gridUnit x.scale e
    u.top ≤ 4 * x.significand * u.bottom
  if reaches (guess + 1) then guess + 1 else if reaches guess then guess else guess - 1

/-- Search the grids of `n, n + 1, …` digits, `fuel` of them. -/
def searchGrids (tie : Tie) (x : Binary64) (lead : Int) : Nat → Nat → Decimal
  | _, 0 => ⟨0, 0⟩
  | n, fuel + 1 =>
    let k := lead - n + 1
    match x.gridPoint? tie (gridUnit x.scale k) with
    | some c => Decimal.trimZeros 17 ⟨c, k⟩
    | none => searchGrids tie x lead (n + 1) fuel

/-- The shortest decimal that reads back as the magnitude of a finite number. -/
def shortest (x : Binary64) (tie : Tie) : Decimal :=
  if x.significand = 0 then ⟨0, 0⟩ else searchGrids tie x x.leadingExponent 1 17

end Binary64

example : (Binary64.ofRatio false 1 10).shortest .toEven = ⟨1, -1⟩ := by decide +kernel
example : (Binary64.ofNat 123456789012345680).shortest .up = ⟨12345678901234568, 1⟩ := by
  decide +kernel
example : (Binary64.mk 1).shortest .up = ⟨5, -324⟩ := by decide +kernel
example : (Binary64.ofRatio false 1 33554432).shortest .up = ⟨29802322387695313, -24⟩ := by
  decide +kernel
example : (Binary64.ofRatio false 1 33554432).shortest .toEven = ⟨29802322387695312, -24⟩ := by
  decide +kernel

end ChainWatch
