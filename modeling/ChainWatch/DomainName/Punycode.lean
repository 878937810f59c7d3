/-!
# Names in plain letters

Labels with other characters than plain letters, digits and hyphens are written with these alone:
first the plain characters of the label, then, after a hyphen if there are any, the others as a
series of numbers (`encode`). The others are inserted one by one in ascending order of their codes,
and each number says how far on the next insertion is, counting through all places of all codes.
`decode?` reads such a label back.

Numbers have thirty-six digits, the least one first. Which digit ends a number depends on its place
and on a bias that adapts to the sizes of the numbers before.
-/

namespace ChainWatch.DomainName.Punycode

/-! ### Digits -/

/-- The number of digits. -/
def base : Nat := 36

/-- The digit of a value: letters, then the decimal digits. -/
def digit (d : Nat) : Char :=
  if d < 26 then Char.ofNat (97 + d) else Char.ofNat (22 + d)

/-- The value of a digit. -/
def digitValue? (c : Char) : Option Nat :=
  let n := c.toNat
  if 97 ≤ n ∧ n ≤ 122 then some (n - 97)
  else if 48 ≤ n ∧ n ≤ 57 then some (n - 22)
  else none

/-- The least digit that does not end a number at the place `k`, which counts by the base. -/
def threshold (bias k : Nat) : Nat := max 1 (min 26 (k - bias))

/-- Divide until a number is small, and count by the base. -/
def settle (delta k : Nat) : Nat × Nat :=
  if 455 < delta then settle (delta / 35) (k + base) else (delta, k)
termination_by delta
decreasing_by exact Nat.div_lt_self (by omega) (by omega)

/-- The bias after a number, when there are `count` characters with the one just inserted. -/
def adapt (delta count : Nat) (isFirst : Bool) : Nat :=
  let delta := if isFirst then delta / 700 else delta / 2
  let (delta, k) := settle (delta + delta / count) 0
  k + base * delta / (delta + 38)

/-! ### Writing -/

/-- Write a number from the place `k` on. -/
def writeNumber (bias k n : Nat) : List Char :=
  let t := threshold bias k
  if n < t then [digit n]
  else digit (t + (n - t) % (base - t)) :: writeNumber bias (k + base) ((n - t) / (base - t))
termination_by n
decreasing_by
  have : 1 ≤ threshold bias k := Nat.le_max_left ..
  exact Nat.lt_of_le_of_lt (Nat.div_le_self ..) (by omega)

/-- How far an encoding has come. -/
structure Writer where
  /-- The code to be inserted. -/
  code : Nat
  /-- How many places were passed since the last insertion. -/
  delta : Nat := 0
  bias : Nat := 72
  /-- How many characters are written or inserted. -/
  count : Nat
  /-- Is no character inserted yet? -/
  isFirst : Bool := true
  /-- The numbers, the last digit first. -/
  digits : List Char := []

namespace Writer

/-- Pass a place of the label, at which there is the character `c`. -/
def visit (w : Writer) (c : Char) : Writer :=
  if c.toNat < w.code then { w with delta := w.delta + 1 }
  else if c.toNat = w.code then
    { w with
      delta := 0
      bias := adapt w.delta (w.count + 1) w.isFirst
      count := w.count + 1
      isFirst := false
      digits := (writeNumber w.bias base w.delta).reverse ++ w.digits }
  else w

/-- Pass all places with a code, those of the codes in between at once. -/
def insertAll (label : List Char) (w : Writer) (code : Nat) : Writer :=
  let w := { w with code := code, delta := w.delta + (code - w.code) * (w.count + 1) }
  let w := label.foldl visit w
  { w with code := code + 1, delta := w.delta + 1 }

end Writer

/-- Is a character written as it is? -/
def isPlainLetter (c : Char) : Bool := c.toNat < 128

/-- Write a label. -/
def encode (label : List Char) : List Char :=
  let plain := label.filter isPlainLetter
  let codes := (label.filterMap fun c => if isPlainLetter c then none else some c.toNat)
  let codes := codes.mergeSort.eraseDups
  let w := codes.foldl (Writer.insertAll label) { code := 128, count := plain.length }
  plain ++ (if plain.isEmpty then [] else ['-']) ++ w.digits.reverse

/-! ### Reading -/

/-- Read a number from the place `k` on, and add it to `total`. Sums and weights must fit a word. -/
def readNumber? (bias : Nat) : List Char → Nat → Nat → Nat → Option (Nat × List Char)
  | [], _, _, _ => none
  | c :: cs, k, weight, total =>
    match digitValue? c with
    | none => none
    | some d =>
      let t := threshold bias k
      let total := total + d * weight
      if UInt32.size ≤ total then none
      else if d < t then some (total, cs)
      else if UInt32.size ≤ weight * (base - t) then none
      else readNumber? bias cs (k + base) (weight * (base - t)) total

/-- Reading a number takes at least one digit. -/
theorem length_lt_of_readNumber? {bias : Nat} {cs : List Char} {k weight total : Nat}
    {n : Nat × List Char} (h : readNumber? bias cs k weight total = some n) :
    n.2.length < cs.length := by
  induction cs generalizing k weight total with
  | nil => simp [readNumber?] at h
  | cons c cs ih =>
    simp only [readNumber?] at h
    split at h
    · simp at h
    · split at h
      · simp at h
      · split at h
        · obtain rfl := Option.some.inj h
          simp
        · split at h
          · simp at h
          · exact Nat.lt_trans (ih h) (by simp)

/-- Read insertions into a label, of which the next one is at `place` or later. -/
def readInsertions? (code bias place : Nat) (label : List Char) (cs : List Char) :
    Option (List Char) :=
  match cs with
  | [] => some label
  | c :: cs =>
    match h : readNumber? bias (c :: cs) base 1 place with
    | none => none
    | some (total, rest) =>
      let count := label.length + 1
      let code := code + total / count
      let index := total % count
      if code.isValidChar then
        readInsertions? code (adapt (total - place) count (place = 0)) (index + 1)
          (label.insertIdx index (Char.ofNat code)) rest
      else none
termination_by cs.length
decreasing_by exact length_lt_of_readNumber? h

/-- Read a label. -/
def decode? (cs : List Char) : Option (List Char) :=
  match cs.reverse.span (· != '-') with
  | (_, []) => readInsertions? 128 72 0 [] cs
  | (digits, _ :: plain) =>
    if plain.isEmpty then none else readInsertions? 128 72 0 plain.reverse digits.reverse

example : encode "bücher".toList = "bcher-kva".toList := by decide +kernel
example : decode? "bcher-kva".toList = some "bücher".toList := by decide +kernel
example : decode? "zzzzzzzzzzzz".toList = none := by decide +kernel

end ChainWatch.DomainName.Punycode
