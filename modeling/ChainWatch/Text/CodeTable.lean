import ChainWatch.Text.Hex
import ChainWatch.Text.Pieces

/-!
# Tables over characters

What a standard lists about characters is kept as text: words of hexadecimal numbers between blanks,
in ascending order. A word names a run of characters, `AD` one of them or `41-5A` all from the first
to the last, and then says what they are to other characters (`Relation`):

* nothing: the run belongs to a set (`30-39`);
* `=`: they all have the same image, some characters or a number (`FB00=66+66`);
* `>`: their images follow each other as they do (`41-5A>61`);
* `~`: so do the images of every other one of them, and those between have none (`100-12E~101`).

A `CodeTable` holds the runs in their order, and `CodeTable.find?` finds the run of a character by
halving.
-/

namespace ChainWatch

/-- What a run of characters is to its codes. -/
inductive Relation where
  /-- The run belongs to a set. -/
  | member
  /-- All have the codes. -/
  | equal
  /-- The code of the first is given, and those of the others follow. -/
  | shifted
  /-- The same for every other one. -/
  | alternating
deriving DecidableEq, Repr

/-- A run of characters and what a table says of it. -/
structure CodeRun where
  first : Nat
  last : Nat
  relation : Relation
  codes : List Nat
deriving DecidableEq, Repr

namespace CodeRun

/-- The image of a character of the run, if it has one. -/
def image? (r : CodeRun) (c : Nat) : Option (List Nat) :=
  let offset := c - r.first
  match r.relation with
  | .member => none
  | .equal => some r.codes
  | .shifted => some (r.codes.map (· + offset))
  | .alternating => if offset % 2 = 0 then some (r.codes.map (· + offset)) else none

/-! ### Reading -/

/-- Read a hexadecimal number; what is no digit is passed over. -/
def readCode (cs : List Char) : Nat :=
  cs.foldl (fun n c => match hexValue? (UInt8.ofNat c.toNat) with
    | some d => n * 16 + d
    | none => n) 0

/-- The relation that a mark stands for. -/
def relationOf? (c : Char) : Option Relation :=
  if c = '=' then some .equal
  else if c = '>' then some .shifted
  else if c = '~' then some .alternating
  else none

/-- Read a word. -/
def ofWord (word : List Char) : CodeRun :=
  let (run, meaning) := cutAt (fun c => (relationOf? c).isSome) word
  let (first, last) := cutAt (· == '-') run
  let first := readCode first
  { first := first
    last := if last.isEmpty then first else readCode last
    relation := (meaning.head?.bind relationOf?).getD .member
    codes := if meaning.isEmpty then [] else (splitWhere (· == '+') (meaning.drop 1)).map readCode }

end CodeRun

/-- The words of a line, in their order. -/
def wordsOf (line : String) : List (List Char) :=
  (splitWhere (· == ' ') line.toList).filter fun word => !word.isEmpty

/-- Runs of characters in ascending order. -/
structure CodeTable where
  runs : Array CodeRun

namespace CodeTable

/-- Read a table. -/
def ofLines (lines : List String) : CodeTable where
  runs := (lines.flatMap fun line => (wordsOf line).map CodeRun.ofWord).toArray

/-- How many runs begin no later than `c`, if those before `low` do and none from `high` on. -/
def countUpTo (t : CodeTable) (c low high : Nat) : Nat :=
  if h : low < high then
    let middle := (low + high) / 2
    if (t.runs[middle]?.map CodeRun.first).getD c ≤ c then countUpTo t c (middle + 1) high
    else countUpTo t c low middle
  else low
termination_by high - low
decreasing_by all_goals omega

/-- The run that a number belongs to. -/
def find? (t : CodeTable) (c : Nat) : Option CodeRun := do
  let run ← t.runs[t.countUpTo c 0 t.runs.size - 1]?
  if run.first ≤ c ∧ c ≤ run.last then some run else none

/-- Does a character belong to a run? -/
def contains (t : CodeTable) (c : Char) : Bool := (t.find? c.toNat).isSome

/-- The image of a character. -/
def image? (t : CodeTable) (c : Char) : Option (List Nat) := do
  (← t.find? c.toNat).image? c.toNat

end CodeTable

example : CodeRun.ofWord "100-12E~101".toList = ⟨0x100, 0x12E, .alternating, [0x101]⟩ := by
  decide +kernel
example : CodeRun.ofWord "FB00=66+66".toList = ⟨0xFB00, 0xFB00, .equal, [0x66, 0x66]⟩ := by
  decide +kernel
example : (CodeTable.ofLines ["30-39 41-5A>61", "FB00=66+66"]).image? 'Q' = some [0x71] := by
  decide +kernel
example : (CodeTable.ofLines ["30-39 41-5A>61", "FB00=66+66"]).contains 'q' = false := by
  decide +kernel

end ChainWatch
