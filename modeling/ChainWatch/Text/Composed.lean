import ChainWatch.Text.Composed.Composite
import ChainWatch.Text.Composed.CombiningClass

/-!
# Composed text

The same text can be written with composite characters or with their parts, and with the marks of a
letter in different orders. `composed` gives the one form that is as short as it gets: all
characters are taken apart, the marks of each letter are put in the order of their classes, and then
each mark is drawn into the letter before it if there is a composite for the two. A mark reaches its
letter over others only if these are all of lower classes.
-/

namespace ChainWatch

/-! ### Hangul -/

/-- The first syllable. -/
def firstSyllable : Nat := 0xAC00

/-- The numbers of the first leading, vowel and trailing letter; the one before the first trailing
letter stands for none. -/
def firstLeading : Nat := 0x1100
def firstVowel : Nat := 0x1161
def noTrailing : Nat := 0x11A7

/-- How many vowels and trailing letters there are, counting none as one. -/
def vowelCount : Nat := 21
def trailingCount : Nat := 28

/-- How many syllables there are: one for each of nineteen leading letters, vowels and trailing
letters. -/
def syllableCount : Nat := 19 * vowelCount * trailingCount

/-- The letters of a syllable. -/
def lettersOfSyllable? (c : Nat) : Option (List Nat) :=
  let index := c - firstSyllable
  if c < firstSyllable ∨ syllableCount ≤ index then none
  else
    let trailing := index % trailingCount
    let pair := [firstLeading + index / trailingCount / vowelCount,
      firstVowel + index / trailingCount % vowelCount]
    some (if trailing = 0 then pair else pair ++ [noTrailing + trailing])

/-- The syllable of a leading letter and a vowel, or of a syllable without a trailing letter and
one. -/
def syllable? (a b : Nat) : Option Nat :=
  if firstLeading ≤ a ∧ a < firstLeading + 19 ∧ firstVowel ≤ b ∧ b < firstVowel + vowelCount then
    some (firstSyllable + ((a - firstLeading) * vowelCount + (b - firstVowel)) * trailingCount)
  else if firstSyllable ≤ a ∧ a - firstSyllable < syllableCount
      ∧ (a - firstSyllable) % trailingCount = 0
      ∧ noTrailing < b ∧ b < noTrailing + trailingCount then
    some (a + (b - noTrailing))
  else none

/-! ### Taking apart -/

/-- The parts of a character; composites of composites are taken apart `depth` times. -/
def partsWithin : Nat → Char → List Char
  | 0, c => [c]
  | depth + 1, c =>
    match lettersOfSyllable? c.toNat, expansions.image? c, composites.image? c with
    | some letters, _, _ => letters.map Char.ofNat
    | none, some codes, _ => codes.map Char.ofNat
    | none, none, some codes => codes.flatMap fun code => partsWithin depth (Char.ofNat code)
    | none, none, none => [c]

/-- The parts of a character. No composite is nested deeper than this. -/
def partsOf (c : Char) : List Char := partsWithin 4 c

/-! ### Putting marks in order -/

/-- Put a character before a list whose marks are in order: it moves behind the marks of lower
classes. -/
def insertMark (c : Char) : List Char → List Char
  | [] => [c]
  | d :: ds =>
    if 0 < combiningClass d ∧ combiningClass d < combiningClass c then d :: insertMark c ds
    else c :: d :: ds

/-- Put the marks after each letter in the order of their classes; equal ones stay as they are. -/
def orderMarks (cs : List Char) : List Char := cs.foldr insertMark []

/-! ### Composing -/

/-- The composite of two characters. -/
def composite? (a b : Char) : Option Char :=
  match syllable? a.toNat b.toNat with
  | some code => some (Char.ofNat code)
  | none =>
    (composites.runs.find? fun run => run.codes == [a.toNat, b.toNat]).map fun run =>
      Char.ofNat run.first

/-- Compose what follows a letter, of whose marks some are `kept`, the last one first. -/
def composeAfter (letter : Char) (kept : List Char) : List Char → List Char
  | [] => letter :: kept.reverse
  | c :: cs =>
    let reaches := kept.head?.all fun mark => combiningClass mark < combiningClass c
    match (if reaches then composite? letter c else none) with
    | some whole => composeAfter whole kept cs
    | none =>
      if combiningClass c = 0 then letter :: kept.reverse ++ composeAfter c [] cs
      else composeAfter letter (c :: kept) cs

/-- Compose characters whose marks are in order. Marks before the first letter stay. -/
def compose : List Char → List Char
  | [] => []
  | c :: cs => if combiningClass c = 0 then composeAfter c [] cs else c :: compose cs

/-- The composed form of a text. -/
def composed (cs : List Char) : List Char :=
  compose (orderMarks (cs.flatMap partsOf))

end ChainWatch
