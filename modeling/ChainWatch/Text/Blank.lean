/-!
# Blank characters and trimming

Text that people type carries stray blanks at its ends. `Char.isBlank` is the Unicode property
`White_Space`, as a table: it is wider than core's `Char.isWhitespace`, which knows four ASCII
characters. `trimBlank` cuts the longest blank runs from both ends, and `trimEndChar` the longest
run of one character from the end.

Both are defined on the list of characters, where cutting is `List.dropWhile`; the string forms
only convert.
-/

namespace ChainWatch

/-- The Unicode property `White_Space`: twenty-five characters, six of them ASCII. -/
def isBlank (c : Char) : Bool :=
  let n := c.toNat
  (0x09 ≤ n && n ≤ 0x0D) || n == 0x20 || n == 0x85 || n == 0xA0 || n == 0x1680
    || (0x2000 ≤ n && n ≤ 0x200A) || n == 0x2028 || n == 0x2029 || n == 0x202F || n == 0x205F
    || n == 0x3000

/-- Cut from the end every character that satisfies `p`, up to the last one that does not. -/
def dropEndWhile (p : Char → Bool) (cs : List Char) : List Char :=
  (cs.reverse.dropWhile p).reverse

/-- Cut the blanks from both ends. -/
def trimBlankChars (cs : List Char) : List Char :=
  dropEndWhile isBlank (cs.dropWhile isBlank)

/-- Cut the blanks from both ends of a text. -/
def trimBlank (s : String) : String :=
  String.ofList (trimBlankChars s.toList)

/-- Cut every `c` that stands at the end of a text. -/
def trimEndChar (c : Char) (s : String) : String :=
  String.ofList (dropEndWhile (· == c) s.toList)

end ChainWatch
