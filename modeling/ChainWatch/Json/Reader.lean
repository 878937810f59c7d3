import ChainWatch.Json.Tree
import ChainWatch.Text.Utf8

/-!
# Reading JSON text

`Tree.read?` takes a whole text: one value with blanks around it and nothing else. Blank are the
space, the tab, the line feed and the carriage return. The grammar is strict: no leading zero, a
digit on both sides of a point, no comma before a closing bracket, no raw control in a string.

`Tree.readBytes?` takes bytes that need not be UTF-8 throughout. The grammar has characters beyond
ASCII in strings only, and there it takes whatever comes, up to the closing quote. So a fault in a
string makes it one that denotes nothing, like half of a surrogate pair, and only who reads the
string minds; a fault anywhere else is a fault in the grammar.

The functions work on the list of symbols, a symbol being a character or a fault (`Symbol`), and
give what they read and the symbols after it. `value` and its two companions call each other once
for each bracket, comma and colon, so they take the number of calls they may make; the number of
symbols is enough, and the whole readers hide it.
-/

namespace ChainWatch.Json

/-- What stands at one place of a text: a character, or `none` where bytes are not UTF-8. -/
abbrev Symbol := Option Char

/-- The blanks of the grammar. -/
def isSpace (s : Symbol) : Bool :=
  s = some ' ' || s = some '\t' || s = some '\n' || s = some '\r'

/-- Go to the first symbol that is not blank. -/
def skipSpace (cs : List Symbol) : List Symbol :=
  cs.dropWhile isSpace

/-! ### Strings -/

/-- One piece of a string: a character, one half of a surrogate pair by its number, or bytes that
are no character. -/
inductive Piece where
  | char (c : Char)
  | half (unit : Nat)
  | fault
deriving DecidableEq, Repr

/-- The value of a hexadecimal digit. -/
def escapeValue? (c : Char) : Option Nat :=
  let n := c.toNat
  if 48 ≤ n ∧ n ≤ 57 then some (n - 48)
  else if 97 ≤ n ∧ n ≤ 102 then some (n - 87)
  else if 65 ≤ n ∧ n ≤ 70 then some (n - 55)
  else none

/-- The number of four hexadecimal digits. -/
def escapeUnit? (a b c d : Char) : Option Nat := do
  let a ← escapeValue? a
  let b ← escapeValue? b
  let c ← escapeValue? c
  let d ← escapeValue? d
  return a * 4096 + b * 256 + c * 16 + d

/-- The piece of an escape by number. -/
def Piece.ofUnit (unit : Nat) : Piece :=
  if 0xD800 ≤ unit ∧ unit < 0xE000 then .half unit else .char (Char.ofNat unit)

/-- The character of an escape by letter. -/
def letterEscape? (c : Char) : Option Char :=
  if c = '"' ∨ c = '\\' ∨ c = '/' then some c
  else if c = 'b' then some (Char.ofNat 0x08)
  else if c = 'f' then some (Char.ofNat 0x0C)
  else if c = 'n' then some '\n'
  else if c = 'r' then some '\r'
  else if c = 't' then some '\t'
  else none

/-- The pieces of a string after its opening quote, up to and with the closing one. -/
def pieces : List Symbol → Option (List Piece × List Symbol)
  | [] => none
  | none :: rest => do
    let (ps, rest) ← pieces rest
    return (.fault :: ps, rest)
  | some '"' :: rest => some ([], rest)
  | some '\\' :: some 'u' :: some a :: some b :: some c :: some d :: rest => do
    let unit ← escapeUnit? a b c d
    let (ps, rest) ← pieces rest
    return (Piece.ofUnit unit :: ps, rest)
  | some '\\' :: some c :: rest => do
    let c ← letterEscape? c
    let (ps, rest) ← pieces rest
    return (.char c :: ps, rest)
  | some c :: rest =>
    if c.toNat < 0x20 ∨ c = '\\' then none
    else do
      let (ps, rest) ← pieces rest
      return (.char c :: ps, rest)

/-- The characters of pieces: two halves in the right order are one character, and any other half
spoils the string, as does a fault. -/
def joinPieces : List Piece → Option (List Char)
  | [] => some []
  | .char c :: ps => (joinPieces ps).map (c :: ·)
  | .half high :: .half low :: ps =>
    if high < 0xDC00 ∧ 0xDC00 ≤ low then
      (joinPieces ps).map
        (Char.ofNat (0x10000 + (high - 0xD800) * 1024 + (low - 0xDC00)) :: ·)
    else none
  | .half _ :: _ => none
  | .fault :: _ => none

/-- A string after its opening quote, and the symbols after its closing one. -/
def stringBody (cs : List Symbol) : Option (Option String × List Symbol) := do
  let (ps, rest) ← pieces cs
  return ((joinPieces ps).map String.ofList, rest)

/-! ### Numbers -/

/-- The value of a decimal digit. -/
def digitValue? (s : Symbol) : Option Nat := do
  let c ← s
  if 48 ≤ c.toNat ∧ c.toNat ≤ 57 then some (c.toNat - 48) else none

/-- The digits at the front. -/
def digits : List Symbol → List Nat × List Symbol
  | [] => ([], [])
  | c :: cs =>
    match digitValue? c with
    | some d => let (ds, rest) := digits cs; (d :: ds, rest)
    | none => ([], c :: cs)

/-- One digit or more at the front. -/
def someDigits (cs : List Symbol) : Option (List Nat × List Symbol) :=
  let (ds, rest) := digits cs
  if ds.isEmpty then none else some (ds, rest)

/-- The whole part of a numeral: a single zero, or digits that do not begin with one. -/
def wholePart (cs : List Symbol) : Option (List Nat × List Symbol) := do
  let (ds, rest) ← someDigits cs
  if ds.head? = some 0 ∧ ds.length ≠ 1 then none else some (ds, rest)

/-- The fraction of a numeral, if there is a point. -/
def fractionPart : List Symbol → Option (Option (List Nat) × List Symbol)
  | some '.' :: cs => do
    let (ds, rest) ← someDigits cs
    return (some ds, rest)
  | cs => some (none, cs)

/-- The sign and the digits of an exponent after its mark. -/
def exponentBody : List Symbol → Option ((Bool × List Nat) × List Symbol)
  | some '-' :: cs => (someDigits cs).map fun (ds, rest) => ((true, ds), rest)
  | some '+' :: cs => (someDigits cs).map fun (ds, rest) => ((false, ds), rest)
  | cs => (someDigits cs).map fun (ds, rest) => ((false, ds), rest)

/-- The exponent of a numeral, if there is a mark. -/
def exponentPart : List Symbol → Option (Option (Bool × List Nat) × List Symbol)
  | some 'e' :: cs => (exponentBody cs).map fun (e, rest) => (some e, rest)
  | some 'E' :: cs => (exponentBody cs).map fun (e, rest) => (some e, rest)
  | cs => some (none, cs)

/-- A numeral after its sign. -/
def unsignedNumeral (minus : Bool) (cs : List Symbol) : Option (Numeral × List Symbol) := do
  let (whole, cs) ← wholePart cs
  let (fraction, cs) ← fractionPart cs
  let (exponent, cs) ← exponentPart cs
  return (⟨minus, whole, fraction, exponent⟩, cs)

/-- A numeral at the front. -/
def numeral : List Symbol → Option (Numeral × List Symbol)
  | some '-' :: cs => unsignedNumeral true cs
  | cs => unsignedNumeral false cs

/-! ### Values -/

mutual

/-- A value at the front, after blanks. -/
def value : Nat → List Symbol → Option (Tree × List Symbol)
  | 0, _ => none
  | fuel + 1, cs =>
    match skipSpace cs with
    | some 'n' :: some 'u' :: some 'l' :: some 'l' :: rest => some (.null, rest)
    | some 't' :: some 'r' :: some 'u' :: some 'e' :: rest => some (.bool true, rest)
    | some 'f' :: some 'a' :: some 'l' :: some 's' :: some 'e' :: rest => some (.bool false, rest)
    | some '"' :: rest => (stringBody rest).map fun (s, rest) => (.string s, rest)
    | some '[' :: rest =>
      match skipSpace rest with
      | some ']' :: rest => some (.array [], rest)
      | rest => (items fuel rest).map fun (ts, rest) => (.array ts, rest)
    | some '{' :: rest =>
      match skipSpace rest with
      | some '}' :: rest => some (.object [], rest)
      | rest => (members fuel rest).map fun (ms, rest) => (.object ms, rest)
    | rest => (numeral rest).map fun (n, rest) => (.number n.value?, rest)

/-- The items of an array that has one, up to and with the closing bracket. -/
def items : Nat → List Symbol → Option (List Tree × List Symbol)
  | 0, _ => none
  | fuel + 1, cs => do
    let (t, rest) ← value fuel cs
    match skipSpace rest with
    | some ',' :: rest => do
      let (ts, rest) ← items fuel rest
      return (t :: ts, rest)
    | some ']' :: rest => some ([t], rest)
    | _ => none

/-- The members of an object that has one, up to and with the closing brace. -/
def members : Nat → List Symbol → Option (List (Option String × Tree) × List Symbol)
  | 0, _ => none
  | fuel + 1, cs =>
    match skipSpace cs with
    | some '"' :: rest => do
      let (name, rest) ← stringBody rest
      match skipSpace rest with
      | some ':' :: rest => do
        let (t, rest) ← value fuel rest
        match skipSpace rest with
        | some ',' :: rest => do
          let (ms, rest) ← members fuel rest
          return ((name, t) :: ms, rest)
        | some '}' :: rest => some ([(name, t)], rest)
        | _ => none
      | _ => none
    | _ => none

end

namespace Tree

/-- Read a whole list of symbols as one value. -/
def readSymbols? (symbols : List Symbol) : Option Tree := do
  let (t, rest) ← value (symbols.length + 1) symbols
  if (skipSpace rest).isEmpty then some t else none

/-- Read a whole list of characters as one value. -/
def readChars? (cs : List Char) : Option Tree :=
  readSymbols? (cs.map some)

/-- Read a whole text as one value. -/
def read? (s : String) : Option Tree :=
  readChars? s.toList

/-- Read bytes as one value. -/
def readBytes? (bytes : List UInt8) : Option Tree :=
  readSymbols? ((readUtf8 bytes).map Except.toOption)

end Tree

end ChainWatch.Json
