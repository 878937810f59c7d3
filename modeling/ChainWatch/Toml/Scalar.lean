import ChainWatch.Toml.Item
import ChainWatch.Text.Hex

/-!
# Reading TOML scalars

Strings, numbers, truth values and dates, each read from the front of a list of characters. A reader
gives what it read and the characters after it, or nothing; it takes as much as it can, and what may
follow a value is checked by whoever asked for one.

A numeral is a date or a time before it is a fraction, and a fraction before it is an integer, since
each begins like the next. Integers are those of sixty-four bits.
-/

namespace ChainWatch.Toml

/-- Read something from the front of the characters. -/
abbrev Reader (α : Type) := List Char → Option (α × List Char)

/-! ### Characters -/

/-- A space or a tab. -/
def isSpace (c : Char) : Bool := c == ' ' || c == '\t'

/-- A character that may stand in a comment, and in a string unless it means something there. -/
def isPlain (c : Char) : Bool := c == '\t' || (0x20 ≤ c.toNat && c.toNat != 0x7F)

/-- A character that may stand in a key without quotes. -/
def isBareKey (c : Char) : Bool := c.isAlphanum || c == '_' || c == '-'

/-- Go to the first character that is no space. -/
def skipSpace (cs : List Char) : List Char := cs.dropWhile isSpace

/-- Skip the end of a line, if it stands here. -/
def newline? : List Char → Option (List Char)
  | '\n' :: cs => some cs
  | '\r' :: '\n' :: cs => some cs
  | _ => none

/-- Skip a word, if it stands here. -/
def skipWord? : List Char → List Char → Option (List Char)
  | [], cs => some cs
  | w :: ws, c :: cs => if w = c then skipWord? ws cs else none
  | _ :: _, [] => none

/-! ### Strings -/

/-- The character of an escape by letter. -/
def letterEscape? (c : Char) : Option Char :=
  [('b', '\x08'), ('t', '\t'), ('n', '\n'), ('f', '\x0C'), ('r', '\r'), ('"', '"'),
    ('\\', '\\')].lookup c

/-- The character of an escape by number. -/
def numberEscape? (digits : List Char) : Option Char := do
  let n ← digits.foldlM (fun n c => do
    let d ← if c.toNat < 128 then hexValue? (UInt8.ofNat c.toNat) else none
    return n * 16 + d) 0
  if n.isValidChar then some (Char.ofNat n) else none

/-- The rest of a string in quotes. -/
def basicString : Reader (List Char)
  | '"' :: cs => some ([], cs)
  | '\\' :: 'u' :: a :: b :: c :: d :: cs => do
    let x ← numberEscape? [a, b, c, d]
    let (s, cs) ← basicString cs
    return (x :: s, cs)
  | '\\' :: 'U' :: a :: b :: c :: d :: e :: f :: g :: h :: cs => do
    let x ← numberEscape? [a, b, c, d, e, f, g, h]
    let (s, cs) ← basicString cs
    return (x :: s, cs)
  | '\\' :: c :: cs => do
    let x ← letterEscape? c
    let (s, cs) ← basicString cs
    return (x :: s, cs)
  | c :: cs =>
    if isPlain c then do
      let (s, cs) ← basicString cs
      return (c :: s, cs)
    else none
  | [] => none

/-- The rest of a string in apostrophes. -/
def literalString : Reader (List Char)
  | '\'' :: cs => some ([], cs)
  | c :: cs =>
    if isPlain c then do
      let (s, cs) ← literalString cs
      return (c :: s, cs)
    else none
  | [] => none

/-- The rest of a string of several lines in quotes. Three quotes end it, and up to two before
these belong to it. After a backslash at the end of a line all blanks and line ends are skipped
(`skipping`). -/
def basicLines (skipping : Bool) : Reader (List Char)
  | '\n' :: cs =>
    if skipping then basicLines true cs
    else do
      let (s, cs) ← basicLines false cs
      return ('\n' :: s, cs)
  | '\r' :: '\n' :: cs =>
    if skipping then basicLines true cs
    else do
      let (s, cs) ← basicLines false cs
      return ('\n' :: s, cs)
  | '"' :: '"' :: '"' :: '"' :: '"' :: cs => some (['"', '"'], cs)
  | '"' :: '"' :: '"' :: '"' :: cs => some (['"'], cs)
  | '"' :: '"' :: '"' :: cs => some ([], cs)
  | '\\' :: 'u' :: a :: b :: c :: d :: cs => do
    let x ← numberEscape? [a, b, c, d]
    let (s, cs) ← basicLines false cs
    return (x :: s, cs)
  | '\\' :: 'U' :: a :: b :: c :: d :: e :: f :: g :: h :: cs => do
    let x ← numberEscape? [a, b, c, d, e, f, g, h]
    let (s, cs) ← basicLines false cs
    return (x :: s, cs)
  | '\\' :: c :: cs =>
    match letterEscape? c with
    | some x => do
      let (s, cs) ← basicLines false cs
      return (x :: s, cs)
    | none => if (newline? (skipSpace (c :: cs))).isSome then basicLines true (c :: cs) else none
  | c :: cs =>
    if skipping && isSpace c then basicLines true cs
    else if isPlain c && c != '\\' then do
      let (s, cs) ← basicLines false cs
      return (c :: s, cs)
    else none
  | [] => none

/-- The rest of a string of several lines in apostrophes. -/
def literalLines : Reader (List Char)
  | '\'' :: '\'' :: '\'' :: '\'' :: '\'' :: cs => some (['\'', '\''], cs)
  | '\'' :: '\'' :: '\'' :: '\'' :: cs => some (['\''], cs)
  | '\'' :: '\'' :: '\'' :: cs => some ([], cs)
  | '\r' :: '\n' :: cs => do
    let (s, cs) ← literalLines cs
    return ('\n' :: s, cs)
  | c :: cs =>
    if isPlain c || c == '\n' then do
      let (s, cs) ← literalLines cs
      return (c :: s, cs)
    else none
  | [] => none

/-- A line end directly after the opening of a string of several lines does not belong to it. -/
def skipFirstNewline (cs : List Char) : List Char := (newline? cs).getD cs

/-- A string. -/
def string : Reader String := fun cs =>
  let body : Option (List Char × List Char) := match cs with
    | '"' :: '"' :: '"' :: cs => basicLines false (skipFirstNewline cs)
    | '"' :: cs => basicString cs
    | '\'' :: '\'' :: '\'' :: cs => literalLines (skipFirstNewline cs)
    | '\'' :: cs => literalString cs
    | _ => none
  body.map fun (s, cs) => (String.ofList s, cs)

/-! ### Numbers -/

/-- More digits; an underscore may stand between two. -/
def moreDigits (isDigit : Char → Bool) : List Char → List Char × List Char
  | '_' :: c :: cs =>
    if isDigit c then
      let (ds, rest) := moreDigits isDigit cs
      (c :: ds, rest)
    else ([], '_' :: c :: cs)
  | c :: cs =>
    if isDigit c then
      let (ds, rest) := moreDigits isDigit cs
      (c :: ds, rest)
    else ([], c :: cs)
  | [] => ([], [])

/-- One digit or more. -/
def someDigits (isDigit : Char → Bool) : Reader (List Char)
  | c :: cs =>
    if isDigit c then
      let (ds, rest) := moreDigits isDigit cs
      some (c :: ds, rest)
    else none
  | [] => none

/-- A sign, if there is one: is it a minus? -/
def sign : List Char → Bool × List Char
  | '-' :: cs => (true, cs)
  | '+' :: cs => (false, cs)
  | cs => (false, cs)

/-- The digits of a whole number: a single zero, or digits that do not begin with one. -/
def wholeDigits : Reader (List Char)
  | '0' :: cs => some (['0'], cs)
  | cs => someDigits Char.isDigit cs

/-- The number of some digits. -/
def valueOf (base : Nat) (digits : List Char) : Nat :=
  digits.foldl (fun n c => n * base + (hexValue? (UInt8.ofNat c.toNat)).getD 0) 0

/-- An integer of sixty-four bits. -/
def int64? (i : Int) : Option Int :=
  if -0x8000000000000000 ≤ i ∧ i < 0x8000000000000000 then some i else none

/-- Is a character a hexadecimal digit? -/
def isHexDigit (c : Char) : Bool := c.toNat < 128 && (hexValue? (UInt8.ofNat c.toNat)).isSome

/-- An integer after the mark of its base. -/
def basedInteger (base : Nat) : Reader Int := fun cs => do
  let (ds, cs) ← someDigits (fun c => isHexDigit c && valueOf 16 [c] < base) cs
  return (← int64? (valueOf base ds), cs)

/-- An integer. -/
def integer : Reader Int
  | '0' :: 'x' :: cs => basedInteger 16 cs
  | '0' :: 'o' :: cs => basedInteger 8 cs
  | '0' :: 'b' :: cs => basedInteger 2 cs
  | cs => do
    let (negative, cs) := sign cs
    let (ds, cs) ← wholeDigits cs
    let n : Int := valueOf 10 ds
    return (← int64? (if negative then -n else n), cs)

/-- The digits after a point, if there is one; none may follow a point without them. -/
def fraction : Reader (List Char)
  | '.' :: cs => someDigits Char.isDigit cs
  | cs => some ([], cs)

/-- The exponent of a fraction, if there is one. -/
def exponent (cs : List Char) : Option (Int × List Char) :=
  let afterMark : Option (List Char) := match cs with
    | 'e' :: cs => some cs
    | 'E' :: cs => some cs
    | _ => none
  match afterMark with
  | none => some (0, cs)
  | some cs => do
    let (negative, cs) := sign cs
    let (ds, cs) ← someDigits Char.isDigit cs
    let n : Int := valueOf 10 ds
    return (if negative then -n else n, cs)

/-- A number with a point or an exponent. One that is too large is none. -/
def numeral : Reader Binary64 := fun cs => do
  let (negative, cs) := sign cs
  let (whole, cs) ← wholeDigits cs
  let (parts, rest) ← fraction cs
  let (e, rest) ← exponent rest
  if rest.length = cs.length then none
  else
    let x := Binary64.ofDecimal negative (valueOf 10 (whole ++ parts)) (e - parts.length)
    if x = Binary64.infinity then none else some (x, rest)

/-- Infinity or an invalid number, by name. -/
def specialNumber : Reader Binary64 := fun cs =>
  let (negative, cs) := sign cs
  match skipWord? ['i', 'n', 'f'] cs with
  | some cs => some (Binary64.infinity.withSign negative, cs)
  | none => (skipWord? ['n', 'a', 'n'] cs).map fun cs => (Binary64.nan.withSign negative, cs)

/-- A floating point number. -/
def float : Reader Binary64 := fun cs => (numeral cs).or (specialNumber cs)

/-! ### Dates and times -/

/-- A number of exactly so many digits. -/
def fixedDigits (count : Nat) : Reader Nat := fun cs =>
  let ds := cs.take count
  if ds.length = count ∧ ds.all Char.isDigit then some (valueOf 10 ds, cs.drop count) else none

/-- A number of two digits in a range. -/
def twoDigits (low high : Nat) : Reader Nat := fun cs => do
  let (n, cs) ← fixedDigits 2 cs
  if low ≤ n ∧ n ≤ high then some (n, cs) else none

/-- The days of a month. -/
def daysOfMonth (year month : Nat) : Nat :=
  if month = 2 then
    if year % 4 = 0 ∧ (year % 100 ≠ 0 ∨ year % 400 = 0) then 29 else 28
  else if month = 4 ∨ month = 6 ∨ month = 9 ∨ month = 11 then 30
  else 31

/-- Skip a date. -/
def skipDate? (cs : List Char) : Option (List Char) := do
  let (year, cs) ← fixedDigits 4 cs
  let cs ← skipWord? ['-'] cs
  let (month, cs) ← twoDigits 1 12 cs
  let cs ← skipWord? ['-'] cs
  let (_, cs) ← twoDigits 1 (daysOfMonth year month) cs
  return cs

/-- Skip a time. -/
def skipTime? (cs : List Char) : Option (List Char) := do
  let (_, cs) ← twoDigits 0 23 cs
  let cs ← skipWord? [':'] cs
  let (_, cs) ← twoDigits 0 59 cs
  let cs ← skipWord? [':'] cs
  let (_, cs) ← twoDigits 0 60 cs
  match cs with
  | '.' :: rest =>
    let after := rest.dropWhile Char.isDigit
    return if after.length < rest.length then after else cs
  | _ => return cs

/-- Skip the offset of a time, if there is one. -/
def skipOffset (cs : List Char) : List Char :=
  match cs with
  | 'Z' :: rest => rest
  | 'z' :: rest => rest
  | c :: rest =>
    if c = '+' ∨ c = '-' then
      (do
        let (_, rest) ← twoDigits 0 23 rest
        let rest ← skipWord? [':'] rest
        let (_, rest) ← twoDigits 0 59 rest
        return rest).getD cs
    else cs
  | [] => cs

/-- Skip a date, a time, or both. -/
def skipDateTime? (cs : List Char) : Option (List Char) :=
  match skipDate? cs with
  | none => skipTime? cs
  | some afterDate =>
    match afterDate with
    | c :: rest =>
      if c = 'T' ∨ c = 't' ∨ c = ' ' then
        match skipTime? rest with
        | some afterTime => some (skipOffset afterTime)
        | none => some afterDate
      else some afterDate
    | [] => some afterDate

/-! ### Scalars -/

/-- A scalar. -/
def scalar : Reader Scalar := fun cs =>
  match cs with
  | '"' :: _ => (string cs).map fun (s, cs) => (.string s, cs)
  | '\'' :: _ => (string cs).map fun (s, cs) => (.string s, cs)
  | 't' :: _ => (skipWord? "true".toList cs).map fun cs => (.bool true, cs)
  | 'f' :: _ => (skipWord? "false".toList cs).map fun cs => (.bool false, cs)
  | _ =>
    match skipDateTime? cs with
    | some cs => some (.dateTime, cs)
    | none =>
      match float cs with
      | some (x, cs) => some (.float x, cs)
      | none => (integer cs).map fun (i, cs) => (.integer i, cs)

end ChainWatch.Toml
