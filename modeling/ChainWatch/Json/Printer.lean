import ChainWatch.Json.Tree

/-!
# Writing JSON

`Tree.write` gives the compact text: no blanks, members in the order of the tree. `Tree.writePretty`
gives the text for people: one item or member a line, two blanks for each level, and nothing between
the brackets of an empty array or object.

A string is written with the fewest escapes: the quote, the backslash, and the controls below
`U+0020`, of which five have a letter and the others four hexadecimal digits in lower case. Every
other character stands for itself. A leaf that denotes nothing is written as `null`.
-/

namespace ChainWatch.Json

/-- One hexadecimal digit, in lower case. -/
def escapeDigit (n : Nat) : Char :=
  if n < 10 then Char.ofNat (48 + n) else Char.ofNat (87 + n)

/-- One character of a string. -/
def writeChar (c : Char) : List Char :=
  if c = '"' then ['\\', '"']
  else if c = '\\' then ['\\', '\\']
  else if c.toNat < 0x20 then
    if c.toNat = 0x08 then ['\\', 'b']
    else if c.toNat = 0x09 then ['\\', 't']
    else if c.toNat = 0x0A then ['\\', 'n']
    else if c.toNat = 0x0C then ['\\', 'f']
    else if c.toNat = 0x0D then ['\\', 'r']
    else ['\\', 'u', '0', '0', escapeDigit (c.toNat / 16), escapeDigit (c.toNat % 16)]
  else [c]

/-- The characters of a string, without its quotes. -/
def writeChars (cs : List Char) : List Char :=
  cs.flatMap writeChar

/-- A string between quotes. -/
def writeString (s : String) : List Char :=
  '"' :: (writeChars s.toList ++ ['"'])

/-- The word for nothing. -/
def nullWord : List Char := ['n', 'u', 'l', 'l']

/-- The word for a truth value. -/
def boolWord : Bool → List Char
  | true => ['t', 'r', 'u', 'e']
  | false => ['f', 'a', 'l', 's', 'e']

/-- A number, or nothing. -/
def writeNumber : Option Number → List Char
  | some n => n.write
  | none => nullWord

/-- A name or string leaf, or nothing. -/
def writeLeafString : Option String → List Char
  | some s => writeString s
  | none => nullWord

namespace Tree

mutual

/-- The compact text of a tree. -/
def writeChars : Tree → List Char
  | .null => nullWord
  | .bool b => boolWord b
  | .number n => writeNumber n
  | .string s => writeLeafString s
  | .array items => '[' :: writeItems items
  | .object members => '{' :: writeMembers members

/-- The items of an array from the first on, and the closing bracket. -/
def writeItems : List Tree → List Char
  | [] => [']']
  | [t] => writeChars t ++ [']']
  | t :: u :: ts => writeChars t ++ ',' :: writeItems (u :: ts)

/-- The members of an object from the first on, and the closing brace. -/
def writeMembers : List (Option String × Tree) → List Char
  | [] => ['}']
  | [(name, t)] => writeLeafString name ++ ':' :: (writeChars t ++ ['}'])
  | (name, t) :: m :: ms =>
    writeLeafString name ++ ':' :: (writeChars t ++ ',' :: writeMembers (m :: ms))

end

/-- The compact text of a tree. -/
def write (t : Tree) : String :=
  String.ofList t.writeChars

/-- A new line at a level. -/
def newLine (level : Nat) : List Char :=
  '\n' :: List.replicate (2 * level) ' '

mutual

/-- The text for people of a tree that stands at a level. -/
def writePrettyChars (level : Nat) : Tree → List Char
  | .null => nullWord
  | .bool b => boolWord b
  | .number n => writeNumber n
  | .string s => writeLeafString s
  | .array [] => ['[', ']']
  | .array (t :: ts) => '[' :: (writePrettyItems level (t :: ts) ++ newLine level ++ [']'])
  | .object [] => ['{', '}']
  | .object (m :: ms) => '{' :: (writePrettyMembers level (m :: ms) ++ newLine level ++ ['}'])

/-- The items of an array, each on a line of its own. -/
def writePrettyItems (level : Nat) : List Tree → List Char
  | [] => []
  | t :: ts =>
    newLine (level + 1) ++ writePrettyChars (level + 1) t ++ (if ts.isEmpty then [] else [','])
      ++ writePrettyItems level ts

/-- The members of an object, each on a line of its own. -/
def writePrettyMembers (level : Nat) : List (Option String × Tree) → List Char
  | [] => []
  | (name, t) :: ms =>
    newLine (level + 1) ++ writeLeafString name ++ ':' :: ' ' :: writePrettyChars (level + 1) t
      ++ (if ms.isEmpty then [] else [',']) ++ writePrettyMembers level ms

end

/-- The text of a tree for people. -/
def writePretty (t : Tree) : String :=
  String.ofList (t.writePrettyChars 0)

end Tree

end ChainWatch.Json
