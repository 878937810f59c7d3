import ChainWatch.Json.Number

/-!
# JSON text as a tree

`Tree` is what the grammar alone says about a JSON text. It keeps every member of every object in
the order of the text, also two of one name, and it has room for leaves that are written correctly
but denote nothing: a number out of range, and a string with half of a surrogate pair. Whoever reads
a tree decides whether it minds them. A reader of a record minds only the members that it knows; a
reader of a free-form value minds all (`Tree.isReadable`).

`Tree.depth` counts how deep arrays and objects nest: a leaf has depth `0`.
-/

namespace ChainWatch.Json

/-- The shape of a JSON text. -/
inductive Tree where
  | null
  | bool (b : Bool)
  /-- A number, or `none` if it is out of range. -/
  | number (n : Option Number)
  /-- A string, or `none` if an escape in it is half of a surrogate pair. -/
  | string (s : Option String)
  | array (items : List Tree)
  /-- The members in the order of the text; a name is read like a string. -/
  | object (members : List (Option String × Tree))

/-- A member of an object. -/
abbrev Member := Option String × Tree

namespace Tree

mutual

/-- How deep arrays and objects nest. -/
def depth : Tree → Nat
  | .array items => depthOfItems items + 1
  | .object members => depthOfMembers members + 1
  | _ => 0

/-- The greatest depth of the items of an array. -/
def depthOfItems : List Tree → Nat
  | [] => 0
  | t :: ts => max (depth t) (depthOfItems ts)

/-- The greatest depth of the members of an object. -/
def depthOfMembers : List (Option String × Tree) → Nat
  | [] => 0
  | (_, t) :: ts => max (depth t) (depthOfMembers ts)

end

end Tree

/-- How deep arrays and objects may nest where the whole value is kept. -/
def maxDepth : Nat := 127

namespace Tree

mutual

/-- Does every number, string and name in the tree denote something? -/
def isReadable : Tree → Bool
  | .null => true
  | .bool _ => true
  | .number n => n.isSome
  | .string s => s.isSome
  | .array items => areReadableItems items
  | .object members => areReadableMembers members

/-- Is every item readable? -/
def areReadableItems : List Tree → Bool
  | [] => true
  | t :: ts => isReadable t && areReadableItems ts

/-- Is every member readable, name and value? -/
def areReadableMembers : List (Option String × Tree) → Bool
  | [] => true
  | (name, t) :: ts => name.isSome && isReadable t && areReadableMembers ts

end

/-- The tree of a text. -/
def text (s : String) : Tree := .string (some s)

/-- The tree of a word. -/
def word (n : UInt64) : Tree := .number (some (Number.ofUInt64 n))

/-- The tree of an object whose members are named by `fields`. -/
def record (fields : List (String × Tree)) : Tree :=
  .object (fields.map fun (name, t) => (some name, t))

end Tree

end ChainWatch.Json
