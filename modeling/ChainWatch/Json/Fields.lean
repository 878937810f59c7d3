import ChainWatch.Json.Tree

/-!
# Reading records, tagged values and words

A record has fields with names in a fixed order. Its JSON form is an object with members of those
names, in any order and among any others, or an array of the field values in their order
(`Tree.fields?`). Either form may leave out fields, and the reader of the record says which of them
it needs. No field may stand twice, an array may not be longer than the record, and every name must
be readable; the values of other members may be anything at all.

A tagged value is an object with one member whose name is the tag and whose value is the name of a
variant; the other members are the fields of the variant. As an array it begins with the name of the
variant. Since the tag may stand after the fields, the whole value is kept until the tag is known:
all of it must be readable and nest no deeper than the levels that are left (`Tree.tagged?`).

A word of a fixed vocabulary is a string, or an object with the word as its one member, whose value
is `null` (`Tree.word?`).
-/

namespace ChainWatch.Json

namespace Tree

/-- The value of the field `name` among members: absent, there once, or refused as doubled. -/
def uniqueMember? (members : List Member) (name : String) : Option (Option Tree) :=
  match members.filter fun m => m.1 == some name with
  | [] => some none
  | [m] => some (some m.2)
  | _ => none

/-- The values of the named fields, in the order of `names`. -/
def fields? (names : List String) : Tree → Option (List (Option Tree))
  | .object members =>
    if members.all fun m => m.1.isSome then names.mapM (uniqueMember? members) else none
  | .array items =>
    if items.length ≤ names.length then
      some (items.map some ++ List.replicate (names.length - items.length) none)
    else none
  | _ => none

/-- The name of the variant of a tagged value, and the tree of its fields. -/
def tagged? (tag : String) (levels : Nat) (t : Tree) : Option (String × Tree) :=
  if t.isReadable && t.depth ≤ levels then
    match t with
    | .object members =>
      match members.filter fun m => m.1 == some tag with
      | [(_, .string (some variant))] =>
        some (variant, .object (members.filter fun m => m.1 != some tag))
      | _ => none
    | .array (.string (some variant) :: items) => some (variant, .array items)
    | _ => none
  else none

/-- The word of a vocabulary. -/
def word? : Tree → Option String
  | .string s => s
  | .object [(some s, .null)] => some s
  | _ => none

/-- Is the tree an object, or an array without items? So are the fields of a variant without
fields. -/
def isBare : Tree → Bool
  | .object _ => true
  | .array items => items.isEmpty
  | _ => false

/-! ### Leaves -/

/-- A string. -/
def string? : Tree → Option String
  | .string s => s
  | _ => none

/-- A truth value. -/
def bool? : Tree → Option Bool
  | .bool b => some b
  | _ => none

/-- An integer of a word. -/
def uint64? : Tree → Option UInt64
  | .number n => n.bind Number.toUInt64?
  | _ => none

/-- An integer of a short word. -/
def uint32? : Tree → Option UInt32
  | .number n => n.bind Number.toUInt32?
  | _ => none

/-- A double; an integer counts as one. -/
def binary64? : Tree → Option Binary64
  | .number n => n.map Number.toBinary64
  | _ => none

/-- A list, item by item. -/
def list? {α : Type} (read : Tree → Option α) : Tree → Option (List α)
  | .array items => items.mapM read
  | _ => none

/-- A value that may be `null`. -/
def nullable? {α : Type} (read : Tree → Option α) : Tree → Option (Option α)
  | .null => some none
  | t => (read t).map some

end Tree

/-! ### Fields that may be absent -/

/-- The value of a field that must be there. -/
def required {α : Type} (read : Tree → Option α) (field : Option Tree) : Option α :=
  field.bind read

/-- The value of a field that may be absent or `null`. -/
def optional {α : Type} (read : Tree → Option α) : Option Tree → Option (Option α)
  | none => some none
  | some t => t.nullable? read

/-- The value of a field that has a default when it is absent. -/
def defaulted {α : Type} (default : α) (read : Tree → Option α) : Option Tree → Option α
  | none => some default
  | some t => read t

/-- The member of a field that is left out when it has no value. -/
def optionalMember {α : Type} (name : String) (write : α → Tree) : Option α → List (String × Tree)
  | none => []
  | some a => [(name, write a)]

end ChainWatch.Json
