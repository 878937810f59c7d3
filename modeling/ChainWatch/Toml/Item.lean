import ChainWatch.Decimal.Binary64

/-!
# TOML data

A TOML document is a table. Its items are scalars, arrays, tables, and arrays of tables. While a
document is read, a table also knows how it came about (`Origin`), because that decides who may add
to it later: what a header has named is named once and for all, what an inline table holds is
complete, and a table that only stood on the way to another may still be named.

`putEntry` and `atTable` are the two ways in which a document grows: an entry with a dotted key, and
a header.
-/

namespace ChainWatch.Toml

/-- How a table came about. -/
inductive Origin where
  /-- A header named it. -/
  | header
  /-- It stood in the path of a header. -/
  | path
  /-- It stood in a dotted key. -/
  | dotted
  /-- It was written inline. -/
  | inline
deriving DecidableEq, Repr

/-- A value that is neither an array nor a table. -/
inductive Scalar where
  | string (s : String)
  | integer (i : Int)
  | float (x : Binary64)
  | bool (b : Bool)
  /-- A date, a time, or both. -/
  | dateTime
deriving DecidableEq, Repr

/-- What a key stands for. -/
inductive Item where
  | scalar (s : Scalar)
  | array (items : List Item)
  | table (origin : Origin) (members : List (String × Item))
  /-- An array of tables, each of which a header named. -/
  | tables (elements : List (List (String × Item)))

/-- The members of a table. -/
abbrev Members := List (String × Item)

/-- A dotted key, and what it stands for. -/
structure Entry where
  /-- The keys before the last. -/
  path : List String
  key : String
  item : Item

/-- Put an item in the place of a member that is there. -/
def replaceMember (key : String) (item : Item) (ms : Members) : Members :=
  ms.map fun m => if m.1 = key then (key, item) else m

/-- Change the last table of an array of tables. -/
def changeLast (f : Members → Option Members) : List Members → Option (List Members)
  | [] => none
  | [ms] => (f ms).map ([·])
  | ms :: rest => (changeLast f rest).map (ms :: ·)

/-- May a dotted key lead into a table of this origin, and put its entry there if `last`? -/
def Origin.admitsEntry (origin : Origin) (last : Bool) : Bool :=
  match origin with
  | .header => false
  | .inline => false
  | .path => !last
  | .dotted => true

/-- Add an entry to a table. Tables on the way that are not there come about. -/
def putEntry (key : String) (item : Item) : List String → Members → Option Members
  | [], ms => if (ms.lookup key).isSome then none else some (ms ++ [(key, item)])
  | step :: path, ms =>
    match ms.lookup step with
    | none => do
      let inner ← putEntry key item path []
      return ms ++ [(step, .table .dotted inner)]
    | some (.table origin inner) =>
      if origin.admitsEntry path.isEmpty then do
        let inner ← putEntry key item path inner
        return replaceMember step (.table origin inner) ms
      else none
    | some (.tables elements) =>
      if path.isEmpty then none
      else do
        let elements ← changeLast (putEntry key item path) elements
        return replaceMember step (.tables elements) ms
    | some _ => none

/-- Add entries to a table in turn. -/
def putEntries (entries : List Entry) (ms : Members) : Option Members :=
  entries.foldlM (fun ms e => putEntry e.key e.item e.path ms) ms

/-- Change the table that the path of a header leads to. Tables on the way that are not there come
about, and an array of tables stands for its last one. -/
def atTable (f : Members → Option Members) : List String → Members → Option Members
  | [], ms => f ms
  | step :: path, ms =>
    match ms.lookup step with
    | none => do
      let inner ← atTable f path []
      return ms ++ [(step, .table .path inner)]
    | some (.table .inline _) => none
    | some (.table origin inner) => do
      let inner ← atTable f path inner
      return replaceMember step (.table origin inner) ms
    | some (.tables elements) => do
      let elements ← changeLast (atTable f path) elements
      return replaceMember step (.tables elements) ms
    | some _ => none

end ChainWatch.Toml
