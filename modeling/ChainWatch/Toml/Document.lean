import ChainWatch.Toml.Scalar

/-!
# Reading TOML documents

A document is a sequence of lines: entries, headers, comments and empty lines. The entries before
the first header belong to the document itself, and those after a header to the table that it names
(`Section`). Reading goes in two steps, from characters to sections (`sections`) and from sections
to a table (`build`), because the rules about who may name a table when are about the second alone.

Arrays and inline tables nest less than eighty deep (`maxLevels`), and a dotted key has fewer than
eighty parts. Both readers of values go down one level at a time, and the loops over lines and items
take the number of characters as the number of steps that they may make.
-/

namespace ChainWatch.Toml

/-- How deep arrays and inline tables may nest. -/
def maxLevels : Nat := 79

/-! ### Keys -/

/-- One part of a key. -/
def simpleKey : Reader String := fun cs =>
  match cs with
  | '"' :: cs => (basicString cs).map fun (s, cs) => (String.ofList s, cs)
  | '\'' :: cs => (literalString cs).map fun (s, cs) => (String.ofList s, cs)
  | _ =>
    let key := cs.takeWhile isBareKey
    if key.isEmpty then none else some (String.ofList key, cs.dropWhile isBareKey)

/-- The parts of a dotted key, with spaces around each of them. -/
def keyParts : Nat → Reader (List String)
  | 0, _ => none
  | steps + 1, cs => do
    let (key, cs) ← simpleKey (skipSpace cs)
    match skipSpace cs with
    | '.' :: cs => do
      let (keys, cs) ← keyParts steps cs
      return (key :: keys, cs)
    | cs => return ([key], cs)

/-- A dotted key: the parts before the last, and the last. -/
def dottedKey : Reader (List String × String) := fun cs => do
  let (keys, cs) ← keyParts maxLevels cs
  match keys.reverse with
  | [] => none
  | last :: before => return ((before.reverse, last), cs)

/-! ### Values -/

/-- Skip blanks, line ends and comments; a comment ends with its line (`inComment`). -/
def skipGap (inComment : Bool) : List Char → Option (List Char)
  | '\n' :: cs => skipGap false cs
  | '\r' :: '\n' :: cs => skipGap false cs
  | c :: cs =>
    if inComment then if isPlain c then skipGap true cs else none
    else if isSpace c then skipGap false cs
    else if c = '#' then skipGap true cs
    else some (c :: cs)
  | [] => if inComment then none else some []

/-- The items of an array after its opening bracket, up to and with the closing one. -/
def arrayItems (item : Reader Item) : Nat → Reader (List Item)
  | 0, _ => none
  | steps + 1, cs => do
    match ← skipGap false cs with
    | ']' :: cs => return ([], cs)
    | cs =>
      let (i, cs) ← item cs
      match ← skipGap false cs with
      | ',' :: cs => do
        let (is, cs) ← arrayItems item steps cs
        return (i :: is, cs)
      | ']' :: cs => return ([i], cs)
      | _ => none

/-- An entry: a key, the sign of equality, and a value. -/
def entry (item : Reader Item) : Reader Entry := fun cs => do
  let ((path, key), cs) ← dottedKey cs
  match cs with
  | '=' :: cs => do
    let (i, cs) ← item (skipSpace cs)
    return (⟨path, key, i⟩, cs)
  | _ => none

/-- The entries of an inline table from the first on, up to and with the closing brace. -/
def inlineEntries (item : Reader Item) : Nat → Reader (List Entry)
  | 0, _ => none
  | steps + 1, cs => do
    let (e, cs) ← entry item cs
    match skipSpace cs with
    | ',' :: cs => do
      let (es, cs) ← inlineEntries item steps cs
      return (e :: es, cs)
    | '}' :: cs => return ([e], cs)
    | _ => none

/-- An inline table after its opening brace. -/
def inlineTable (item : Reader Item) : Reader Members := fun cs =>
  match skipSpace cs with
  | '}' :: cs => some ([], cs)
  | cs => do
    let (es, cs) ← inlineEntries item cs.length cs
    return (← putEntries es [], cs)

/-- A value inside which arrays and inline tables may nest so many levels deep. -/
def value : Nat → Reader Item
  | 0, cs => (scalar cs).map fun (s, cs) => (.scalar s, cs)
  | levels + 1, cs =>
    match cs with
    | '[' :: cs =>
      (arrayItems (value levels) (cs.length + 1) cs).map fun (is, cs) => (.array is, cs)
    | '{' :: cs => (inlineTable (value levels) cs).map fun (ms, cs) => (.table .inline ms, cs)
    | _ => (scalar cs).map fun (s, cs) => (.scalar s, cs)

/-! ### Lines -/

/-- Skip what may follow on a line: spaces, a comment, and the end of the line or of the text. -/
def skipLineEnd? (cs : List Char) : Option (List Char) :=
  match skipSpace cs with
  | [] => some []
  | '#' :: cs =>
    match cs.dropWhile isPlain with
    | [] => some []
    | cs => newline? cs
  | cs => newline? cs

/-- The table that a header names. -/
inductive Header where
  | table (path : List String) (key : String)
  /-- A new table at the end of an array of tables. -/
  | element (path : List String) (key : String)

/-- A header. -/
def header : Reader Header := fun cs =>
  match cs with
  | '[' :: '[' :: cs => do
    let ((path, key), cs) ← dottedKey cs
    return (.element path key, ← skipWord? [']', ']'] cs)
  | '[' :: cs => do
    let ((path, key), cs) ← dottedKey cs
    return (.table path key, ← skipWord? [']'] cs)
  | _ => none

/-- A line that says something. -/
inductive Line where
  | header (h : Header)
  | entry (e : Entry)

/-- The lines of a text that say something. -/
def lines : Nat → List Char → Option (List Line)
  | 0, _ => none
  | steps + 1, cs =>
    match skipSpace cs with
    | [] => some []
    | '[' :: rest => do
      let (h, cs) ← header ('[' :: rest)
      let ls ← lines steps (← skipLineEnd? cs)
      return .header h :: ls
    | c :: rest =>
      if c = '#' ∨ c = '\n' ∨ c = '\r' then do lines steps (← skipLineEnd? (c :: rest))
      else do
        let (e, cs) ← entry (value maxLevels) (c :: rest)
        let ls ← lines steps (← skipLineEnd? cs)
        return .entry e :: ls

/-! ### Sections -/

/-- A header and its entries. -/
structure Section where
  header : Header
  entries : List Entry

/-- Cut lines at their headers: the entries before the first, and the sections. -/
def sections : List Line → List Entry × List Section
  | [] => ([], [])
  | .entry e :: ls =>
    let (es, ss) := sections ls
    (e :: es, ss)
  | .header h :: ls =>
    let (es, ss) := sections ls
    ([], ⟨h, es⟩ :: ss)

/-- Name a table among members, and give it entries. A table that stood in the path of another
header may be named, and no other that is there. -/
def nameTable (key : String) (entries : List Entry) (ms : Members) : Option Members :=
  match ms.lookup key with
  | none => do return ms ++ [(key, .table .header (← putEntries entries []))]
  | some (.table .path inner) => do
    return replaceMember key (.table .header (← putEntries entries inner)) ms
  | some _ => none

/-- Put a table with entries at the end of an array of tables among members. -/
def appendTable (key : String) (entries : List Entry) (ms : Members) : Option Members :=
  match ms.lookup key with
  | none => do return ms ++ [(key, .tables [← putEntries entries []])]
  | some (.tables elements) => do
    return replaceMember key (.tables (elements ++ [← putEntries entries []])) ms
  | some _ => none

/-- Add a section to a document. -/
def Section.addTo (s : Section) (ms : Members) : Option Members :=
  match s.header with
  | .table path key => atTable (nameTable key s.entries) path ms
  | .element path key => atTable (appendTable key s.entries) path ms

/-- The table of entries and sections. -/
def build (entries : List Entry) (ss : List Section) : Option Members := do
  ss.foldlM (fun ms s => s.addTo ms) (← putEntries entries [])

/-- Read a document. A byte order mark at its start is skipped. -/
def read? (s : String) : Option Members := do
  let cs := match s.toList with
    | '\ufeff' :: cs => cs
    | cs => cs
  let (entries, ss) := sections (← lines (cs.length + 1) cs)
  build entries ss

end ChainWatch.Toml
