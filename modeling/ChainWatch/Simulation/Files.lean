import ChainWatch.File
import ChainWatch.Text.Pieces

/-!
# Files of an imagined machine

`Files` are directories and files under their paths, as far as it matters what is read. A path is
followed name by name (`Files.follow`): a dot and an empty name stay in a directory, two dots go to
the one that it is in, and any other name must not be too long and stand in the directory. What is
wrong first is what is reported.
-/

namespace ChainWatch

/-- The names on the way from the root, the last one first. -/
abbrev Place := List String

/-- What a path can name. -/
inductive FileEntry where
  | directory
  | file (bytes : List UInt8)
deriving DecidableEq, Repr

/-- What there is on a machine, and where relative paths begin. -/
structure Files where
  entries : List (Place × FileEntry)
  start : Place := []

namespace Files

/-- The most bytes of a name. -/
def maxNameLength : Nat := 255

/-- The most bytes of a path. -/
def maxPathLength : Nat := 4095

/-- Follow names from a place. -/
def follow (f : Files) (place : Place) : List String → Except FileFault FileEntry
  | [] =>
    match f.entries.lookup place with
    | some entry => .ok entry
    | none => .error .missing
  | name :: names =>
    match f.entries.lookup place with
    | none => .error .missing
    | some (.file _) => .error .notDirectory
    | some .directory =>
      if name = "" ∨ name = "." then follow f place names
      else if name = ".." then follow f (place.drop 1) names
      else if maxNameLength < name.utf8ByteSize then .error .nameTooLong
      else follow f (name :: place) names

/-- The names of a path. -/
def namesOf (path : String) : List String :=
  (splitWhere (· == '/') path.toList).map String.ofList

/-- What there is under a path. -/
def entry (f : Files) (path : String) : Except FileFault FileEntry :=
  if path = "" then .error .missing
  else if maxPathLength < path.utf8ByteSize then .error .nameTooLong
  else
    match namesOf path with
    | "" :: names => f.follow [] names
    | names => f.follow f.start names

/-- The bytes of the file under a path. -/
def read (f : Files) (path : String) : Except FileFault (List UInt8) := do
  match ← f.entry path with
  | .directory => .error .isDirectory
  | .file bytes => .ok bytes

/-- Files on a machine with the usual directories, and a file that is always empty. -/
def usual : Files where
  entries :=
    ([], .directory) :: (["null", "dev"], .file [])
      :: ["bin", "boot", "dev", "etc", "home", "lib", "media", "mnt", "opt", "proc", "root", "run",
          "sbin", "srv", "sys", "tmp", "usr", "var"].map fun name => ([name], FileEntry.directory)
  start := ["root"]

/-- Files with one more. -/
def add (f : Files) (place : Place) (bytes : List UInt8) : Files :=
  { f with entries := (place, .file bytes) :: f.entries }

example : usual.read "/dev/null/x" = .error .notDirectory := by cbv
example : usual.read "/dev/../tmp/." = .error .isDirectory := by cbv
example : usual.read "/tmp/a/.." = .error .missing := by cbv
example : usual.read "/dev//null" = .ok [] := by cbv

end Files

end ChainWatch
