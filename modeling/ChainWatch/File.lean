/-!
# Why a file cannot be read

A file is named by a path: names between slashes, of which all but the last must be directories.
Reading one fails for a reason that the machine numbers (`FileFault`), or because its bytes are no
text.
-/

namespace ChainWatch

/-- Why a file cannot be read as text. -/
inductive FileFault where
  /-- There is nothing under the path. -/
  | missing
  /-- Something on the way is no directory. -/
  | notDirectory
  /-- There is a directory under the path. -/
  | isDirectory
  /-- The path, or a name in it, is too long. -/
  | nameTooLong
  /-- The bytes are no text. -/
  | notText
  /-- Any other reason of the machine. -/
  | other (reason : String)
deriving DecidableEq, Repr

namespace FileFault

/-- The wording of a fault. -/
def message : FileFault → String
  | missing => "No such file or directory (os error 2)"
  | notDirectory => "Not a directory (os error 20)"
  | isDirectory => "Is a directory (os error 21)"
  | nameTooLong => "File name too long (os error 36)"
  | notText => "stream did not contain valid UTF-8"
  | other reason => reason

/-- The fault of a number, for which the machine has given a reason. Some machines give the negative
of the number. -/
def ofNumber (number : UInt32) (reason : String) : FileFault :=
  let number := if number < 0x80000000 then number else -number
  if number = 2 then missing
  else if number = 20 then notDirectory
  else if number = 21 then isDirectory
  else if number = 36 then nameTooLong
  else other s!"{reason} (os error {number})"

end FileFault

end ChainWatch
