import ChainWatch.DomainName.Direction
import ChainWatch.DomainName.Joiner
import ChainWatch.DomainName.Mapping
import ChainWatch.DomainName.Mark
import ChainWatch.DomainName.Punycode
import ChainWatch.Text.Composed

/-!
# Names of hosts

A name that people type may use the characters of any script. What is looked up has plain letters
alone: each label with other characters is written in `Punycode` after `xn--`. `toPlain?` gives that
form, and refuses what is no name.

The characters are made uniform first, and the text composed, so that spellings that mean the same
give the same labels. A label that is already written in plain letters is read, and must have been
uniform. The rules for labels (`isLabel`, and `isPlain` if the direction of the name matters) are
about the labels in their own script. Labels may be empty, and of any length but for those that have
to be encoded.
-/

namespace ChainWatch.DomainName

/-- What an encoded label begins with. -/
def encodedMark : List Char := ['x', 'n', '-', '-']

/-- The most characters that a label that is encoded may have. -/
def maxLabelLength : Nat := 1000

/-- The most characters that an encoding may have. -/
def maxEncodingLength : Nat := 2000

/-- Has a label no characters but plain ones? -/
def isAscii (label : List Char) : Bool := label.all Punycode.isPlainLetter

/-- May uniform characters be a label, if some are `forbidden`? -/
def isLabel (forbidden : Char → Bool) (label : List Char) : Bool :=
  !label.any forbidden && !(label.head?.any isMark) && joinersFit [] label
    && (isAscii label || label.length ≤ maxLabelLength)

/-- Are characters uniform: does typing them give them back? -/
def isUniform (label : List Char) : Bool :=
  label.all isLasting && !label.contains '.' && composed label == label

/-- Read a label that is encoded. -/
def readEncoded? (encoding : List Char) : Option (List Char) :=
  if maxEncodingLength < encoding.length ∨ encoding.getLast? = some '-' ∨ encoding.isEmpty then none
  else do
    let label ← Punycode.decode? encoding
    if isUniform label then some label else none

/-- Read a label in its own script from uniform characters. -/
def readLabel? (forbidden : Char → Bool) (cs : List Char) : Option (List Char) := do
  let label ←
    if encodedMark.isPrefixOf cs then
      if isAscii cs then readEncoded? (cs.drop encodedMark.length) else none
    else some cs
  if isLabel forbidden label then some label else none

/-- Write a label in plain letters. -/
def writeLabel (label : List Char) : List Char :=
  if isAscii label then label else encodedMark ++ Punycode.encode label

/-- The labels of a name in their own script, if it is one. -/
def labels? (forbidden : Char → Bool) (name : List Char) : Option (List (List Char)) := do
  let uniform := composed (← nameImages? name)
  let labels ← (splitWhere (· == '.') uniform).mapM (readLabel? forbidden)
  if labels.any runsLeft && !labels.all isPlain then none else some labels

/-- A name in plain letters, if it is one and none of its characters is `forbidden`. -/
def toPlain? (forbidden : Char → Bool) (name : List Char) : Option (List Char) :=
  (labels? forbidden name).map fun labels => joinWith ['.'] (labels.map writeLabel)

end ChainWatch.DomainName
