/-!
# Options on a command line

A command line is a list of words. A word that begins with two dashes names an option, one that
begins with a single dash is a short form, and what follows an option is its value, unless the value
is joined to it by a sign of equality. A value that is a word of its own does not begin with a dash.

`scan` reads words against the options that a command knows. It stops with what was given at the
first word that is neither an option nor a value, or because the words ask for help or are wrong. An
option is given once, except one that takes many values, and a value is looked at as soon as it is
read, so of two things that stop the reading the one on the left decides.
-/

namespace ChainWatch.Cli

/-- An option of a command. -/
structure OptionSpec where
  name : String
  short : Option Char := none
  /-- Does it take many values, and may it be given many times? -/
  many : Bool := false
  required : Bool := false
  /-- May this be its value? -/
  accepts : String → Bool := fun _ => true

/-- Why nothing is carried out. -/
inductive Stop where
  | help
  | version
  /-- The words are wrong. -/
  | wrong
deriving DecidableEq, Repr

/-- What a command knows. -/
structure Grammar where
  options : List OptionSpec
  /-- May the words ask for the version? -/
  tellsVersion : Bool := false

/-- Options with their values, in the order in which they were given. -/
abbrev Given := List (String × String)

/-- The last value of an option. -/
def Given.last? (g : Given) (name : String) : Option String :=
  (g.reverse.lookup name)

/-- All values of an option. -/
def Given.all (g : Given) (name : String) : List String :=
  (g.filter fun p => p.1 == name).map (·.2)

/-- An option that waits for a value, and whether it has got one. -/
structure Pending where
  spec : OptionSpec
  satisfied : Bool

/-- What a word is. -/
inductive Word where
  /-- It ends the options. -/
  | terminator
  /-- It names an option, perhaps with a value. -/
  | long (name : String) (value : Option String)
  /-- It is a short form, with the characters that follow it. -/
  | short (letter : Char) (rest : List Char)
  | plain (text : String)
deriving DecidableEq, Repr

/-- What a word is. A single dash is a plain word. -/
def Word.ofString (s : String) : Word :=
  match s.toList with
  | ['-', '-'] => .terminator
  | '-' :: '-' :: cs =>
    let name := String.ofList (cs.takeWhile (· != '='))
    match cs.dropWhile (· != '=') with
    | [] => .long name none
    | _ :: value => .long name (some (String.ofList value))
  | '-' :: letter :: cs => .short letter cs
  | _ => .plain s

/-- What reading has come to. -/
structure Scan where
  given : Given := []
  pending : Option Pending := none

namespace Scan

/-- Is no option waiting for its first value? -/
def isSettled (s : Scan) : Bool :=
  match s.pending with
  | some p => p.satisfied
  | none => true

/-- Give an option a value. -/
def give (s : Scan) (spec : OptionSpec) (value : String) : Except Stop Scan :=
  if spec.accepts value then .ok { s with given := s.given ++ [(spec.name, value)] }
  else .error .wrong

/-- Begin an option, perhaps with a value that is joined to it. -/
def beginOption (s : Scan) (spec : OptionSpec) (value : Option String) : Except Stop Scan :=
  if !spec.many && (s.given.lookup spec.name).isSome then .error .wrong
  else
    match value with
    | some v => { s with pending := none }.give spec v
    | none => .ok { s with pending := some ⟨spec, false⟩ }

/-- Take a plain word as a value, if an option waits for one. -/
def take? (s : Scan) (text : String) : Option (Except Stop Scan) :=
  match s.pending with
  | none => none
  | some p =>
    let pending := if p.spec.many then some { p with satisfied := true } else none
    some ({ s with pending := pending }.give p.spec text)

end Scan

namespace Grammar

/-- Read a long option. -/
def long (g : Grammar) (s : Scan) (name : String) (value : Option String) : Except Stop Scan :=
  if !s.isSettled then .error .wrong
  else if name = "help" then .error (if value.isNone then .help else .wrong)
  else if name = "version" && g.tellsVersion then
    .error (if value.isNone then .version else .wrong)
  else
    match g.options.find? fun o => o.name == name with
    | some spec => s.beginOption spec value
    | none => .error .wrong

/-- Read a short form; the characters after it are its value. -/
def short (g : Grammar) (s : Scan) (letter : Char) (rest : List Char) : Except Stop Scan :=
  if !s.isSettled then .error .wrong
  else if letter = 'h' then .error .help
  else if letter = 'V' && g.tellsVersion then .error .version
  else
    match g.options.find? fun o => o.short == some letter with
    | none => .error .wrong
    | some spec =>
      match rest with
      | [] => s.beginOption spec none
      | '=' :: value => s.beginOption spec (some (String.ofList value))
      | value => s.beginOption spec (some (String.ofList value))

/-- Read words up to the first that is neither an option nor a value. Gives what was given, and that
word with those after it. -/
def scan (g : Grammar) (s : Scan) : List String → Except Stop (Given × List String)
  | [] => if s.isSettled then .ok (s.given, []) else .error .wrong
  | word :: words =>
    match Word.ofString word with
    | .terminator =>
      if s.isSettled && words.isEmpty then .ok (s.given, []) else .error .wrong
    | .long name value =>
      match g.long s name value with
      | .error stop => .error stop
      | .ok s => g.scan s words
    | .short letter rest =>
      match g.short s letter rest with
      | .error stop => .error stop
      | .ok s => g.scan s words
    | .plain text =>
      match s.take? text with
      | some (.error stop) => .error stop
      | some (.ok s) => g.scan s words
      | none => .ok (s.given, word :: words)

/-- Is every option there that must be? -/
def isComplete (g : Grammar) (given : Given) : Bool :=
  g.options.all fun o => !o.required || (given.lookup o.name).isSome

/-- Read words that are options and values and nothing else. -/
def read (g : Grammar) (words : List String) : Except Stop Given :=
  match g.scan {} words with
  | .error stop => .error stop
  | .ok (given, []) => if g.isComplete given then .ok given else .error .wrong
  | .ok (_, _ :: _) => .error .wrong

end Grammar

end ChainWatch.Cli
