import ChainWatch.Http.Percent
import ChainWatch.Text.Pieces

/-!
# Paths

A path is a sequence of segments, each after a slash. A segment of one dot stands for where it is,
and one of two dots takes back the segment before it (`resolveDots`), but never one that names a
drive, a letter with a colon or a bar. What follows a path, a query and a fragment, keeps its form
but for the characters that may not stand in it.
-/

namespace ChainWatch.Http

/-- Is a segment of a path one dot, in one of its spellings? -/
def isDot (segment : List Char) : Bool :=
  [".", "%2e"].contains (String.ofList (segment.map Char.toLower))

/-- Is a segment of a path two dots, in one of their spellings? -/
def isDoubleDot (segment : List Char) : Bool :=
  ["..", ".%2e", "%2e.", "%2e%2e"].contains (String.ofList (segment.map Char.toLower))

/-- Does a segment name a drive? -/
def isDrive : List Char → Bool
  | [letter, mark] => letter.isAlpha && (mark == ':' || mark == '|')
  | _ => false

/-- Take back the last segment, unless there is none or it names a drive. The last one comes
first. -/
def takeBack : List (List Char) → List (List Char)
  | [] => []
  | segment :: segments => if isDrive segment then segment :: segments else segments

/-- Resolve the dot segments of a path after the segments that are `done`, of which the last one
comes first. A dot segment at the end leaves an empty segment. -/
def resolveDots (done : List (List Char)) : List (List Char) → List (List Char)
  | [] => done.reverse
  | [segment] =>
    if isDoubleDot segment then ([] :: takeBack done).reverse
    else if isDot segment then ([] :: done).reverse
    else (segment :: done).reverse
  | segment :: next :: rest =>
    if isDoubleDot segment then resolveDots (takeBack done) (next :: rest)
    else if isDot segment then resolveDots done (next :: rest)
    else resolveDots (segment :: done) (next :: rest)

/-- The segments between the separators of a path. A separator at its start begins the first one. -/
def segmentsOf (isSeparator : Char → Bool) (path : List Char) : List (List Char) :=
  let segments := splitWhere isSeparator path
  if 1 < segments.length && segments.head? == some [] then segments.drop 1 else segments

/-- The normal form of a path. -/
def normalPath (isSeparator : Char → Bool) (path : List Char) : List Char :=
  '/' :: joinWith ['/']
    ((resolveDots [] (segmentsOf isSeparator path)).map (percentEncode specialInPath))

/-- A path whose empty segments at the start are left out. -/
def withoutEmptyStart (path : List Char) : List Char :=
  '/' :: path.dropWhile (· == '/')

/-- What follows a path. -/
structure Suffix where
  /-- The query after its mark, or nothing. -/
  query : String
  /-- The fragment after its mark, or nothing. -/
  fragment : String
deriving DecidableEq, Repr

/-- Cut what follows a path off it. -/
def cutSuffix (special : Char → Bool) (cs : List Char) : List Char × Suffix :=
  let (beforeFragment, fragment) := cutAt (· == '#') cs
  let (path, query) := cutAt (· == '?') beforeFragment
  let write (special : Char → Bool) (part : List Char) : String :=
    String.ofList (part.take 1 ++ percentEncode special (part.drop 1))
  (path, { query := write special query, fragment := write specialInFragment fragment })

example : normalPath (· == '/') "/a/./b/../c d".toList = "/a/c%20d".toList := by decide +kernel
example : normalPath (· == '/') "/a/C:/../..".toList = "/a/C:/".toList := by decide +kernel

end ChainWatch.Http
