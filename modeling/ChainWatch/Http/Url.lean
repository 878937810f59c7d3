import ChainWatch.Http.Host
import ChainWatch.Http.Path
import ChainWatch.Text.Blank

/-!
# Urls

A url is a scheme and, after a colon, what the scheme says it is. `Url.read?` gives the normal form
of a text that is one. Blanks at its ends, tabs and line ends are dropped, and the scheme is in
lower case. The rest depends on the scheme (`Scheme.kind`):

* some schemes name servers: what follows begins with a host, whatever slashes stand before it;
* `file` names files, on a host or, without one, on this machine;
* of all others nothing is known but that two slashes begin an authority and one a path. Without
  them, the rest is kept as it is.

Where a scheme is known, backslashes are slashes, the host is in normal form, and the usual port is
left out.
-/

namespace ChainWatch.Http

/-- The name of a scheme, in lower case. -/
abbrev Scheme := String

/-- What is known of a scheme. -/
inductive SchemeKind where
  /-- It names servers, which are usually found at this port. -/
  | server (usualPort : UInt16)
  /-- It names files. -/
  | file
  /-- Nothing. -/
  | unknown
deriving DecidableEq, Repr

/-- What is known of a scheme. -/
def Scheme.kind : Scheme → SchemeKind
  | "http" => .server 80
  | "ws" => .server 80
  | "https" => .server 443
  | "wss" => .server 443
  | "ftp" => .server 21
  | "file" => .file
  | _ => .unknown

namespace SchemeKind

/-- Is the scheme known? -/
def isKnown (k : SchemeKind) : Bool := k != unknown

/-- Does a character divide a path into segments? -/
def isSeparator (k : SchemeKind) (c : Char) : Bool := c == '/' || (k.isKnown && c == '\\')

/-- Does a character end an authority? -/
def endsAuthority (k : SchemeKind) (c : Char) : Bool := k.isSeparator c || c == '?' || c == '#'

/-- The special characters of a query. -/
def specialInQuery (k : SchemeKind) (c : Char) : Bool :=
  Http.specialInQuery c || (k.isKnown && c == '\'')

/-- The port that is left out. -/
def usualPort? : SchemeKind → Option UInt16
  | server port => some port
  | _ => none

end SchemeKind

/-- A name and a password for a server, as they stand in a url. -/
structure Credentials where
  user : String
  password : Option String
deriving DecidableEq, Repr

/-- What stands between two slashes and a path. -/
structure Authority where
  credentials : Option Credentials
  /-- A name, or a number, between brackets if it has colons. It may be missing. -/
  host : String
  /-- The port, unless it is the usual one of the scheme. -/
  port : Option UInt16
deriving DecidableEq, Repr

/-- A url in normal form. -/
structure Url where
  scheme : Scheme
  authority : Option Authority
  path : String
  suffix : Suffix
deriving DecidableEq, Repr

/-! ### Writing -/

namespace Credentials

/-- The text of credentials. -/
def text (c : Credentials) : String :=
  c.user ++ (match c.password with
    | none => ""
    | some password => ":" ++ password)

/-- Does a part of credentials stand for text? -/
def isReadable (part : String) : Bool := (decodeUtf8 (percentDecode part.toList)).toOption.isSome

/-- Are there a name and a password that can be sent apart from the url? -/
def canBeSentApart (c : Credentials) : Bool :=
  isReadable c.user && (c.user != "" || c.password.any isReadable)

end Credentials

namespace Authority

/-- The host, and after a colon an unusual port. -/
def place (a : Authority) : String :=
  match a.port with
  | none => a.host
  | some port => s!"{a.host}:{port}"

/-- The text of an authority. -/
def text (a : Authority) : String :=
  match a.credentials with
  | none => a.place
  | some c => c.text ++ "@" ++ a.place

/-- An authority without credentials that can be sent apart. -/
def withoutCredentials (a : Authority) : Authority :=
  if a.credentials.any Credentials.canBeSentApart then { a with credentials := none } else a

end Authority

namespace Url

/-- The path. Without an authority before it, it must not look like one. -/
def shownPath (u : Url) : String :=
  if u.authority.isNone && u.path.startsWith "//" then "/." ++ u.path else u.path

/-- What stands before the path. -/
def start (u : Url) : String :=
  match u.authority with
  | none => u.scheme ++ ":"
  | some a => u.scheme ++ "://" ++ a.text

/-- The text of a url. -/
def text (u : Url) : String :=
  u.start ++ u.shownPath ++ u.suffix.query ++ u.suffix.fragment

/-- A url without credentials that can be sent apart. -/
def withoutCredentials (u : Url) : Url :=
  { u with authority := u.authority.map Authority.withoutCredentials }

end Url

/-! ### Reading an authority -/

/-- Read a port; the usual port counts as none. -/
def readPort? (usual : Option UInt16) (digits : List Char) : Option (Option UInt16) :=
  if digits.isEmpty then some none
  else do
    let n ← readDigits? 10 digits
    if n < UInt16.size then
      let port := UInt16.ofNat n
      some (if some port = usual then none else some port)
    else none

/-- Cut a port off a host, with its colon; colons between brackets belong to the host. -/
def cutPort (inside : Bool) : List Char → List Char × List Char
  | [] => ([], [])
  | c :: cs =>
    if c = ':' ∧ !inside then ([], c :: cs)
    else
      let inside := if c = '[' then true else if c = ']' then false else inside
      let (host, port) := cutPort inside cs
      (c :: host, port)

/-- Read the credentials before an at-sign, if they are not empty. -/
def readCredentials (cs : List Char) : Option Credentials :=
  let (user, password) := cutAt (· == ':') cs
  let write (part : List Char) : String := String.ofList (percentEncode specialInUser part)
  let password := password.drop 1
  if user.isEmpty && password.isEmpty then none
  else
    some
      { user := write user
        password := if password.isEmpty then none else some (write password) }

/-- The parts of an authority before and after its last at-sign. -/
def cutCredentials (cs : List Char) : Option (List Char) × List Char :=
  match cs.reverse.span (· != '@') with
  | (_, []) => (none, cs)
  | (place, _ :: credentials) => (some credentials.reverse, place.reverse)

/-- Read an authority, and give what follows it: a backslash after a port ends it in any scheme.
A host may only be missing if nothing is known of the scheme, and there is nothing else in the
authority. -/
def readAuthority? (k : SchemeKind) (cs : List Char) : Option (Authority × List Char) := do
  let (authority, rest) := cutAt k.endsAuthority cs
  let (typed, place) := cutCredentials authority
  let (host, port) := cutPort false place
  let (port, beyond) := cutAt (· == '\\') (port.drop 1)
  let credentials := typed.bind readCredentials
  if host.isEmpty then
    if k.isKnown || credentials.isSome || !place.isEmpty then none
    else if typed == some [] && !rest.isEmpty then none
    else some (⟨none, "", none⟩, rest)
  else
    let host ← if k.isKnown then normalHost? host else opaqueHost? host
    let port ← readPort? k.usualPort? port
    some (⟨credentials, String.ofList host, port⟩, beyond ++ rest)

/-! ### Reading -/

namespace Url

/-- A scheme and what follows its colon. -/
def cutScheme? (cs : List Char) : Option (Scheme × List Char) :=
  match cutAt (· == ':') cs with
  | (first :: rest, _ :: after) =>
    if first.isAlpha && rest.all fun c => c.isAlphanum || "+-.".toList.contains c then
      some (String.ofList ((first :: rest).map Char.toLower), after)
    else none
  | _ => none

/-- A text without what is dropped from it. -/
def stripped (s : String) : List Char :=
  let isEdge (c : Char) : Bool := c.toNat ≤ 0x20
  (dropEndWhile isEdge (s.toList.dropWhile isEdge)).filter fun c => !"\t\n\r".toList.contains c

/-- Read what follows the colon of a scheme that names servers. -/
def readServer? (scheme : Scheme) (cs : List Char) : Option Url := do
  let k := scheme.kind
  let (authority, rest) ← readAuthority? k (cs.dropWhile k.isSeparator)
  let (path, suffix) := cutSuffix k.specialInQuery rest
  some
    { scheme := scheme
      authority := some authority
      path := String.ofList (normalPath k.isSeparator path)
      suffix := suffix }

/-- The host of a file, and what follows it. A drive is no host, and this machine needs none. -/
def cutFileHost? (cs : List Char) : Option (String × List Char) :=
  match cs with
  | a :: b :: cs =>
    if SchemeKind.file.isSeparator a && SchemeKind.file.isSeparator b then
      let (host, rest) := cutAt SchemeKind.file.endsAuthority cs
      if host.isEmpty then some ("", rest)
      else if isDrive host then some ("", cs)
      else (normalHost? host).map fun host =>
        (if host == "localhost".toList then "" else String.ofList host, rest)
    else some ("", a :: b :: cs)
  | cs => some ("", cs)

/-- Read what follows the colon of a scheme that names files. -/
def readFile? (scheme : Scheme) (cs : List Char) : Option Url := do
  let (host, rest) ← cutFileHost? cs
  let (path, suffix) := cutSuffix SchemeKind.file.specialInQuery rest
  some
    { scheme := scheme
      authority := some ⟨none, host, none⟩
      path := String.ofList (withoutEmptyStart (normalPath SchemeKind.file.isSeparator path))
      suffix := suffix }

/-- Read what follows the colon of a scheme of which nothing is known. -/
def readUnknown? (scheme : Scheme) (cs : List Char) : Option Url :=
  let k := SchemeKind.unknown
  let withPath (authority : Option Authority) (write : List Char → List Char) (rest : List Char) :
      Url :=
    let (path, suffix) := cutSuffix k.specialInQuery rest
    { scheme := scheme
      authority := authority
      path := String.ofList (write path)
      suffix := suffix }
  let normal (path : List Char) : List Char :=
    if path.isEmpty then [] else normalPath k.isSeparator path
  match cs with
  | '/' :: '/' :: cs => do
    let (authority, rest) ← readAuthority? k cs
    some (withPath (some authority) normal rest)
  | '/' :: cs => some (withPath none normal ('/' :: cs))
  | cs => some (withPath none (percentEncode fun _ => false) cs)

/-- Read a url. -/
def read? (s : String) : Option Url := do
  let (scheme, rest) ← cutScheme? (stripped s)
  match scheme.kind with
  | .server _ => readServer? scheme rest
  | .file => readFile? scheme rest
  | .unknown => readUnknown? scheme rest

end Url

end ChainWatch.Http
