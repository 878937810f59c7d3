import ChainWatch.Http.Url

/-!
# Addresses of requests

A request goes to a url. Requests can be sent by the schemes `http` and `https`, unless the url has
characters that may stand in it but not in a request, or is too long for one; any other url is well
formed but of no use, and a text that is no url is no address at all. `Address.read` tells these
apart.

Names and passwords for the server go elsewhere, and are not part of an address if they can.
-/

namespace ChainWatch.Http

/-- Where a request goes. -/
structure Target where
  /-- Is the scheme `https`? -/
  secure : Bool
  authority : Authority
  /-- The path, and after a question mark the query. -/
  location : String
  /-- The fragment, with its mark, or nothing. It is not sent. -/
  fragment : String
deriving DecidableEq, Repr

namespace Target

/-- The scheme. -/
def scheme (t : Target) : Scheme := if t.secure then "https" else "http"

/-- A name, or a number, between brackets if it has colons. -/
def host (t : Target) : String := t.authority.host

/-- The port that requests are sent to. -/
def wholePort (t : Target) : UInt16 := t.authority.port.getD (if t.secure then 443 else 80)

/-- The text of an address. -/
def text (t : Target) : String :=
  t.scheme ++ "://" ++ t.authority.text ++ t.location ++ t.fragment

end Target

/-- What a text is when a request is to be sent to it. -/
inductive Address where
  /-- An address that requests can be sent to. -/
  | usable (target : Target)
  /-- A url that no request can be sent to, in normal form. -/
  | foreign (text : String)
  /-- No address. -/
  | malformed
deriving DecidableEq, Repr

namespace Address

/-- The most characters that the address of a request may have. -/
def maxLength : Nat := 65534

/-- May a character stand in a host, but not in the address of a request? -/
def isUnsendable (c : Char) : Bool := "\"`\x7b\x7d".toList.contains c

/-- Can a request be sent to an authority? -/
def canReceive (a : Authority) : Bool := !a.host.toList.any isUnsendable

/-- The target that a url is, if requests can be sent to it. -/
def target? (u : Url) : Option Target := do
  let authority ← u.authority
  let t : Target :=
    { secure := u.scheme = "https"
      authority := authority
      location := u.path ++ u.suffix.query
      fragment := u.suffix.fragment }
  if ["http", "https"].contains u.scheme && canReceive authority && u.text.length ≤ maxLength then
    some t
  else none

/-- What a url is to requests. -/
def ofUrl (u : Url) : Address :=
  match target? u with
  | some t => .usable t
  | none => .foreign u.text

/-- Read a text as the address of a request. -/
def read (s : String) : Address :=
  match Url.read? s with
  | some u => ofUrl u.withoutCredentials
  | none => .malformed

end Address

end ChainWatch.Http
