import ChainWatch.Dialogue
import ChainWatch.Http.Address
import ChainWatch.Json.Printer
import ChainWatch.Json.Reader

/-!
# Requests and responses

A client asks by `Request`s, each to a whole address, and every request either gets a `Response`, of
any status, or fails (`TransportFault`). A client's conversation is a dialogue of these
(`Conversation`), so that what it concludes is a function of what comes back, and how requests are
sent is left to whoever runs it. A server sees a request as an `Arrival`, without the address of the
server itself.

A request to a text that is no usable address (`Address.read`) fails before anything is sent.
-/

namespace ChainWatch.Http

/-- The name of JSON among the types of bodies. -/
def jsonMediaType : String := "application/json"

/-- A request of a client. -/
structure Request where
  method : String
  address : String
  /-- JSON text, or nothing. -/
  body : Option String := none
deriving DecidableEq, Repr

/-- What comes back. -/
structure Response where
  status : UInt16
  /-- What the body is said to be, if anything. -/
  mediaType : Option String := none
  body : List UInt8 := []
deriving DecidableEq, Repr

/-- A request as it arrives at a server. -/
structure Arrival where
  method : String
  /-- A path, perhaps with a query and a fragment; a whole url; or only an authority. -/
  target : String
  body : List UInt8 := []
deriving DecidableEq, Repr

namespace Arrival

/-- What a target has before its query and its fragment. -/
def beforeQuery (target : List Char) : List Char :=
  (cutAt (fun c => c == '?' || c == '#') target).1

/-- May a character stand in the scheme of a target? -/
def standsInScheme (c : Char) : Bool := c.isAlphanum || "+-.~".toList.contains c

/-- The path of a target. A url without a path has the root's, and an authority has none. -/
def pathOf (target : List Char) : List Char :=
  if target.head? = some '/' || target = ['*'] then beforeQuery target
  else
    match cutAt (fun c => !standsInScheme c) target with
    | (_, ':' :: '/' :: '/' :: rest) =>
      let path := beforeQuery (cutAt (fun c => c == '/' || c == '?' || c == '#') rest).2
      if path.isEmpty then ['/'] else path
    | _ => []

/-- The path of a request. -/
def path (a : Arrival) : String := String.ofList (pathOf a.target.toList)

end Arrival

namespace Response

/-- A response without a body. -/
def empty (status : UInt16) : Response := { status := status }

/-- A response of plain text. -/
def ofText (status : UInt16) (text : String) : Response where
  status := status
  mediaType := some "text/plain; charset=utf-8"
  body := encodeUtf8 text

/-- A response that carries JSON. -/
def ofJson (status : UInt16) (tree : Json.Tree) : Response where
  status := status
  mediaType := some jsonMediaType
  body := encodeUtf8 tree.write

/-- Does the status say that the request succeeded? -/
def isSuccess (r : Response) : Bool := 200 ≤ r.status && r.status < 300

/-- The body as text; what is not UTF-8 is replaced. -/
def text (r : Response) : String := decodeUtf8Lossy r.body

/-- Read the body as JSON. Where it is not UTF-8, only a string that is read has to mind. -/
def json? {α : Type} (read : Json.Tree → Option α) (r : Response) : Option α :=
  (Json.Tree.readBytes? r.body).bind read

end Response

/-- Why a request got no response. -/
inductive TransportFault where
  /-- The text of the address is none. -/
  | malformedAddress
  /-- Requests are not sent to such an address. -/
  | foreignAddress (address : String)
  /-- Nobody answers at the address. -/
  | unreachable (address : String)
  /-- The response took too long. -/
  | timedOut (address : String)
  /-- The exchange broke off. -/
  | broken (address : String)
deriving DecidableEq, Repr

namespace TransportFault

/-- The wording of a fault. -/
def message : TransportFault → String
  | .malformedAddress => "builder error"
  | .foreignAddress address => s!"builder error for url ({address})"
  | .unreachable address => s!"error sending request for url ({address})"
  | .timedOut address => s!"error sending request for url ({address})"
  | .broken address => s!"error sending request for url ({address})"

end TransportFault

/-- The status that says that a run was cancelled. -/
def goneStatus : UInt16 := 410

/-- The wording for a body that cannot be understood. -/
def undecodableBody : String := "error decoding response body"

/-- What comes of a request. -/
abbrev Result := Except TransportFault Response

/-- A computation that sends requests. -/
abbrev Conversation := Dialogue Request Result

/-- A request that fetches something. -/
def Request.get (address : String) : Request where
  method := "GET"
  address := address

/-- A request that sends JSON. -/
def Request.post (address : String) (body : Json.Tree) : Request where
  method := "POST"
  address := address
  body := some body.write

end ChainWatch.Http
