import ChainWatch.Http.Host
import ChainWatch.Service.ListenAddress

/-!
# Listening without a network

A machine that is connected to nothing finds no host but itself. It still listens at every IPv4
address, since nobody can tell that it is not its own, but at no IPv6 address except the one that
stands for all (`listenFault?`). Of the names only `localhost` is known; the others nobody answers
for, if they can be names of hosts at all (`isHostName`).
-/

namespace ChainWatch

/-- Why a machine does not listen at an address. -/
inductive ListenFault where
  /-- The address is not a host and a port. -/
  | unreadable (fault : ListenAddressFault)
  /-- The host cannot be a name. -/
  | noName
  /-- There is nobody who knows what the name stands for. -/
  | noAnswer
  /-- The address is not one of the machine. -/
  | elsewhere
deriving DecidableEq, Repr

/-- The wording of a fault. -/
def ListenFault.message : ListenFault → String
  | unreadable fault => fault.message
  | noName => "failed to lookup address information: Name or service not known"
  | noAnswer => "failed to lookup address information: Temporary failure in name resolution"
  | elsewhere => "Cannot assign requested address (os error 99)"

/-- May a character stand in the name of a host? -/
def isHostNameChar (c : Char) : Bool := c.isAlphanum || c == '-' || c == '_'

/-- Can a text be a label of a name? -/
def isHostLabel (label : List Char) : Bool :=
  !label.isEmpty && label.length ≤ 63 && label.all isHostNameChar

/-- Can a text be the name of a host? It has labels between dots, and perhaps a dot after the last;
it is not too long and does not begin with a hyphen. A dot alone is a name too. -/
def isHostName (host : List Char) : Bool :=
  let name := if host.getLast? == some '.' then host.dropLast else host
  host == ['.']
    || name.length ≤ 253 && host.head? != some '-' && (splitWhere (· == '.') name).all isHostLabel

/-- The text between the brackets around it, if there are any. -/
def withoutBrackets (host : List Char) : List Char :=
  if host.head? == some '[' && host.getLast? == some ']' then (host.drop 1).dropLast else host

/-- Is an IPv6 address the one that stands for all, or an IPv4 address in another form? -/
def isForEveryone (groups : List Nat) : Bool :=
  groups.all (· == 0) || groups.take 6 == [0, 0, 0, 0, 0, 0xFFFF]

/-- What keeps a machine without a network from listening at a host. -/
def hostFault? (host : List Char) : Option ListenFault :=
  if let some groups := Http.ipv6? (withoutBrackets host) then
    if isForEveryone groups then none else some .elsewhere
  else if (Http.ipv4? host).isSome && host.getLast? != some '.' then none
  else if host.map Char.toLower = "localhost".toList then none
  else if isHostName host then some .noAnswer
  else some .noName

/-- What keeps a machine without a network from listening at an address. -/
def listenFault? (address : String) : Option ListenFault :=
  match ListenAddress.read address with
  | .error fault => some (.unreadable fault)
  | .ok a => hostFault? a.host.toList

example : listenFault? "LocalHost:80" = none := by decide +kernel
example : listenFault? "chain.test.:80" = some .noAnswer := by decide +kernel
example : listenFault? "chain..test:80" = some .noName := by decide +kernel
example : listenFault? "[::1]:80" = some .elsewhere := by decide +kernel
example : listenFault? "0x7f.1:80" = none := by decide +kernel

end ChainWatch
