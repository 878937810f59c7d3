import ChainWatch.DomainName.Basic
import ChainWatch.Http.Percent

/-!
# Hosts

The host of an address is a name, an IPv4 address or an IPv6 address in brackets. Each has one
normal form: names are in plain letters without percent signs (`DomainName.toPlain?`), IPv4
addresses have four decimal parts whatever way they were written (`0x7f.1` is `127.0.0.1`), and in
IPv6 addresses the longest run of zero groups is left out. A name whose last part looks like a
number must be an IPv4 address.

Where it is not known what a host means, anything but an IPv6 address stays as it is.
-/

namespace ChainWatch.Http

/-! ### IPv4 -/

/-- Read one part of an IPv4 address: hexadecimal after `0x`, octal after `0`, else decimal. -/
def ipv4Part? : List Char → Option Nat
  | [] => none
  | ['0'] => some 0
  | '0' :: 'x' :: cs => readDigits? 16 cs
  | '0' :: 'X' :: cs => readDigits? 16 cs
  | '0' :: cs => readDigits? 8 cs
  | cs => readDigits? 10 cs

/-- The parts of a name between its dots, without the empty part after a last dot. -/
def nameParts (name : List Char) : List (List Char) :=
  let parts := splitWhere (· == '.') name
  if 1 < parts.length && parts.getLast? == some [] then parts.dropLast else parts

/-- Must a name be an IPv4 address? It must if its last part is a number. -/
def endsInNumber (name : List Char) : Bool :=
  match (nameParts name).getLast? with
  | none => false
  | some part => (!part.isEmpty && part.all Char.isDigit) || (ipv4Part? part).isSome

/-- The number of an IPv4 address: the last part fills all bytes that the others leave. -/
def ipv4OfParts? (parts : List Nat) : Option Nat :=
  match parts.reverse with
  | [] => none
  | last :: leading =>
    let count := leading.length
    if 3 < count then none
    else if leading.any (255 < ·) then none
    else if 1 <<< (8 * (4 - count)) ≤ last then none
    else
      some <| leading.reverse.zipIdx.foldl (fun n (part, i) => n + part <<< (8 * (3 - i))) last

/-- Read an IPv4 address. -/
def ipv4? (name : List Char) : Option Nat := do
  ipv4OfParts? (← (nameParts name).mapM ipv4Part?)

/-- The normal form of an IPv4 address. -/
def writeIpv4 (n : Nat) : List Char :=
  joinWith ['.'] <| [3, 2, 1, 0].map fun i => Nat.toDigits 10 ((n >>> (8 * i)) % 256)

/-! ### IPv6 -/

/-- Read four decimal parts below 256 without leading zeros. -/
def strictIpv4? (cs : List Char) : Option (List Nat) := do
  let parts ← (splitWhere (· == '.') cs).mapM fun part => do
    let n ← if part.isEmpty then none else readDigits? 10 part
    if n < 256 ∧ Nat.toDigits 10 n = part then some n else none
  match parts with
  | [a, b, c, d] => some [a * 256 + b, c * 256 + d]
  | _ => none

/-- Read groups of up to four hexadecimal digits; the last may be an IPv4 address. -/
def ipv6Groups? (cs : List Char) : Option (List Nat) :=
  if cs.isEmpty then some []
  else
    let pieces := splitWhere (· == ':') cs
    let group? (piece : List Char) : Option Nat :=
      if piece.isEmpty || 4 < piece.length then none else readDigits? 16 piece
    match pieces.reverse with
    | [] => none
    | last :: leading => do
      let groups ← leading.reverse.mapM group?
      if last.contains '.' then return groups ++ (← strictIpv4? last)
      else return groups ++ [← group? last]

/-- Cut at the first pair of colons. -/
def cutDoubleColon : List Char → Option (List Char × List Char)
  | ':' :: ':' :: cs => some ([], cs)
  | c :: cs => (cutDoubleColon cs).map fun (before, after) => (c :: before, after)
  | [] => none

/-- Read an IPv6 address: eight groups, of which some zeros may be left out once. -/
def ipv6? (cs : List Char) : Option (List Nat) :=
  match cutDoubleColon cs with
  | none => do
    let groups ← ipv6Groups? cs
    if groups.length = 8 then some groups else none
  | some (before, after) => do
    let front ← if before.contains '.' then none else ipv6Groups? before
    let back ← ipv6Groups? after
    if front.length + back.length < 8 then
      some (front ++ List.replicate (8 - front.length - back.length) 0 ++ back)
    else none

/-- The start and the length of the first longest run of two or more zero groups. -/
def longestZeroRun (groups : List Nat) : Option (Nat × Nat) :=
  let runs := (List.range groups.length).map fun i =>
    (i, ((groups.drop i).takeWhile (· == 0)).length)
  let best := runs.foldl (fun best run => if best.2 < run.2 then run else best) (0, 1)
  if 1 < best.2 then some best else none

/-- Groups between colons. -/
def writeGroups (groups : List Nat) : List Char :=
  joinWith [':'] (groups.map (Nat.toDigits 16))

/-- The normal form of an IPv6 address. -/
def writeIpv6 (groups : List Nat) : List Char :=
  match longestZeroRun groups with
  | none => writeGroups groups
  | some (start, length) =>
    writeGroups (groups.take start) ++ ':' :: ':' :: writeGroups (groups.drop (start + length))

/-! ### Hosts -/

/-- Does a host stand between brackets? -/
def isBracketed (cs : List Char) : Bool := cs.head? == some '['

/-- The normal form of a host between brackets, if it is an IPv6 address. -/
def bracketedHost? (cs : List Char) : Option (List Char) :=
  if cs.getLast? = some ']' then
    (ipv6? (cs.drop 1).dropLast).map fun groups => '[' :: (writeIpv6 groups ++ [']'])
  else none

/-- The characters that no name may have. -/
def isForbiddenInName (c : Char) : Bool :=
  c.toNat ≤ 0x20 || c.toNat == 0x7F || "#/:<>?@[\\]^|%".toList.contains c

/-- The normal form of a name or an IPv4 address. -/
def normalName? (cs : List Char) : Option (List Char) := do
  let typed ← (decodeUtf8 (percentDecode cs)).toOption
  let name ← DomainName.toPlain? isForbiddenInName typed.toList
  if name.isEmpty then none
  else if endsInNumber name then (ipv4? name).map writeIpv4
  else some name

/-- The normal form of a host that is looked up, if it is one. -/
def normalHost? (cs : List Char) : Option (List Char) :=
  if isBracketed cs then bracketedHost? cs else normalName? cs

/-- The characters that no host may have, whoever knows what it means. -/
def isForbiddenInHost (c : Char) : Bool :=
  c == Char.ofNat 0 || "\t\n\r #/:<>?@[\\]^|".toList.contains c

/-- The normal form of a host whose meaning is not known: it is kept, but for the characters that
cannot be written. -/
def opaqueHost? (cs : List Char) : Option (List Char) :=
  if isBracketed cs then bracketedHost? cs
  else if cs.any isForbiddenInHost then none
  else some (percentEncode (fun _ => false) cs)

end ChainWatch.Http
