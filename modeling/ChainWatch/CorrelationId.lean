import ChainWatch.Text.Hex

/-!
# Correlation ids

Every submitted transaction carries a `CorrelationId` of sixteen bytes. It is what the nodes are
asked about, and the order of the ids is the order in which watches are looked at.

The text form is thirty-two hexadecimal digits, written in lower case and read in either. Reading
fails for one of three reasons, in this order: the text has an odd number of bytes, a byte is no
digit, or the digits are of another number of bytes.
-/

namespace ChainWatch

/-- Sixteen bytes that name one transaction. -/
structure CorrelationId where
  bytes : List UInt8
  length_bytes : bytes.length = 16
deriving DecidableEq

/-- Why a text is no correlation id. -/
inductive CorrelationIdFault where
  | hex (fault : HexFault)
  /-- The digits are well formed, but of another number of bytes. -/
  | length (actual : Nat)
deriving DecidableEq, Repr

/-- The wording of a fault of length. -/
def lengthFaultMessage (expected actual : Nat) : String :=
  s!"invalid length: expected {expected} bytes, got {actual}"

/-- The wording of a fault. -/
def CorrelationIdFault.message : CorrelationIdFault → String
  | .hex fault => "invalid hex: " ++ fault.message
  | .length actual => lengthFaultMessage 16 actual

namespace CorrelationId

/-- The id of sixteen bytes. -/
def ofBytes? (bytes : List UInt8) : Option CorrelationId :=
  if h : bytes.length = 16 then some ⟨bytes, h⟩ else none

/-- Read the text form. -/
def parse (s : String) : Except CorrelationIdFault CorrelationId :=
  match bytesOfHex (encodeUtf8 s) with
  | .error fault => .error (.hex fault)
  | .ok bytes =>
    match ofBytes? bytes with
    | some id => .ok id
    | none => .error (.length bytes.length)

/-- The digits of the text form. -/
def digits (id : CorrelationId) : List Char :=
  hexOfBytes id.bytes

/-- The text form. -/
def text (id : CorrelationId) : String :=
  String.ofList id.digits

/-- A short form for people who trace a program: the first four bytes. -/
def brief (id : CorrelationId) : String :=
  "CorrelationId(" ++ String.ofList (id.digits.take 8) ++ ")"

/-- The id whose bytes write a number, the most significant first. -/
def ofNat (n : Nat) : CorrelationId where
  bytes := (List.range 16).map fun i => UInt8.ofNat (n >>> (8 * (15 - i)))
  length_bytes := by simp

/-- The id of sixteen zero bytes. -/
def zero : CorrelationId := ofNat 0

/-- The order of the bytes, the first difference deciding. -/
instance : LT CorrelationId where
  lt a b := a.bytes < b.bytes

instance (a b : CorrelationId) : Decidable (a < b) :=
  inferInstanceAs (Decidable (a.bytes < b.bytes))

theorem lt_def {a b : CorrelationId} : a < b ↔ a.bytes < b.bytes := Iff.rfl

/-- Put an id into ids in ascending order, unless it is there. -/
def insertSorted (id : CorrelationId) : List CorrelationId → List CorrelationId
  | [] => [id]
  | head :: rest =>
    if id < head then id :: head :: rest
    else if id = head then head :: rest
    else head :: insertSorted id rest

/-- The ids of a list in ascending order, each once. -/
def sorted (ids : List CorrelationId) : List CorrelationId :=
  ids.foldl (fun out id => insertSorted id out) []

end CorrelationId

end ChainWatch
