import ChainWatch.Text.Utf8

/-!
# Bytes as hexadecimal digits

A byte is written as two digits in lower case, high half first (`hexOfBytes`). Reading
(`bytesOfHex`) takes either case. It works on the bytes of a text, not on its characters: a text of
odd byte length is refused before any digit is looked at, and a bad digit is reported with its
place in bytes and shown as the character with that byte's number (`describeByte`).
-/

namespace ChainWatch

/-- Why a text is no sequence of hexadecimal pairs. -/
inductive HexFault where
  | oddLength
  | badDigit (byte : UInt8) (position : Nat)
deriving DecidableEq, Repr

/-- The hexadecimal digit of a number below sixteen. -/
def hexDigit (n : Nat) : Char :=
  if n < 10 then Char.ofNat (48 + n) else Char.ofNat (87 + n)

/-- The value of an ASCII hexadecimal digit of either case. -/
def hexValue? (b : UInt8) : Option Nat :=
  let n := b.toNat
  if 48 ≤ n ∧ n ≤ 57 then some (n - 48)
  else if 97 ≤ n ∧ n ≤ 102 then some (n - 87)
  else if 65 ≤ n ∧ n ≤ 70 then some (n - 55)
  else none

/-- The two digits of a byte. -/
def hexOfByte (b : UInt8) : List Char :=
  [hexDigit (b.toNat / 16), hexDigit (b.toNat % 16)]

/-- The digits of a byte list. -/
def hexOfBytes (bytes : List UInt8) : List Char :=
  bytes.flatMap hexOfByte

/-- Read pairs of digits from the byte at `position` on. A single byte left over is refused as a
digit without a partner. -/
def hexPairs (position : Nat) : List UInt8 → Except HexFault (List UInt8)
  | [] => .ok []
  | [_] => .error .oddLength
  | a :: b :: rest =>
    match hexValue? a, hexValue? b with
    | none, _ => .error (.badDigit a position)
    | _, none => .error (.badDigit b (position + 1))
    | some high, some low =>
      (hexPairs (position + 2) rest).map (UInt8.ofNat (high * 16 + low) :: ·)

/-- Read the bytes of a text as hexadecimal pairs. -/
def bytesOfHex (text : List UInt8) : Except HexFault (List UInt8) :=
  if text.length % 2 = 1 then .error .oddLength else hexPairs 0 text

/-- A byte shown as the character of that number, between apostrophes: controls and blanks that
cannot be seen are written as escapes. -/
def describeByte (b : UInt8) : String :=
  let n := b.toNat
  let body :=
    if n = 0x00 then "\\0"
    else if n = 0x09 then "\\t"
    else if n = 0x0A then "\\n"
    else if n = 0x0D then "\\r"
    else if n = 0x27 then "\\'"
    else if n = 0x5C then "\\\\"
    else if n < 0x20 ∨ (0x7F ≤ n ∧ n ≤ 0xA0) ∨ n = 0xAD then
      let digits := if n < 16 then [hexDigit n] else hexOfByte b
      "\\u\x7b" ++ String.ofList digits ++ "\x7d"
    else String.singleton (Char.ofNat n)
  "'" ++ body ++ "'"

/-- The wording of a fault. -/
def HexFault.message : HexFault → String
  | .oddLength => "Odd number of digits"
  | .badDigit byte position => s!"Invalid character {describeByte byte} at position {position}"

/-! ### Written bytes -/

@[simp] theorem hexOfBytes_nil : hexOfBytes [] = [] := rfl

@[simp] theorem hexOfBytes_cons (b : UInt8) (bs : List UInt8) :
    hexOfBytes (b :: bs)
      = hexDigit (b.toNat / 16) :: hexDigit (b.toNat % 16) :: hexOfBytes bs := rfl

/-- Two digits for each byte. -/
@[simp] theorem length_hexOfBytes (bytes : List UInt8) :
    (hexOfBytes bytes).length = 2 * bytes.length := by
  induction bytes with
  | nil => rfl
  | cons b bs ih => simp only [hexOfBytes_cons, List.length_cons, ih]; omega

end ChainWatch
