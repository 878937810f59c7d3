import ChainWatch.Text.Digits

/-!
# Bytes after percent signs

A part of a url that could be taken for something else is written as bytes, each as two digits after
a percent sign. Which characters these are depends on the part: those that are controls or not ASCII
always are, and each part has its own special ones.
-/

namespace ChainWatch.Http

/-- Read the bytes that percent signs stand for. -/
def percentDecode : List Char → List UInt8
  | '%' :: a :: b :: cs =>
    match readDigits? 16 [a], readDigits? 16 [b] with
    | some high, some low => UInt8.ofNat (high * 16 + low) :: percentDecode cs
    | _, _ => 37 :: percentDecode (a :: b :: cs)
  | c :: cs => String.utf8EncodeChar c ++ percentDecode cs
  | [] => []

/-- A byte after a percent sign. -/
def percentByte (b : UInt8) : List Char :=
  '%' :: (hexOfByte b).map Char.toUpper

/-- Is a character always written as bytes? -/
def isUnwritable (c : Char) : Bool := c.toNat ≤ 0x1F || 0x7E < c.toNat

/-- Write the characters that may not stand as they are as bytes after percent signs. -/
def percentEncode (special : Char → Bool) (cs : List Char) : List Char :=
  cs.flatMap fun c =>
    if isUnwritable c || special c then (String.utf8EncodeChar c).flatMap percentByte else [c]

/-- The special characters of a fragment. -/
def specialInFragment (c : Char) : Bool := " \"<>`".toList.contains c

/-- The special characters of a path. -/
def specialInPath (c : Char) : Bool :=
  specialInFragment c || "#?\x7b\x7d".toList.contains c

/-- The special characters of a query. -/
def specialInQuery (c : Char) : Bool := " \"#<>".toList.contains c

/-- The special characters of names and passwords. -/
def specialInUser (c : Char) : Bool :=
  specialInPath c || "/:;=@[\\]^|".toList.contains c

example : percentEncode specialInPath "a é".toList = "a%20%C3%A9".toList := by decide +kernel
example : percentDecode "%41%4g".toList = [0x41, 0x25, 0x34, 0x67] := by decide +kernel

end ChainWatch.Http
