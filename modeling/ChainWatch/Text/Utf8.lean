/-!
# Reading UTF-8

Bytes become characters by one machine, `readUtf8`, which is total on all byte lists: it gives,
from left to right, the characters and the faults that it meets. A fault covers a longest start of
a well-formed sequence that does not go on as it must, so that the byte which breaks a sequence is
read again as the first of the next. Two readings follow:

* `decodeUtf8`: strict, with the first fault as its error;
* `decodeUtf8Lossy`: every fault becomes one replacement character.

`encodeUtf8` writes a text as bytes, so that a length or a position in bytes is one of a list.
-/

namespace ChainWatch

/-- A place where bytes are not UTF-8. `offset` counts the well-formed bytes before it; `width` is
the number of bytes it covers, or `none` when the input ends inside a sequence. -/
structure Utf8Fault where
  offset : Nat
  width : Option Nat
deriving DecidableEq, Repr

/-- The wording of a fault. -/
def Utf8Fault.message (f : Utf8Fault) : String :=
  match f.width with
  | some n => s!"invalid utf-8 sequence of {n} bytes from index {f.offset}"
  | none => s!"incomplete utf-8 byte sequence from index {f.offset}"

/-- A sequence that has begun: the bits read so far, the range that each byte still missing must
lie in, and the number of bytes read. -/
structure Utf8Partial where
  bits : Nat
  awaited : List (UInt8 × UInt8)
  width : Nat

/-- What one byte is at the start of a sequence. -/
inductive Utf8Lead where
  | char (c : Char)
  | opens (p : Utf8Partial)
  | stray

/-- The range of an unrestricted continuation byte. -/
def utf8Tail : UInt8 × UInt8 := (0x80, 0xBF)

/-- Classify the first byte of a sequence. The second byte is restricted after `E0` and `F0`, where
a shorter form exists, after `ED`, where the surrogates lie, and after `F4`, where the code space
ends. -/
def utf8Lead (b : UInt8) : Utf8Lead :=
  let n := b.toNat
  if n < 0x80 then .char (Char.ofNat n)
  else if n < 0xC2 then .stray
  else if n < 0xE0 then .opens ⟨n - 0xC0, [utf8Tail], 1⟩
  else if n = 0xE0 then .opens ⟨0, [(0xA0, 0xBF), utf8Tail], 1⟩
  else if n = 0xED then .opens ⟨0x0D, [(0x80, 0x9F), utf8Tail], 1⟩
  else if n < 0xF0 then .opens ⟨n - 0xE0, [utf8Tail, utf8Tail], 1⟩
  else if n = 0xF0 then .opens ⟨0, [(0x90, 0xBF), utf8Tail, utf8Tail], 1⟩
  else if n < 0xF4 then .opens ⟨n - 0xF0, [utf8Tail, utf8Tail, utf8Tail], 1⟩
  else if n = 0xF4 then .opens ⟨4, [(0x80, 0x8F), utf8Tail, utf8Tail], 1⟩
  else .stray

/-- What one byte does to a sequence that has begun. -/
inductive Utf8Step where
  | char (c : Char)
  | opens (p : Utf8Partial)
  | breaks

/-- Give a sequence its next byte. -/
def Utf8Partial.step (p : Utf8Partial) (b : UInt8) : Utf8Step :=
  match p.awaited with
  | [] => .breaks
  | (lo, hi) :: rest =>
    if lo ≤ b ∧ b ≤ hi then
      let bits := p.bits * 64 + (b.toNat - 0x80)
      if rest.isEmpty then .char (Char.ofNat bits) else .opens ⟨bits, rest, p.width + 1⟩
    else .breaks

/-- Read bytes from the byte at `offset` on, inside a sequence or between two. -/
def readUtf8From (offset : Nat) : Option Utf8Partial → List UInt8 → List (Except Utf8Fault Char)
  | none, [] => []
  | some p, [] => [.error ⟨offset - p.width, none⟩]
  | none, b :: bs =>
    match utf8Lead b with
    | .char c => .ok c :: readUtf8From (offset + 1) none bs
    | .opens p => readUtf8From (offset + 1) (some p) bs
    | .stray => .error ⟨offset, some 1⟩ :: readUtf8From (offset + 1) none bs
  | some p, b :: bs =>
    match p.step b with
    | .char c => .ok c :: readUtf8From (offset + 1) none bs
    | .opens q => readUtf8From (offset + 1) (some q) bs
    | .breaks =>
      .error ⟨offset - p.width, some p.width⟩ ::
        match utf8Lead b with
        | .char c => .ok c :: readUtf8From (offset + 1) none bs
        | .opens q => readUtf8From (offset + 1) (some q) bs
        | .stray => .error ⟨offset, some 1⟩ :: readUtf8From (offset + 1) none bs

/-- The characters and faults of a byte list, from left to right. -/
def readUtf8 (bytes : List UInt8) : List (Except Utf8Fault Char) :=
  readUtf8From 0 none bytes

/-- Read bytes as text, or give the first fault. -/
def decodeUtf8 (bytes : List UInt8) : Except Utf8Fault String :=
  (readUtf8 bytes).mapM id |>.map String.ofList

/-- Read bytes as text with the replacement character for each fault. -/
def decodeUtf8Lossy (bytes : List UInt8) : String :=
  String.ofList <| (readUtf8 bytes).map fun
    | .ok c => c
    | .error _ => '\ufffd'

/-- The bytes of a list of characters. -/
def encodeUtf8Chars (cs : List Char) : List UInt8 :=
  cs.flatMap String.utf8EncodeChar

/-- The bytes of a text. -/
def encodeUtf8 (s : String) : List UInt8 :=
  encodeUtf8Chars s.toList

@[simp] theorem encodeUtf8Chars_nil : encodeUtf8Chars [] = [] := rfl

@[simp] theorem encodeUtf8Chars_cons (c : Char) (cs : List Char) :
    encodeUtf8Chars (c :: cs) = String.utf8EncodeChar c ++ encodeUtf8Chars cs := rfl

end ChainWatch
