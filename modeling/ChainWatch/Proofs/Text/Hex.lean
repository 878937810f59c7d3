import ChainWatch.Proofs.Text.Utf8
import ChainWatch.Text.Hex
import Mathlib.Data.UInt

/-!
# Which texts are hexadecimal

Bytes are written as pairs of digits in lower case and read from digits of either case, so what is
read need not be what would be written. It is so up to case, and this is all there is to say about
texts that are read: bytes are read from a text exactly if they are written as the text in lower
case (`bytesOfHex_eq_ok_iff`). That the text has a digit for each half of a byte, and nothing but
digits, follows.

The texts that are not read are sorted by what is told of them (`bytesOfHex_eq_error_iff`): a text
of odd length is refused as such whatever it holds, and any other for its first byte that is no
digit (`FirstStray`).

The digits stand in the order of the numbers they are for, the letters after the figures, so written
bytes are in the order of the bytes (`hexOfBytes_lt_iff`).

Reading is about bytes and writing about characters. A byte counts as the character with its number;
of a text in UTF-8 that is the character that was encoded exactly if it is ASCII, and an encoding of
any other character has a byte that is no digit (`forall_isHexDigit_encodeUtf8Chars_iff`).
-/

namespace ChainWatch

/-! ### Digits -/

section Digits

variable {b : UInt8} {c : Char} {m n : Nat}

/-- Only the capital letters of ASCII have a lower case, thirty-two numbers further on. -/
theorem toNat_toLower (c : Char) :
    c.toLower.toNat = if 65 ≤ c.toNat ∧ c.toNat ≤ 90 then c.toNat + 32 else c.toNat := by
  have hupper : (c.val ≥ 'A'.val ∧ c.val ≤ 'Z'.val) ↔ 65 ≤ c.toNat ∧ c.toNat ≤ 90 := by
    simp only [ge_iff_le, UInt32.le_iff_toNat_le]
    rfl
  unfold Char.toLower
  by_cases h : 65 ≤ c.toNat ∧ c.toNat ≤ 90
  · rw [dif_pos (hupper.mpr h), if_pos h]
    change (c.val + ('a'.val - 'A'.val)).toNat = c.val.toNat + 32
    have hsmall : c.val.toNat ≤ 90 := h.2
    rw [UInt32.toNat_add, show ('a'.val - 'A'.val).toNat = 32 from rfl]
    omega
  · rw [dif_neg (mt hupper.mp h), if_neg h]

theorem toNat_hexDigit (h : n < 16) :
    (hexDigit n).toNat = if n < 10 then 48 + n else 87 + n := by
  -- sixteen numbers, so all of them may be tried
  have hall : ∀ n : Fin 16,
      (hexDigit n.val).toNat = if n.val < 10 then 48 + n.val else 87 + n.val := by
    decide
  exact hall ⟨n, h⟩

theorem isHexDigit_iff :
    c.isHexDigit = true ↔ 48 ≤ c.toNat ∧ c.toNat ≤ 57 ∨ 97 ≤ c.toNat ∧ c.toNat ≤ 102 ∨
      65 ≤ c.toNat ∧ c.toNat ≤ 70 := by
  simp only [Char.isHexDigit, Char.isDigit, Bool.or_eq_true, Bool.and_eq_true, decide_eq_true_eq,
    ge_iff_le, UInt32.le_iff_toNat_le, or_assoc]
  rfl

theorem toLower_eq_hexDigit_iff (h : n < 16) :
    c.toLower = hexDigit n ↔
      n < 10 ∧ c.toNat = 48 + n ∨ 10 ≤ n ∧ (c.toNat = 87 + n ∨ c.toNat = 55 + n) := by
  rw [← Char.toNat_inj, toNat_toLower, toNat_hexDigit h]
  split <;> split <;> omega

/-- A digit is a character that in lower case is written for a number. -/
theorem isHexDigit_iff_exists : c.isHexDigit = true ↔ ∃ n < 16, c.toLower = hexDigit n := by
  rw [isHexDigit_iff]
  constructor
  · rintro (h | h | h)
    · exact ⟨c.toNat - 48, by omega, (toLower_eq_hexDigit_iff (by omega)).mpr (by omega)⟩
    · exact ⟨c.toNat - 87, by omega, (toLower_eq_hexDigit_iff (by omega)).mpr (by omega)⟩
    · exact ⟨c.toNat - 55, by omega, (toLower_eq_hexDigit_iff (by omega)).mpr (by omega)⟩
  · rintro ⟨n, hn, hc⟩
    rw [toLower_eq_hexDigit_iff hn] at hc
    omega

/-- A byte is read as a digit if it is written for this digit, in either case. -/
theorem hexValue?_eq_some_iff :
    hexValue? b = some n ↔ n < 16 ∧ b.toChar.toLower = hexDigit n := by
  have hcode : b.toChar.toNat = b.toNat := rfl
  unfold hexValue?
  constructor
  · intro h
    have hn : n < 16 := by grind
    rw [toLower_eq_hexDigit_iff hn, hcode]
    grind
  · rintro ⟨hn, h⟩
    rw [toLower_eq_hexDigit_iff hn, hcode] at h
    grind

theorem hexValue?_eq_none_iff : hexValue? b = none ↔ ¬ b.toChar.isHexDigit = true := by
  rw [isHexDigit_iff_exists, Option.eq_none_iff_forall_ne_some]
  simp only [ne_eq, hexValue?_eq_some_iff, not_exists]

theorem isHexDigit_of_hexValue? (h : hexValue? b = some n) : b.toChar.isHexDigit = true := by
  obtain ⟨hn, hb⟩ := hexValue?_eq_some_iff.mp h
  exact isHexDigit_iff_exists.mpr ⟨n, hn, hb⟩

theorem hexDigit_lt_iff (hm : m < 16) (hn : n < 16) : hexDigit m < hexDigit n ↔ m < n := by
  rw [Char.lt_def, UInt32.lt_iff_toNat_lt]
  change (hexDigit m).toNat < (hexDigit n).toNat ↔ m < n
  rw [toNat_hexDigit hm, toNat_hexDigit hn]
  split <;> split <;> omega

theorem hexDigit_inj (hm : m < 16) (hn : n < 16) : hexDigit m = hexDigit n ↔ m = n := by
  rw [← Char.toNat_inj, toNat_hexDigit hm, toNat_hexDigit hn]
  split <;> split <;> omega

end Digits

/-! ### Written bytes -/

section Written

variable {as bs : List UInt8} {c : Char}

/-- Every character that is written is a digit in lower case. -/
theorem exists_of_mem_hexOfBytes (h : c ∈ hexOfBytes bs) : ∃ n < 16, c = hexDigit n := by
  induction bs with
  | nil => cases h
  | cons b bs ih =>
    have hlt := b.toNat_lt
    rw [hexOfBytes_cons, List.mem_cons, List.mem_cons] at h
    rcases h with rfl | rfl | h
    · exact ⟨b.toNat / 16, by omega, rfl⟩
    · exact ⟨b.toNat % 16, by omega, rfl⟩
    · exact ih h

theorem toLower_of_mem_hexOfBytes (h : c ∈ hexOfBytes bs) : c.toLower = c := by
  obtain ⟨n, hn, rfl⟩ := exists_of_mem_hexOfBytes h
  rw [← Char.toNat_inj, toNat_toLower, toNat_hexDigit hn]
  split <;> split <;> omega

/-- So a character is a digit if it is written in lower case. -/
theorem isHexDigit_of_toLower_mem (h : c.toLower ∈ hexOfBytes bs) : c.isHexDigit = true :=
  isHexDigit_iff_exists.mpr (exists_of_mem_hexOfBytes h)

/-- Digits are in the order of the bytes that they are written for. -/
theorem hexOfBytes_lt_iff : hexOfBytes as < hexOfBytes bs ↔ as < bs := by
  induction as generalizing bs with
  | nil => cases bs <;> simp
  | cons a as ih =>
    cases bs with
    | nil => simp
    | cons b bs =>
      have ha := a.toNat_lt
      have hb := b.toNat_lt
      simp only [hexOfBytes_cons, List.cons_lt_cons_iff, ih]
      rw [hexDigit_lt_iff (by omega) (by omega), hexDigit_lt_iff (by omega) (by omega),
        hexDigit_inj (by omega) (by omega), hexDigit_inj (by omega) (by omega),
        UInt8.lt_iff_toNat_lt, ← UInt8.toNat_inj]
      -- the halves of a byte decide as the byte does, and the rest does only if they are the same
      by_cases hrest : as < bs <;> simp only [hrest, and_true, and_false, or_false] <;> omega

end Written

/-! ### Reading -/

section Reading

variable {text bytes : List UInt8} {a b c byte : UInt8} {position i : Nat} {fault : HexFault}

/-- The byte at a position is no digit, and all before it are. -/
structure FirstStray (text : List UInt8) (byte : UInt8) (position : Nat) : Prop where
  at_position : text[position]? = some byte
  not_digit : ¬ byte.toChar.isHexDigit = true
  before : ∀ b ∈ text.take position, b.toChar.isHexDigit = true

theorem not_firstStray_nil : ¬ FirstStray [] byte i := fun h => by cases h.at_position

theorem firstStray_cons_of_not_digit (ha : ¬ a.toChar.isHexDigit = true) :
    FirstStray (a :: text) byte i ↔ byte = a ∧ i = 0 := by
  constructor
  · intro h
    cases i with
    | zero => exact ⟨(Option.some.inj h.at_position).symm, rfl⟩
    | succ i => exact absurd (h.before a (List.mem_cons_self ..)) ha
  · rintro ⟨rfl, rfl⟩
    exact ⟨rfl, ha, nofun⟩

theorem firstStray_cons_of_digit (ha : a.toChar.isHexDigit = true) :
    FirstStray (a :: text) byte i ↔ ∃ j, i = j + 1 ∧ FirstStray text byte j := by
  constructor
  · intro h
    cases i with
    | zero =>
      cases h.at_position
      exact absurd ha h.not_digit
    | succ j =>
      exact ⟨j, rfl, h.at_position, h.not_digit, fun b hb => h.before b (List.mem_cons_of_mem _ hb)⟩
  · rintro ⟨j, rfl, h⟩
    exact ⟨h.at_position, h.not_digit, List.forall_mem_cons.mpr ⟨ha, h.before⟩⟩

/-- A pair of digits is read as the byte whose halves they are for. -/
theorem hexPairs_cons_cons_eq_ok_iff :
    hexPairs position (a :: b :: text) = .ok bytes ↔
      ∃ c rest, bytes = c :: rest ∧ hexValue? a = some (c.toNat / 16) ∧
        hexValue? b = some (c.toNat % 16) ∧ hexPairs (position + 2) text = .ok rest := by
  constructor
  · intro h
    rw [hexPairs] at h
    split at h
    · cases h
    · cases h
    · next high low ha hb =>
      cases hrest : hexPairs (position + 2) text with
      | error fault =>
        rw [hrest] at h
        cases h
      | ok rest =>
        rw [hrest] at h
        cases h
        -- both halves are below sixteen, so none of them is lost in the byte
        have hhigh := (hexValue?_eq_some_iff.mp ha).1
        have hlow := (hexValue?_eq_some_iff.mp hb).1
        have hbyte : (UInt8.ofNat (high * 16 + low)).toNat = high * 16 + low :=
          UInt8.toNat_ofNat_of_lt' (show high * 16 + low < 256 by omega)
        refine ⟨_, rest, rfl, ?_, ?_, rfl⟩
        · rw [ha, hbyte, show (high * 16 + low) / 16 = high by omega]
        · rw [hb, hbyte, show (high * 16 + low) % 16 = low by omega]
  · rintro ⟨c, rest, rfl, ha, hb, hrest⟩
    rw [hexPairs, ha, hb, hrest]
    dsimp only
    rw [Nat.div_add_mod', UInt8.ofNat_toNat]
    rfl

/-- Pairs are read as the bytes that are written as the text in lower case. -/
theorem hexPairs_eq_ok_iff :
    hexPairs position text = .ok bytes ↔ text.map (·.toChar.toLower) = hexOfBytes bytes := by
  -- on the bytes that are written, for each of which the text has two
  induction bytes generalizing position text with
  | nil =>
    match text with
    | [] => simp [hexPairs]
    | [a] => simp [hexPairs]
    | a :: b :: text => simp [hexPairs_cons_cons_eq_ok_iff]
  | cons c bytes ih =>
    have hc := c.toNat_lt
    match text with
    | [] => simp [hexPairs]
    | [a] => simp [hexPairs]
    | a :: b :: text =>
      simp only [hexPairs_cons_cons_eq_ok_iff, hexValue?_eq_some_iff, hexOfBytes_cons,
        List.map_cons, List.cons.injEq]
      constructor
      · rintro ⟨c, rest, ⟨rfl, rfl⟩, ⟨-, ha⟩, ⟨-, hb⟩, htext⟩
        exact ⟨ha, hb, ih.mp htext⟩
      · rintro ⟨ha, hb, htext⟩
        exact ⟨c, bytes, ⟨rfl, rfl⟩, ⟨by omega, ha⟩, ⟨by omega, hb⟩, ih.mpr htext⟩

/-- Of pairs that are not read, the first byte that is no digit is told. -/
theorem hexPairs_eq_error_iff (heven : text.length % 2 = 0) :
    hexPairs position text = .error fault ↔
      ∃ byte i, FirstStray text byte i ∧ fault = .badDigit byte (position + i) := by
  fun_induction hexPairs position text with
  | case1 position => simp [not_firstStray_nil]
  | case2 position a => simp at heven
  | case3 position a b text ha =>
    rw [hexValue?_eq_none_iff] at ha
    simp [firstStray_cons_of_not_digit ha, eq_comm]
  | case4 position a b text hb ha =>
    have ha : a.toChar.isHexDigit = true :=
      Decidable.not_not.mp fun hnot => ha (hexValue?_eq_none_iff.mpr hnot)
    rw [hexValue?_eq_none_iff] at hb
    simp [firstStray_cons_of_digit ha, firstStray_cons_of_not_digit hb, eq_comm]
  | case5 position a b text high low hb ha ih =>
    have hmap : ∀ read : Except HexFault (List UInt8),
        read.map (UInt8.ofNat (high * 16 + low) :: ·) = .error fault ↔ read = .error fault := by
      intro read
      cases read <;> simp [Except.map]
    have heven : text.length % 2 = 0 := by
      rw [List.length_cons, List.length_cons] at heven
      omega
    simp only [hmap, ih heven, firstStray_cons_of_digit (isHexDigit_of_hexValue? ha),
      firstStray_cons_of_digit (isHexDigit_of_hexValue? hb)]
    -- a byte further on stands two places later in the whole
    constructor
    · rintro ⟨byte, i, h, rfl⟩
      exact ⟨byte, i + 2, ⟨i + 1, rfl, i, rfl, h⟩, by rw [Nat.add_assoc, Nat.add_comm 2 i]⟩
    · rintro ⟨byte, _, ⟨_, rfl, i, rfl, h⟩, rfl⟩
      exact ⟨byte, i, h, by rw [Nat.add_assoc position 2 i, Nat.add_comm 2 i]⟩

/-- Bytes are read from a text exactly if they are written as the text in lower case. -/
theorem bytesOfHex_eq_ok_iff :
    bytesOfHex text = .ok bytes ↔ text.map (·.toChar.toLower) = hexOfBytes bytes := by
  unfold bytesOfHex
  split
  · next hodd =>
    refine ⟨nofun, fun h => ?_⟩
    have hlength := congrArg List.length h
    rw [List.length_map, length_hexOfBytes] at hlength
    omega
  · exact hexPairs_eq_ok_iff

/-- Digits are refused for their odd number, or else for the first byte that is none. -/
theorem bytesOfHex_eq_error_iff :
    bytesOfHex text = .error fault ↔
      text.length % 2 = 1 ∧ fault = .oddLength ∨
      text.length % 2 = 0 ∧ ∃ byte i, FirstStray text byte i ∧ fault = .badDigit byte i := by
  unfold bytesOfHex
  split
  · next hodd => simp [hodd, eq_comm]
  · next heven =>
    rw [Nat.mod_two_not_eq_one] at heven
    simp [heven, hexPairs_eq_error_iff heven]

/-- Two digits are one byte. -/
theorem length_of_bytesOfHex (h : bytesOfHex text = .ok bytes) :
    text.length = 2 * bytes.length := by
  have hlength := congrArg List.length (bytesOfHex_eq_ok_iff.mp h)
  rwa [List.length_map, length_hexOfBytes] at hlength

/-- Digits in pairs are all that it takes. -/
theorem exists_bytesOfHex_iff :
    (∃ bytes, bytesOfHex text = .ok bytes) ↔
      text.length % 2 = 0 ∧ ∀ b ∈ text, b.toChar.isHexDigit = true := by
  constructor
  · rintro ⟨bytes, h⟩
    have hlength := length_of_bytesOfHex h
    refine ⟨by omega, fun b hb => ?_⟩
    have hmap := bytesOfHex_eq_ok_iff.mp h
    have hlower : b.toChar.toLower ∈ hexOfBytes bytes := hmap ▸ List.mem_map_of_mem hb
    exact isHexDigit_of_toLower_mem hlower
  · rintro ⟨heven, hdigits⟩
    cases h : bytesOfHex text with
    | ok bytes => exact ⟨bytes, rfl⟩
    | error fault =>
      -- a fault would need an odd length or a byte that is no digit
      rcases bytesOfHex_eq_error_iff.mp h with ⟨hodd, -⟩ | ⟨-, byte, i, hstray, -⟩
      · omega
      · have hmem := List.mem_of_getElem? hstray.at_position
        exact absurd (hdigits byte hmem) hstray.not_digit

end Reading

/-! ### Texts in UTF-8 -/

section Encoded

variable {c : Char} {cs : List Char} {bytes : List UInt8}

/-- A character of ASCII is one byte with its number. -/
theorem exists_utf8EncodeChar_eq (h : c.toNat ≤ 127) :
    ∃ b : UInt8, String.utf8EncodeChar c = [b] ∧ b.toChar = c := by
  refine ⟨UInt8.ofNat c.toNat, if_pos h, ?_⟩
  rw [← Char.toNat_inj]
  exact UInt8.toNat_ofNat_of_lt' (show c.toNat < 256 by omega)

/-- The bytes are as many as the text counts. -/
theorem length_encodeUtf8 (s : String) : (encodeUtf8 s).length = s.utf8ByteSize := by
  have hbytes : s.toByteArray = (encodeUtf8 s).toByteArray := by
    rw [← String.ofList_toList (s := s), String.toByteArray_ofList, String.ofList_toList]
    rfl
  rw [← String.size_toByteArray, hbytes, List.size_toByteArray]

/-- The encoding of a character that is no digit has a byte that is none. -/
theorem exists_not_isHexDigit (h : ¬ c.isHexDigit = true) :
    ∃ b ∈ String.utf8EncodeChar c, ¬ b.toChar.isHexDigit = true := by
  by_cases hascii : c.toNat ≤ 127
  · obtain ⟨b, hbytes, hb⟩ := exists_utf8EncodeChar_eq hascii
    exact ⟨b, by rw [hbytes, List.mem_singleton], by rwa [hb]⟩
  · -- the last byte of several lies beyond ASCII
    refine ⟨UInt8.ofNat (c.toNat % 64 + 128), ?_, ?_⟩
    · have hval : c.val.toNat = c.toNat := rfl
      unfold String.utf8EncodeChar
      dsimp only
      rw [hval, if_neg hascii]
      split
      · simp
      · split <;> simp
    · rw [isHexDigit_iff]
      have hbyte : (UInt8.ofNat (c.toNat % 64 + 128)).toChar.toNat = c.toNat % 64 + 128 :=
        UInt8.toNat_ofNat_of_lt' (show c.toNat % 64 + 128 < 256 by omega)
      omega

theorem forall_isHexDigit_encodeUtf8Chars_iff :
    (∀ b ∈ encodeUtf8Chars cs, b.toChar.isHexDigit = true) ↔ ∀ c ∈ cs, c.isHexDigit = true := by
  constructor
  · intro h c hc
    by_contra hnot
    obtain ⟨b, hb, hstray⟩ := exists_not_isHexDigit hnot
    exact hstray (h b (List.mem_flatMap.mpr ⟨c, hc, hb⟩))
  · intro h b hb
    obtain ⟨c, hc, hb⟩ := List.mem_flatMap.mp hb
    have hascii : c.toNat ≤ 127 := by
      have hdigit := isHexDigit_iff.mp (h c hc)
      omega
    obtain ⟨b', hbytes, hb'⟩ := exists_utf8EncodeChar_eq hascii
    rw [hbytes, List.mem_singleton] at hb
    rw [hb, hb']
    exact h c hc

/-- Of a text of digits the bytes are the characters. -/
theorem map_toChar_encodeUtf8Chars (h : ∀ c ∈ cs, c.isHexDigit = true) :
    (encodeUtf8Chars cs).map UInt8.toChar = cs := by
  induction cs with
  | nil => rfl
  | cons c cs ih =>
    obtain ⟨hdigit, hdigits⟩ := List.forall_mem_cons.mp h
    have hascii : c.toNat ≤ 127 := by
      have hcode := isHexDigit_iff.mp hdigit
      omega
    obtain ⟨b, hbytes, hb⟩ := exists_utf8EncodeChar_eq hascii
    rw [encodeUtf8Chars_cons, hbytes, List.singleton_append, List.map_cons, hb, ih hdigits]

/-- So it makes no difference whether bytes or characters are put into lower case. -/
theorem map_toLower_encodeUtf8Chars_iff :
    (encodeUtf8Chars cs).map (·.toChar.toLower) = hexOfBytes bytes ↔
      cs.map Char.toLower = hexOfBytes bytes := by
  have hsame : (∀ c ∈ cs, c.isHexDigit = true) →
      (encodeUtf8Chars cs).map (·.toChar.toLower) = cs.map Char.toLower := by
    intro h
    have hmap := congrArg (List.map Char.toLower) (map_toChar_encodeUtf8Chars h)
    rwa [List.map_map] at hmap
  constructor
  · intro h
    have hdigits : ∀ b ∈ encodeUtf8Chars cs, b.toChar.isHexDigit = true := by
      intro b hb
      have hlower : b.toChar.toLower ∈ hexOfBytes bytes := h ▸ List.mem_map_of_mem hb
      exact isHexDigit_of_toLower_mem hlower
    rw [← hsame (forall_isHexDigit_encodeUtf8Chars_iff.mp hdigits), h]
  · intro h
    have hdigits : ∀ c ∈ cs, c.isHexDigit = true := by
      intro c hc
      have hlower : c.toLower ∈ hexOfBytes bytes := h ▸ List.mem_map_of_mem hc
      exact isHexDigit_of_toLower_mem hlower
    rw [hsame hdigits, h]

end Encoded

end ChainWatch
