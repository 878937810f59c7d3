import ChainWatch.CorrelationId
import ChainWatch.Proofs.Text.Hex

/-!
# The text form of correlation ids

An id is read from a text exactly if the text in lower case is how the id is written
(`CorrelationId.parse_eq_ok_iff`). From this one equivalence follow both directions of the text
form: what is written is read back, since it is in lower case already, and what was read is written
as the text it was read from, but for the case of its letters.

A text that is no id is refused for one of three reasons, of which an earlier one hides a later one.
`CorrelationIdFault.IsToldOf` says for every reason which texts it is given for, and
`CorrelationId.parse_eq_error_iff` that it is given for no others.
-/

namespace ChainWatch

/-- A fault is told of the texts of odd length, of those of even length that hold something else
than digits, or of those of even length that hold digits for another number of bytes. -/
def CorrelationIdFault.IsToldOf (s : String) : CorrelationIdFault → Prop
  | .hex .oddLength => s.utf8ByteSize % 2 = 1
  | .hex (.badDigit byte position) =>
    s.utf8ByteSize % 2 = 0 ∧ FirstStray (encodeUtf8 s) byte position
  | .length actual =>
    s.utf8ByteSize % 2 = 0 ∧ (∀ b ∈ encodeUtf8 s, b.toChar.isHexDigit = true) ∧
      actual = s.utf8ByteSize / 2 ∧ actual ≠ 16

namespace CorrelationId

variable {s : String} {id : CorrelationId} {bytes : List UInt8} {fault : CorrelationIdFault}

/-- Sixteen bytes are the bytes of one id. -/
theorem ofBytes?_eq_some_iff : ofBytes? bytes = some id ↔ bytes = id.bytes := by
  obtain ⟨bytes', hlength⟩ := id
  unfold ofBytes?
  split
  · simp
  · next hother =>
    refine ⟨nofun, ?_⟩
    rintro rfl
    exact absurd hlength hother

/-- Any other number of bytes is none of an id. -/
theorem ofBytes?_eq_none_iff : ofBytes? bytes = none ↔ bytes.length ≠ 16 := by
  unfold ofBytes?
  split <;> simp [*]

/-! ### Reading -/

theorem parse_eq_ok_iff_bytes :
    parse s = .ok id ↔ bytesOfHex (encodeUtf8 s) = .ok id.bytes := by
  unfold parse
  cases bytesOfHex (encodeUtf8 s) with
  | error fault => simp
  | ok bytes =>
    -- the digits are right, and what is left is the number of the bytes
    rw [Except.ok.injEq, ← ofBytes?_eq_some_iff]
    dsimp only
    cases ofBytes? bytes <;> simp

theorem toList_toLower (s : String) : s.toLower.toList = s.toList.map Char.toLower :=
  String.toList_map

/-- An id is read from a text that is written for it in lower case. -/
theorem parse_eq_ok_iff : parse s = .ok id ↔ s.toLower = id.text := by
  -- from the bytes to their digits, and from these to the text
  rw [parse_eq_ok_iff_bytes, bytesOfHex_eq_ok_iff, encodeUtf8, map_toLower_encodeUtf8Chars_iff,
    ← String.toList_inj, toList_toLower, text, String.toList_ofList, digits]

/-- The digits are looked at first. -/
theorem parse_eq_hex_iff {fault : HexFault} :
    parse s = .error (.hex fault) ↔ bytesOfHex (encodeUtf8 s) = .error fault := by
  unfold parse
  cases bytesOfHex (encodeUtf8 s) with
  | error fault => simp
  | ok bytes =>
    dsimp only
    cases ofBytes? bytes <;> simp

/-- The number of bytes is looked at only if all are digits. -/
theorem parse_eq_length_iff {actual : Nat} :
    parse s = .error (.length actual) ↔
      ∃ bytes, bytesOfHex (encodeUtf8 s) = .ok bytes ∧ actual = bytes.length ∧ actual ≠ 16 := by
  unfold parse
  cases bytesOfHex (encodeUtf8 s) with
  | error fault => simp
  | ok bytes =>
    dsimp only
    cases h : ofBytes? bytes with
    | none =>
      rw [ofBytes?_eq_none_iff] at h
      simp only [Except.error.injEq, CorrelationIdFault.length.injEq, Except.ok.injEq,
        exists_eq_left']
      constructor
      · rintro rfl
        exact ⟨rfl, h⟩
      · rintro ⟨rfl, -⟩
        rfl
    | some id =>
      -- there are sixteen bytes, so none of another number
      have hlength := id.length_bytes
      rw [← ofBytes?_eq_some_iff.mp h] at hlength
      simp [hlength]

/-- Every fault is told of the texts that it is about, and of no others. -/
theorem parse_eq_error_iff : parse s = .error fault ↔ fault.IsToldOf s := by
  cases fault with
  | hex fault =>
    rw [parse_eq_hex_iff, bytesOfHex_eq_error_iff, length_encodeUtf8]
    cases fault with
    | oddLength => simp [CorrelationIdFault.IsToldOf]
    | badDigit byte position => simp [CorrelationIdFault.IsToldOf]
  | length actual =>
    rw [parse_eq_length_iff, CorrelationIdFault.IsToldOf, ← length_encodeUtf8, ← and_assoc,
      ← exists_bytesOfHex_iff]
    constructor
    · rintro ⟨bytes, hbytes, rfl, hother⟩
      have hlength := length_of_bytesOfHex hbytes
      exact ⟨⟨bytes, hbytes⟩, by omega, hother⟩
    · rintro ⟨⟨bytes, hbytes⟩, rfl, hother⟩
      have hlength := length_of_bytesOfHex hbytes
      exact ⟨bytes, hbytes, by omega, hother⟩

/-! ### Writing -/

theorem toLower_text (id : CorrelationId) : id.text.toLower = id.text := by
  rw [← String.toList_inj, toList_toLower, text, String.toList_ofList]
  exact (List.map_congr_left fun c hc => toLower_of_mem_hexOfBytes hc).trans (List.map_id _)

/-- The text of an id reads back. -/
theorem parse_text (id : CorrelationId) : parse id.text = .ok id :=
  parse_eq_ok_iff.mpr id.toLower_text

/-- A text is read if it consists of thirty-two hexadecimal digits. -/
theorem exists_parse_iff :
    (∃ id, parse s = .ok id) ↔ s.length = 32 ∧ ∀ c ∈ s.toList, c.isHexDigit = true := by
  constructor
  · rintro ⟨id, h⟩
    -- in lower case it is the text of an id, which has thirty-two digits
    have htext : s.toList.map Char.toLower = hexOfBytes id.bytes := by
      rw [← toList_toLower, parse_eq_ok_iff.mp h, text, String.toList_ofList, digits]
    refine ⟨?_, fun c hc => ?_⟩
    · have hlength := congrArg List.length htext
      rwa [List.length_map, length_hexOfBytes, id.length_bytes, String.length_toList] at hlength
    · have hlower : c.toLower ∈ hexOfBytes id.bytes := htext ▸ List.mem_map_of_mem hc
      exact isHexDigit_of_toLower_mem hlower
  · rintro ⟨hlength, hdigits⟩
    -- a byte for each character, and half as many are read
    have hsize : (encodeUtf8 s).length = 32 := by
      have hmap := congrArg List.length (map_toChar_encodeUtf8Chars hdigits)
      rwa [List.length_map, String.length_toList, hlength] at hmap
    obtain ⟨bytes, hbytes⟩ : ∃ bytes, bytesOfHex (encodeUtf8 s) = .ok bytes :=
      exists_bytesOfHex_iff.mpr
        ⟨by rw [hsize], forall_isHexDigit_encodeUtf8Chars_iff.mpr hdigits⟩
    have hhalf := length_of_bytesOfHex hbytes
    exact ⟨⟨bytes, by omega⟩, parse_eq_ok_iff_bytes.mpr hbytes⟩

/-- **The text form of ids.** A text is read exactly if it consists of thirty-two hexadecimal digits
of either case; it is then read as the id that is written as the text in lower case, and as no
other. What is written for an id is read as this id. A text that is not read is refused for its odd
length, or else for its first byte that is no digit, or else for the number of its bytes. And ids
are in the order of their texts. -/
theorem text_form :
    (∀ s, (∃ id, parse s = .ok id) ↔ s.length = 32 ∧ ∀ c ∈ s.toList, c.isHexDigit = true) ∧
    (∀ s id, parse s = .ok id ↔ id.text = s.toLower) ∧
    (∀ id, parse id.text = .ok id) ∧
    (∀ s fault, parse s = .error fault ↔ fault.IsToldOf s) ∧
    ∀ a b : CorrelationId, a < b ↔ a.text < b.text := by
  refine ⟨fun s => exists_parse_iff, fun s id => parse_eq_ok_iff.trans eq_comm, parse_text,
    fun s fault => parse_eq_error_iff, fun a b => ?_⟩
  change _ ↔ a.text.toList < b.text.toList
  rw [text, text, String.toList_ofList, String.toList_ofList]
  exact hexOfBytes_lt_iff.symm

end CorrelationId

end ChainWatch
