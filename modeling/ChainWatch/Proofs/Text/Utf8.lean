import ChainWatch.Text.Utf8

/-!
# UTF-8 reads back

The bytes of a text are read as the text (`decodeUtf8_encodeUtf8`, `decodeUtf8Lossy_encodeUtf8`).
The machine is followed through the bytes of one character: the first byte opens a sequence of as
many bytes as there are, and each that follows lies in its range and adds six bits. The ranges that
are restricted after some first bytes exclude just what no character needs: longer forms of smaller
numbers, the surrogates, and what lies beyond the code space.
-/

namespace ChainWatch

/-! ### First bytes -/

section Lead

variable {b : UInt8} {n : Nat}

/-- A byte below `0x80` is a character by itself. -/
theorem utf8Lead_one (h : b.toNat = n) (hn : n < 0x80) : utf8Lead b = .char (Char.ofNat n) := by
  unfold utf8Lead
  rw [h]
  exact if_pos hn

/-- A byte from `0xC2` on opens a sequence of two. -/
theorem utf8Lead_two (h : b.toNat = n + 0xC0) (hlow : 2 ≤ n) (hhigh : n < 32) :
    utf8Lead b = .opens ⟨n, [utf8Tail], 1⟩ := by
  unfold utf8Lead
  dsimp only
  rw [h, if_neg (by omega), if_neg (by omega), if_pos (by omega), Nat.add_sub_cancel]

/-- The range of the second byte of three. -/
def secondOfThree (n : Nat) : UInt8 × UInt8 :=
  if n = 0 then (0xA0, 0xBF) else if n = 0x0D then (0x80, 0x9F) else utf8Tail

/-- A byte from `0xE0` on opens a sequence of three. -/
theorem utf8Lead_three (h : b.toNat = n + 0xE0) (hhigh : n < 16) :
    utf8Lead b = .opens ⟨n, [secondOfThree n, utf8Tail], 1⟩ := by
  unfold utf8Lead secondOfThree
  dsimp only
  rw [h, if_neg (by omega), if_neg (by omega), if_neg (by omega)]
  -- two of the sixteen first bytes restrict the byte after them
  by_cases hzero : n = 0
  · subst hzero
    rfl
  · by_cases hsurrogate : n = 0x0D
    · subst hsurrogate
      rfl
    · rw [if_neg (by omega), if_neg (by omega), if_pos (by omega), if_neg hzero,
        if_neg hsurrogate, Nat.add_sub_cancel]

/-- The range of the second byte of four. -/
def secondOfFour (n : Nat) : UInt8 × UInt8 :=
  if n = 0 then (0x90, 0xBF) else if n = 4 then (0x80, 0x8F) else utf8Tail

/-- A byte from `0xF0` to `0xF4` opens a sequence of four. -/
theorem utf8Lead_four (h : b.toNat = n + 0xF0) (hhigh : n < 5) :
    utf8Lead b = .opens ⟨n, [secondOfFour n, utf8Tail, utf8Tail], 1⟩ := by
  unfold utf8Lead secondOfFour
  dsimp only
  rw [h, if_neg (by omega), if_neg (by omega), if_neg (by omega), if_neg (by omega),
    if_neg (by omega), if_neg (by omega)]
  -- and of these, the first and the last
  by_cases hzero : n = 0
  · subst hzero
    rfl
  · by_cases hlast : n = 4
    · subst hlast
      rfl
    · rw [if_neg (by omega), if_pos (by omega), if_neg hzero, if_neg hlast, Nat.add_sub_cancel]

end Lead

/-! ### Bytes that follow -/

/-- A byte lies in a range. -/
def InRange (range : UInt8 × UInt8) (n : Nat) : Prop := range.1.toNat ≤ n ∧ n ≤ range.2.toNat

section Step

variable {b : UInt8} {bits width m : Nat} {range : UInt8 × UInt8}

/-- The last byte of a sequence completes the character. -/
theorem step_last (h : b.toNat = m + 0x80) (hrange : InRange range (m + 0x80)) :
    (Utf8Partial.mk bits [range] width).step b = .char (Char.ofNat (bits * 64 + m)) := by
  -- ranges are compared as bytes, and what is known is about their numbers
  have hin : range.1 ≤ b ∧ b ≤ range.2 := by
    rw [UInt8.le_iff_toNat_le, UInt8.le_iff_toNat_le, h]
    exact hrange
  unfold Utf8Partial.step
  dsimp only
  rw [if_pos hin, h, Nat.add_sub_cancel]
  rfl

/-- A byte before the last adds six bits and leaves the rest to come. -/
theorem step_more (h : b.toNat = m + 0x80) (hrange : InRange range (m + 0x80))
    {next : UInt8 × UInt8} {awaited : List (UInt8 × UInt8)} :
    (Utf8Partial.mk bits (range :: next :: awaited) width).step b
      = .opens ⟨bits * 64 + m, next :: awaited, width + 1⟩ := by
  have hin : range.1 ≤ b ∧ b ≤ range.2 := by
    rw [UInt8.le_iff_toNat_le, UInt8.le_iff_toNat_le, h]
    exact hrange
  unfold Utf8Partial.step
  dsimp only
  rw [if_pos hin, h, Nat.add_sub_cancel]
  rfl

/-- Six bits are in range where nothing is restricted. -/
theorem inRange_tail {n : Nat} (h : n < 64) : InRange utf8Tail (n + 0x80) :=
  ⟨by show 0x80 ≤ n + 0x80; omega, by show n + 0x80 ≤ 0xBF; omega⟩

end Step

/-! ### One character -/

section Sequences

variable {a b c d : UInt8} {n m k l : Nat} (offset : Nat) (bs : List UInt8)

theorem readUtf8From_one (ha : a.toNat = n) (hn : n < 0x80) :
    readUtf8From offset none (a :: bs)
      = .ok (Char.ofNat n) :: readUtf8From (offset + 1) none bs := by
  rw [readUtf8From, utf8Lead_one ha hn]

theorem readUtf8From_two (ha : a.toNat = n + 0xC0) (hn : 2 ≤ n ∧ n < 32) (hb : b.toNat = m + 0x80)
    (hm : m < 64) : readUtf8From offset none (a :: b :: bs)
      = .ok (Char.ofNat (n * 64 + m)) :: readUtf8From (offset + 2) none bs := by
  rw [readUtf8From, utf8Lead_two ha hn.1 hn.2]
  dsimp only
  rw [readUtf8From, step_last hb (inRange_tail hm)]

theorem readUtf8From_three (ha : a.toNat = n + 0xE0) (hn : n < 16) (hb : b.toNat = m + 0x80)
    (hm : InRange (secondOfThree n) (m + 0x80)) (hc : c.toNat = k + 0x80) (hk : k < 64) :
    readUtf8From offset none (a :: b :: c :: bs)
      = .ok (Char.ofNat ((n * 64 + m) * 64 + k)) :: readUtf8From (offset + 3) none bs := by
  rw [readUtf8From, utf8Lead_three ha hn]
  dsimp only
  -- the second byte leaves one byte to come
  rw [readUtf8From, step_more hb hm]
  dsimp only
  rw [readUtf8From, step_last hc (inRange_tail hk)]

theorem readUtf8From_four (ha : a.toNat = n + 0xF0) (hn : n < 5) (hb : b.toNat = m + 0x80)
    (hm : InRange (secondOfFour n) (m + 0x80)) (hc : c.toNat = k + 0x80) (hk : k < 64)
    (hd : d.toNat = l + 0x80) (hl : l < 64) :
    readUtf8From offset none (a :: b :: c :: d :: bs)
      = .ok (Char.ofNat (((n * 64 + m) * 64 + k) * 64 + l))
        :: readUtf8From (offset + 4) none bs := by
  rw [readUtf8From, utf8Lead_four ha hn]
  dsimp only
  rw [readUtf8From, step_more hb hm]
  dsimp only
  -- only the second byte is restricted, and two are left after it
  rw [readUtf8From, step_more hc (inRange_tail hk)]
  dsimp only
  rw [readUtf8From, step_last hd (inRange_tail hl)]

end Sequences

/-- The second byte of three is in range: the number is not below `2 ^ 11` and no surrogate. -/
theorem inRange_secondOfThree {v : Nat} (hlow : 2047 < v) (hhigh : v ≤ 65535)
    (hscalar : v < 0xD800 ∨ 0xDFFF < v) :
    InRange (secondOfThree (v / 4096 % 16)) (v / 64 % 64 + 128) := by
  unfold secondOfThree
  -- the first six bits are zero, or those of the surrogates, or neither
  split
  · exact ⟨by show 0xA0 ≤ _; omega, by show _ ≤ 0xBF; omega⟩
  · split
    · exact ⟨by show 0x80 ≤ _; omega, by show _ ≤ 0x9F; omega⟩
    · exact inRange_tail (by omega)

/-- So is that of four: the number is not below `2 ^ 16` and within the code space. -/
theorem inRange_secondOfFour {v : Nat} (hlow : 65535 < v) (hhigh : v < 0x110000) :
    InRange (secondOfFour (v / 262144 % 8)) (v / 4096 % 64 + 128) := by
  unfold secondOfFour
  split
  · exact ⟨by show 0x90 ≤ _; omega, by show _ ≤ 0xBF; omega⟩
  · split
    · exact ⟨by show 0x80 ≤ _; omega, by show _ ≤ 0x8F; omega⟩
    · exact inRange_tail (by omega)

/-- **The bytes of one character.** -/
theorem readUtf8From_char (offset : Nat) (c : Char) (bs : List UInt8) :
    ∃ width, readUtf8From offset none (String.utf8EncodeChar c ++ bs)
      = .ok c :: readUtf8From (offset + width) none bs := by
  -- the number of a character is that of a scalar value
  have hscalar : c.toNat < 0xD800 ∨ 0xDFFF < c.toNat ∧ c.toNat < 0x110000 := c.valid
  have hc : Char.ofNat c.toNat = c := Char.ofNat_toNat c
  have hval : c.val.toNat = c.toNat := rfl
  have hbyte {n : Nat} (h : n < 256) : (UInt8.ofNat n).toNat = n := UInt8.toNat_ofNat_of_lt' h
  unfold String.utf8EncodeChar
  dsimp only
  rw [hval]
  generalize c.toNat = v at hscalar hc
  split
  · refine ⟨1, (readUtf8From_one offset bs (hbyte (by omega)) (by omega)).trans ?_⟩
    rw [hc]
  · split
    · refine ⟨2, (readUtf8From_two offset bs (hbyte (by omega)) ⟨by omega, by omega⟩
        (hbyte (by omega)) (by omega)).trans ?_⟩
      -- the bits that were taken apart are put together again
      rw [show v / 64 % 32 * 64 + v % 64 = v by omega, hc]
    · split
      · refine ⟨3, (readUtf8From_three offset bs (hbyte (by omega)) (by omega) (hbyte (by omega))
          (inRange_secondOfThree (by omega) (by omega) (by omega)) (hbyte (by omega))
          (by omega)).trans ?_⟩
        rw [show (v / 4096 % 16 * 64 + v / 64 % 64) * 64 + v % 64 = v by omega, hc]
      · refine ⟨4, (readUtf8From_four offset bs (hbyte (by omega)) (by omega) (hbyte (by omega))
          (inRange_secondOfFour (by omega) (by omega)) (hbyte (by omega)) (by omega)
          (hbyte (by omega)) (by omega)).trans ?_⟩
        rw [show ((v / 262144 % 8 * 64 + v / 4096 % 64) * 64 + v / 64 % 64) * 64 + v % 64 = v
          by omega, hc]

/-! ### Texts -/

/-- One character after the other is read, from any offset. -/
theorem readUtf8From_encodeUtf8Chars (offset : Nat) (cs : List Char) :
    readUtf8From offset none (encodeUtf8Chars cs) = cs.map .ok := by
  induction cs generalizing offset with
  | nil => rfl
  | cons c cs ih =>
    obtain ⟨width, hread⟩ := readUtf8From_char offset c (encodeUtf8Chars cs)
    rw [encodeUtf8Chars_cons, hread, ih]
    rfl

theorem readUtf8_encodeUtf8 (s : String) : readUtf8 (encodeUtf8 s) = s.toList.map .ok :=
  readUtf8From_encodeUtf8Chars 0 s.toList

/-- The bytes of a text read back. -/
theorem decodeUtf8_encodeUtf8 (s : String) : decodeUtf8 (encodeUtf8 s) = .ok s := by
  -- nothing is at fault, so all of it is read
  have hall (cs : List Char) :
      (cs.map (Except.ok (ε := Utf8Fault))).mapM id = .ok cs := by
    induction cs with
    | nil => rfl
    | cons c cs ih =>
      rw [List.map_cons, List.mapM_cons, ih]
      rfl
  rw [decodeUtf8, readUtf8_encodeUtf8, hall]
  exact congrArg Except.ok String.ofList_toList

/-- No character of them is replaced. -/
theorem decodeUtf8Lossy_encodeUtf8 (s : String) : decodeUtf8Lossy (encodeUtf8 s) = s := by
  rw [decodeUtf8Lossy, readUtf8_encodeUtf8, List.map_map]
  exact (congrArg String.ofList (List.map_id _)).trans String.ofList_toList

/-- A text has at least as many bytes as characters. -/
theorem length_le_encodeUtf8Chars (cs : List Char) : cs.length ≤ (encodeUtf8Chars cs).length := by
  induction cs with
  | nil => exact Nat.zero_le _
  | cons c cs ih =>
    -- every character has a byte
    have hpos := c.utf8Size_pos
    rw [encodeUtf8Chars_cons, List.length_append, String.length_utf8EncodeChar, List.length_cons]
    omega

end ChainWatch
