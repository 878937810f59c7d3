import ChainWatch.Json.Value

/-!
# Texts in texts

Free-form data may hold the text of other data (`embeddedName`), and this text may hold texts again.
The reader is told how many of them it may open in one another (`Value.readWithin?`). The number is
of no account. Every string in the tree of a text is shorter than the text
(`Tree.length_lt_of_mem_texts`), so there are never more texts in one another than the number
allows, and reading obeys the rule that one would write down for it (`Value.read?_eq`).

That strings are shorter is a matter of the readers, from the smallest to the largest: each leaves
no more symbols than it was given (`Shortens`), and a string has lost its quotes. Of a reader of
trees both are said together (`Fits`), since what it reads first takes room from what it reads next.

A tree in which no object begins with a text is plain (`Tree.isPlain`). Whoever reads it has no text
to open.
-/

namespace ChainWatch.Json

variable {cs r : List Symbol}

/-! ### What is left of a text -/

/-- A reader leaves no more symbols than it was given. -/
def Shortens {α : Type} (read : List Symbol → Option (α × List Symbol)) : Prop :=
  ∀ {cs : List Symbol} {a : α} {r : List Symbol}, read cs = some (a, r) → r.length ≤ cs.length

/-- Skipping blanks leaves no more than there was. -/
theorem length_skipSpace_le (cs : List Symbol) : (skipSpace cs).length ≤ cs.length :=
  (List.dropWhile_sublist isSpace).length_le

/-- What comes after the first symbol that is not blank is less than all. -/
theorem length_lt_of_skipSpace {c : Symbol} (h : skipSpace cs = c :: r) : r.length < cs.length := by
  have hle := length_skipSpace_le cs
  rw [h, List.length_cons] at hle
  exact hle

/-- What comes after the first symbols that are not blank is no more than all. -/
theorem length_le_of_skipSpace (front : List Symbol) (h : skipSpace cs = front ++ r) :
    r.length ≤ cs.length := by
  have hle := length_skipSpace_le cs
  rw [h, List.length_append] at hle
  omega

/-- One more piece takes one symbol or more. -/
theorem length_of_pieces_cons {p : Piece} {ps : List Piece} {rest : List Symbol}
    (ih : ∀ {ps : List Piece} {r : List Symbol}, pieces rest = some (ps, r) →
      ps.length + r.length < rest.length)
    (h : ((pieces rest).bind fun (ps, rest) => some (p :: ps, rest)) = some (ps, r)) :
    ps.length + r.length < rest.length + 1 := by
  obtain ⟨⟨ps', r'⟩, hrest, heq⟩ := Option.bind_eq_some_iff.mp h
  cases heq
  have hlt := ih hrest
  rw [List.length_cons]
  omega

/-- There are fewer pieces than symbols, since the closing quote is none. -/
theorem length_of_pieces {ps : List Piece} (h : pieces cs = some (ps, r)) :
    ps.length + r.length < cs.length := by
  fun_induction pieces cs generalizing ps r with
  | case1 => cases h
  | case2 rest ih => exact length_of_pieces_cons ih h
  | case3 rest =>
    cases h
    exact Nat.lt_succ_of_le (Nat.le_of_eq (Nat.zero_add _))
  -- an escaped code unit takes six symbols and is one piece
  | case4 a b c d rest ih =>
    obtain ⟨unit, -, h⟩ := Option.bind_eq_some_iff.mp h
    have hlt := length_of_pieces_cons ih h
    simp only [List.length_cons]
    omega
  | case5 c rest _ ih =>
    obtain ⟨letter, -, h⟩ := Option.bind_eq_some_iff.mp h
    have hlt := length_of_pieces_cons ih h
    simp only [List.length_cons]
    omega
  | case6 => cases h
  | case7 c rest _ _ _ _ ih => exact length_of_pieces_cons ih h

/-- A string has no more characters than pieces. -/
theorem length_joinPieces_le {ps : List Piece} {cs : List Char} (h : joinPieces ps = some cs) :
    cs.length ≤ ps.length := by
  fun_induction joinPieces ps generalizing cs with
  | case1 =>
    cases h
    exact Nat.le_refl 0
  | case2 c ps ih =>
    obtain ⟨cs', hcs, rfl⟩ := Option.map_eq_some_iff.mp h
    exact Nat.succ_le_succ (ih hcs)
  -- two surrogates are one character
  | case3 high low ps _ ih =>
    obtain ⟨cs', hcs, rfl⟩ := Option.map_eq_some_iff.mp h
    exact Nat.le_succ_of_le (Nat.succ_le_succ (ih hcs))
  | case4 => cases h
  | case5 => cases h
  | case6 => cases h

/-- Some strings were read off some symbols and are shorter than these, and what is left is not
longer. -/
structure Fits (cs : List Symbol) (texts : List String) (r : List Symbol) : Prop where
  length_le : r.length ≤ cs.length
  length_lt : ∀ s ∈ texts, s.length < cs.length

namespace Fits

variable {cs' rest : List Symbol} {texts texts' : List String}

/-- Nothing may have been read but a few symbols. -/
theorem nothing (h : r.length ≤ cs.length) : Fits cs [] r := ⟨h, nofun⟩

/-- There may have been more in front, which was no string. -/
theorem of_le (h : Fits cs texts r) (hle : cs.length ≤ cs'.length) : Fits cs' texts r :=
  ⟨Nat.le_trans h.length_le hle, fun s hs => Nat.lt_of_lt_of_le (h.length_lt s hs) hle⟩

/-- More may be read off what was left. -/
theorem append (h : Fits cs texts rest) (hmore : Fits cs' texts' r)
    (hle : cs'.length ≤ rest.length) : Fits cs (texts ++ texts') r where
  length_le := Nat.le_trans hmore.length_le (Nat.le_trans hle h.length_le)
  length_lt := by
    intro s hs
    rcases List.mem_append.mp hs with hs | hs
    · exact h.length_lt s hs
    · exact (hmore.of_le (Nat.le_trans hle h.length_le)).length_lt s hs

end Fits

/-- A string is shorter than what it was read off. -/
theorem fits_stringBody {o : Option String} (h : stringBody cs = some (o, r)) :
    Fits cs o.toList r := by
  obtain ⟨⟨ps, rest⟩, hpieces, heq⟩ := Option.bind_eq_some_iff.mp h
  cases heq
  -- fewer pieces than symbols, and no more characters than pieces
  have hlt := length_of_pieces hpieces
  refine ⟨by omega, fun s hs => ?_⟩
  obtain ⟨chars, hchars, rfl⟩ := Option.map_eq_some_iff.mp (Option.mem_toList.mp hs)
  have hle := length_joinPieces_le hchars
  rw [String.length_ofList]
  omega

/-- Digits leave no more than there was. -/
theorem length_digits_le (cs : List Symbol) : (digits cs).2.length ≤ cs.length := by
  fun_induction digits cs with
  | case1 => exact Nat.le_refl 0
  | case2 c cs d _ ds rest heq ih =>
    rw [heq] at ih
    exact Nat.le_succ_of_le ih
  | case3 => exact Nat.le_refl _

/-- It makes no difference that there must be a digit. -/
theorem shortens_someDigits : Shortens someDigits := by
  intro cs ds r h
  have hle := length_digits_le cs
  unfold someDigits at h
  dsimp only at h
  split at h
  · cases h
  · cases h
    exact hle

/-- Nor that no zero may lead. -/
theorem shortens_wholePart : Shortens wholePart := by
  intro cs ds r h
  obtain ⟨⟨ds', r'⟩, hdigits, h⟩ := Option.bind_eq_some_iff.mp h
  dsimp only at h
  split at h
  · cases h
  · cases h
    exact shortens_someDigits hdigits

/-- The point of a fraction is gone as well, and without one nothing is read. -/
theorem shortens_fractionPart : Shortens fractionPart := by
  intro cs ds r h
  unfold fractionPart at h
  split at h
  · obtain ⟨⟨ds', r'⟩, hdigits, h⟩ := Option.bind_eq_some_iff.mp h
    cases h
    exact Nat.le_succ_of_le (shortens_someDigits hdigits)
  · cases h
    exact Nat.le_refl _

/-- So is the sign of an exponent. -/
theorem shortens_exponentBody : Shortens exponentBody := by
  intro cs e r h
  unfold exponentBody at h
  split at h <;> obtain ⟨⟨ds, r'⟩, hdigits, heq⟩ := Option.map_eq_some_iff.mp h <;> cases heq
  · exact Nat.le_succ_of_le (shortens_someDigits hdigits)
  · exact Nat.le_succ_of_le (shortens_someDigits hdigits)
  · exact shortens_someDigits hdigits

/-- And its mark. -/
theorem shortens_exponentPart : Shortens exponentPart := by
  intro cs e r h
  unfold exponentPart at h
  split at h
  · obtain ⟨⟨e', r'⟩, hbody, heq⟩ := Option.map_eq_some_iff.mp h
    cases heq
    exact Nat.le_succ_of_le (shortens_exponentBody hbody)
  · obtain ⟨⟨e', r'⟩, hbody, heq⟩ := Option.map_eq_some_iff.mp h
    cases heq
    exact Nat.le_succ_of_le (shortens_exponentBody hbody)
  · cases h
    exact Nat.le_refl _

/-- The three parts of a numeral leave less and less. -/
theorem shortens_unsignedNumeral (minus : Bool) : Shortens (unsignedNumeral minus) := by
  intro cs n r h
  obtain ⟨⟨whole, cs₁⟩, hwhole, h⟩ := Option.bind_eq_some_iff.mp h
  obtain ⟨⟨fraction, cs₂⟩, hfraction, h⟩ := Option.bind_eq_some_iff.mp h
  obtain ⟨⟨exponent, cs₃⟩, hexponent, h⟩ := Option.bind_eq_some_iff.mp h
  cases h
  calc
    r.length ≤ cs₂.length := shortens_exponentPart hexponent
    _ ≤ cs₁.length := shortens_fractionPart hfraction
    _ ≤ cs.length := shortens_wholePart hwhole

/-- A numeral leaves no more than there was, with its sign or without one. -/
theorem shortens_numeral : Shortens numeral := by
  intro cs n r h
  unfold numeral at h
  split at h
  · exact Nat.le_succ_of_le (shortens_unsignedNumeral true h)
  · exact shortens_unsignedNumeral false h

/-! ### The strings of a tree -/

namespace Tree

mutual

/-- The strings in a tree, apart from the names. -/
def texts : Tree → List String
  | .string s => s.toList
  | .array ts => textsOfItems ts
  | .object ms => textsOfMembers ms
  | _ => []

/-- The strings in the items of an array. -/
def textsOfItems : List Tree → List String
  | [] => []
  | t :: ts => texts t ++ textsOfItems ts

/-- The strings in the members of an object. -/
def textsOfMembers : List (Option String × Tree) → List String
  | [] => []
  | (_, t) :: ms => texts t ++ textsOfMembers ms

end

end Tree

mutual

/-- What is read off a text holds shorter strings only. -/
theorem fits_value : ∀ {fuel : Nat} {cs : List Symbol} {t : Tree} {r : List Symbol},
    value fuel cs = some (t, r) → Fits cs t.texts r
  | fuel + 1, cs, t, r, h => by
    rw [value] at h
    split at h
    -- the three words hold no string
    · next heq =>
      cases h
      exact .nothing (length_le_of_skipSpace [some 'n', some 'u', some 'l', some 'l'] heq)
    · next heq =>
      cases h
      exact .nothing (length_le_of_skipSpace [some 't', some 'r', some 'u', some 'e'] heq)
    · next heq =>
      cases h
      exact .nothing (length_le_of_skipSpace [some 'f', some 'a', some 'l', some 's', some 'e'] heq)
    -- a string is the one tree that is a text itself
    · next rest heq =>
      have hrest := length_lt_of_skipSpace heq
      obtain ⟨⟨o, r'⟩, hstring, heq⟩ := Option.map_eq_some_iff.mp h
      cases heq
      exact (fits_stringBody hstring).of_le (Nat.le_of_lt hrest)
    -- brackets may close at once, and else they hold what is read behind them
    · next rest heq =>
      have hrest := length_lt_of_skipSpace heq
      split at h
      · next heq =>
        cases h
        have hclose := length_lt_of_skipSpace heq
        exact .nothing (by omega)
      · have hle := length_skipSpace_le rest
        obtain ⟨⟨ts, r'⟩, hitems, heq⟩ := Option.map_eq_some_iff.mp h
        cases heq
        exact (fits_items hitems).of_le (by omega)
    · next rest heq =>
      have hrest := length_lt_of_skipSpace heq
      split at h
      · next heq =>
        cases h
        have hclose := length_lt_of_skipSpace heq
        exact .nothing (by omega)
      · have hle := length_skipSpace_le rest
        obtain ⟨⟨ms, r'⟩, hmembers, heq⟩ := Option.map_eq_some_iff.mp h
        cases heq
        exact (fits_members hmembers).of_le (by omega)
    · obtain ⟨⟨n, r'⟩, hnumeral, heq⟩ := Option.map_eq_some_iff.mp h
      cases heq
      exact .nothing (Nat.le_trans (shortens_numeral hnumeral) (length_skipSpace_le cs))

/-- The items of an array are read off what its bracket has left, and each off what the one before
it has left. -/
theorem fits_items : ∀ {fuel : Nat} {cs : List Symbol} {ts : List Tree} {r : List Symbol},
    items fuel cs = some (ts, r) → Fits cs (Tree.textsOfItems ts) r
  | fuel + 1, cs, ts, r, h => by
    rw [items] at h
    obtain ⟨⟨t, rest⟩, hvalue, h⟩ := Option.bind_eq_some_iff.mp h
    have hfirst := fits_value hvalue
    dsimp only at h
    split at h
    · next heq =>
      have hcomma := length_lt_of_skipSpace heq
      obtain ⟨⟨ts', r'⟩, hitems, heq⟩ := Option.bind_eq_some_iff.mp h
      cases heq
      exact hfirst.append (fits_items hitems) (Nat.le_of_lt hcomma)
    · next heq =>
      cases h
      have hclose := length_lt_of_skipSpace heq
      exact hfirst.append (.nothing (Nat.le_refl _)) (Nat.le_of_lt hclose)
    · cases h

/-- A member is read off what its name and the colon have left. The names are strings too, but no
texts are in them. -/
theorem fits_members : ∀ {fuel : Nat} {cs : List Symbol} {ms : List Member} {r : List Symbol},
    members fuel cs = some (ms, r) → Fits cs (Tree.textsOfMembers ms) r
  | fuel + 1, cs, ms, r, h => by
    rw [members] at h
    split at h
    · next heq =>
      have hquote := length_lt_of_skipSpace heq
      obtain ⟨⟨name, rest⟩, hname, h⟩ := Option.bind_eq_some_iff.mp h
      have hrest := (fits_stringBody hname).length_le
      dsimp only at h
      split at h
      · next heq =>
        have hcolon := length_lt_of_skipSpace heq
        obtain ⟨⟨t, rest'⟩, hvalue, h⟩ := Option.bind_eq_some_iff.mp h
        have hfirst : Fits cs t.texts rest' := (fits_value hvalue).of_le (by omega)
        dsimp only at h
        split at h
        · next heq =>
          have hcomma := length_lt_of_skipSpace heq
          obtain ⟨⟨ms', r'⟩, hmembers, heq⟩ := Option.bind_eq_some_iff.mp h
          cases heq
          exact hfirst.append (fits_members hmembers) (Nat.le_of_lt hcomma)
        · next heq =>
          cases h
          have hclose := length_lt_of_skipSpace heq
          exact hfirst.append (.nothing (Nat.le_refl _)) (Nat.le_of_lt hclose)
        · cases h
      · cases h
    · cases h

end

namespace Tree

/-- Every string in the tree of a text is shorter than the text. -/
theorem length_lt_of_mem_texts {text s : String} {t : Tree} (h : read? text = some t)
    (hs : s ∈ t.texts) : s.length < text.length := by
  obtain ⟨⟨t', r⟩, hvalue, h⟩ := Option.bind_eq_some_iff.mp h
  dsimp only at h
  split at h
  · cases h
    have hlt := (fits_value hvalue).length_lt s hs
    rwa [List.length_map, String.length_toList] at hlt
  · cases h

end Tree

/-! ### Reading by the rule -/

/-- The text that an object holds is one of the strings in its members. -/
theorem mem_texts_of_embeddedText? {ms : List Member} {s : String}
    (h : embeddedText? ms = some s) : s ∈ Tree.textsOfMembers ms := by
  unfold embeddedText? at h
  split at h
  · next o =>
    obtain rfl : o = some s := h
    simp [Tree.textsOfMembers, Tree.texts]
  · cases h

namespace Value

variable {read read' : String → Option Value}

mutual

/-- It only matters how the strings of a tree are read. -/
theorem ofTreeWith?_congr : ∀ {t : Tree}, (∀ s ∈ t.texts, read s = read' s) →
    ofTreeWith? read t = ofTreeWith? read' t
  | .null, _ => rfl
  | .bool _, _ => rfl
  | .number _, _ => rfl
  | .string _, _ => rfl
  | .array ts, h => by
    rw [ofTreeWith?, ofTreeWith?, ofItemsWith?_congr h]
  | .object ms, h => by
    rw [ofTreeWith?, ofTreeWith?, ofMembersWith?_congr h]
    -- the text that the object begins with is in it, whether it is opened or not
    split
    · exact Option.bind_congr fun s hs => h s (mem_texts_of_embeddedText? hs)
    · rfl

/-- The same for the items of an array. -/
theorem ofItemsWith?_congr : ∀ {ts : List Tree},
    (∀ s ∈ Tree.textsOfItems ts, read s = read' s) → ofItemsWith? read ts = ofItemsWith? read' ts
  | [], _ => rfl
  | t :: ts, h => by
    rw [Tree.textsOfItems, List.forall_mem_append] at h
    rw [ofItemsWith?, ofItemsWith?, ofTreeWith?_congr h.1, ofItemsWith?_congr h.2]

/-- The same for the members of an object, whatever has been read before. -/
theorem ofMembersWith?_congr : ∀ {ms : List Member} {out : List (String × Value)},
    (∀ s ∈ Tree.textsOfMembers ms, read s = read' s) →
      ofMembersWith? read out ms = ofMembersWith? read' out ms
  | [], _, _ => rfl
  | (name, t) :: ms, out, h => by
    rw [Tree.textsOfMembers, List.forall_mem_append] at h
    rw [ofMembersWith?, ofMembersWith?, ofTreeWith?_congr h.1]
    simp only [ofMembersWith?_congr h.2]

end

/-- Any two numbers of levels do if both are greater than the length of the text. -/
theorem readWithin?_eq_of_lt : ∀ {n m : Nat} {s : String}, s.length < n → s.length < m →
    readWithin? n s = readWithin? m s
  | n + 1, m + 1, s, hn, hm => by
    rw [readWithin?, readWithin?]
    refine Option.bind_congr fun t ht => ?_
    -- what is read next is shorter, and there is one level less for it
    rw [ofTreeWith?_congr fun u hu => ?_]
    have hlt := Tree.length_lt_of_mem_texts ht hu
    exact readWithin?_eq_of_lt (by omega) (by omega)

/-- **Texts in texts are read by the rule for texts.** How many of them there may be in one another
does not show. -/
theorem read?_eq (s : String) :
    read? s = (Tree.read? s).bind fun t => if t.depth ≤ maxDepth then ofTree? t else none := by
  rw [read?, readWithin?]
  refine Option.bind_congr fun t ht => ?_
  rw [ofTree?, ofTreeWith?_congr fun u hu => ?_]
  have hlt := Tree.length_lt_of_mem_texts ht hu
  exact readWithin?_eq_of_lt hlt (Nat.lt_succ_self _)

end Value

/-! ### Plain trees -/

namespace Tree

mutual

/-- Is there no object in the tree that begins with a text? -/
def isPlain : Tree → Bool
  | .array ts => arePlainItems ts
  | .object ms => !beginsEmbedded ms && arePlainMembers ms
  | _ => true

/-- Is every item plain? -/
def arePlainItems : List Tree → Bool
  | [] => true
  | t :: ts => isPlain t && arePlainItems ts

/-- Is the value of every member plain? -/
def arePlainMembers : List (Option String × Tree) → Bool
  | [] => true
  | (_, t) :: ms => isPlain t && arePlainMembers ms

end

end Tree

end ChainWatch.Json
