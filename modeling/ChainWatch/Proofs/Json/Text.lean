import ChainWatch.Json.Printer
import ChainWatch.Json.Reader

/-!
# Written JSON reads back

The text of a tree is read as this tree (`Tree.read?_write`), if every leaf of it denotes something
and every number in it survives being written and read by itself (`Number.Survives`). Integers
always do (`Number.survives_int`); whether a double does is a matter of rounding.

A reader stops where its part of the text ends, and what follows decides whether it does. A string
ends with its quote and a bracket closes itself, but a number goes on for as long as it can. So
numbers are read together with what follows: after a comma, a bracket or the end of the text
(`Stops`) no number goes on, and its reader then does what it does on the number alone
(`KeepsRest`). The induction over trees carries this condition along; what it says of the symbols
that are left is said up to blanks (`Leaves`), which all readers skip. The symbols of a written text
are its characters, so none of them is a fault.
-/

namespace ChainWatch.Json

/-! ### Strings -/

/-- The four digits of a control read back. -/
theorem escapeUnit?_escapeDigit {n : Nat} (h : n < 0x20) :
    escapeUnit? '0' '0' (escapeDigit (n / 16)) (escapeDigit (n % 16)) = some n := by
  have hall : ∀ n : Fin 0x20,
      escapeUnit? '0' '0' (escapeDigit (n.val / 16)) (escapeDigit (n.val % 16)) = some n.val := by
    decide
  exact hall ⟨n, h⟩

/-- A control is escaped by a letter that stands for it, or by its number. -/
theorem writeChar_control {n : Nat} (h : n < 0x20) :
    (∃ d ∈ ['b', 't', 'n', 'f', 'r'], writeChar (Char.ofNat n) = ['\\', d] ∧
      letterEscape? d = some (Char.ofNat n)) ∨
    writeChar (Char.ofNat n) = ['\\', 'u', '0', '0', escapeDigit (n / 16), escapeDigit (n % 16)] := by
  -- there are thirty-two of them
  have hall : ∀ n : Fin 0x20,
      (['b', 't', 'n', 'f', 'r'].any fun d => writeChar (Char.ofNat n.val) == ['\\', d] &&
        letterEscape? d == some (Char.ofNat n.val)) = true ∨
      writeChar (Char.ofNat n.val)
        = ['\\', 'u', '0', '0', escapeDigit (n.val / 16), escapeDigit (n.val % 16)] := by
    decide
  refine (hall ⟨n, h⟩).imp_left fun hletter => ?_
  obtain ⟨d, hd, hwrite⟩ := List.any_eq_true.mp hletter
  rw [Bool.and_eq_true, beq_iff_eq, beq_iff_eq] at hwrite
  exact ⟨d, hd, hwrite⟩

/-- A letter after a backslash is one piece. -/
theorem pieces_letter {d c : Char} (h : letterEscape? d = some c) (hd : d ≠ 'u')
    (rest : List Symbol) :
    pieces (some '\\' :: some d :: rest) = (pieces rest).map fun p => (.char c :: p.1, p.2) := by
  rw [pieces]
  · simp only [h, Option.bind_eq_bind, Option.bind_some]
    cases pieces rest <;> rfl
  · intro _ _ _ _ _ _ hu
    exact hd hu

/-- A character that needs no escape is one piece. -/
theorem pieces_plain {c : Char} (hcontrol : ¬ c.toNat < 0x20) (hquote : c ≠ '"')
    (hslash : c ≠ '\\') (rest : List Symbol) :
    pieces (some c :: rest) = (pieces rest).map fun p => (.char c :: p.1, p.2) := by
  rw [pieces]
  · rw [if_neg (not_or.mpr ⟨hcontrol, hslash⟩)]
    cases pieces rest <;> rfl
  · exact hquote
  · intro _ _ _ _ _ _ heq
    exact hslash heq
  · intro _ _ _ heq
    exact hslash heq

/-- A character is written as one piece. -/
theorem pieces_writeChar (c : Char) (rest : List Symbol) :
    pieces ((writeChar c).map some ++ rest) = (pieces rest).map fun p => (.char c :: p.1, p.2) := by
  by_cases hcontrol : c.toNat < 0x20
  · have hwrite := writeChar_control hcontrol
    rw [Char.ofNat_toNat] at hwrite
    rcases hwrite with ⟨d, hd, hwrite, hletter⟩ | hwrite
    · rw [hwrite]
      refine pieces_letter hletter ?_ rest
      rintro rfl
      simp at hd
    · -- no control is half of a pair, so its number is a character
      have hunit : Piece.ofUnit c.toNat = .char c := by
        rw [Piece.ofUnit, if_neg (by omega), Char.ofNat_toNat]
      rw [hwrite]
      simp only [List.map_cons, List.map_nil, List.cons_append, List.nil_append, pieces,
        escapeUnit?_escapeDigit hcontrol, Option.bind_eq_bind, Option.bind_some, hunit]
      cases pieces rest <;> rfl
  · by_cases hquote : c = '"'
    · subst hquote
      exact pieces_letter (d := '"') rfl (by decide) rest
    · by_cases hslash : c = '\\'
      · subst hslash
        exact pieces_letter (d := '\\') rfl (by decide) rest
      · rw [writeChar, if_neg hquote, if_neg hslash, if_neg hcontrol]
        exact pieces_plain hcontrol hquote hslash rest

/-- The pieces of a written string are its characters, and reading them stops at the closing quote.
-/
theorem pieces_writeChars (cs : List Char) (rest : List Symbol) :
    pieces ((writeChars cs).map some ++ some '"' :: rest) = some (cs.map .char, rest) := by
  induction cs with
  | nil => rfl
  | cons c cs ih =>
    rw [writeChars, List.flatMap_cons, ← writeChars, List.map_append, List.append_assoc,
      pieces_writeChar, ih]
    rfl

/-- Characters need not be joined. -/
theorem joinPieces_map_char (cs : List Char) : joinPieces (cs.map .char) = some cs := by
  induction cs with
  | nil => rfl
  | cons c cs ih => rw [List.map_cons, joinPieces, ih, Option.map_some]

/-- A written string reads back, whatever follows. -/
theorem stringBody_writeChars (s : String) (rest : List Symbol) :
    stringBody ((writeChars s.toList).map some ++ some '"' :: rest) = some (some s, rest) := by
  rw [stringBody, pieces_writeChars]
  simp only [Option.bind_eq_bind, Option.bind_some, joinPieces_map_char, Option.map_some,
    String.ofList_toList]
  rfl

/-! ### Where a number ends -/

/-- No number goes on here. -/
def Stops : List Symbol → Prop
  | [] => True
  | c :: _ => c = some ',' ∨ c = some ']' ∨ c = some '}'

/-- A reader that has read its part of a text reads the same if more follows, and leaves that. -/
def KeepsRest {α : Type} (read : List Symbol → Option (α × List Symbol)) : Prop :=
  ∀ {cs rest : List Symbol} {a : α} {r : List Symbol}, Stops rest → read cs = some (a, r) →
    read (cs ++ rest) = some (a, r ++ rest)

/-- Where a number ends there is no digit. -/
theorem digitValue?_of_stops {c : Symbol} {cs : List Symbol} (h : Stops (c :: cs)) :
    digitValue? c = none := by
  rcases h with rfl | rfl | rfl <;> rfl

/-- Digits come to their end before what follows a number. -/
theorem digits_append {cs rest : List Symbol} (h : Stops rest) :
    digits (cs ++ rest) = ((digits cs).1, (digits cs).2 ++ rest) := by
  induction cs with
  | nil =>
    -- the digits have come to their end, and what follows is none
    cases rest with
    | nil => rfl
    | cons c rest =>
      have hnone : digits (c :: rest) = ([], c :: rest) := by
        rw [digits, digitValue?_of_stops h]
      exact hnone
  | cons c cs ih =>
    rw [List.cons_append, digits, digits]
    cases digitValue? c with
    | none => rfl
    | some d =>
      dsimp only
      rw [ih]

/-- Digits, of which there is one, are read the same whatever follows the number. -/
theorem keepsRest_someDigits : KeepsRest someDigits := by
  intro cs rest ds r hstops h
  unfold someDigits at h ⊢
  rw [digits_append hstops]
  dsimp only at h ⊢
  split at h
  · cases h
  · next hsome =>
    rw [if_neg hsome]
    cases h
    rfl

/-- So is the whole part: whether a zero leads it is seen from its digits. -/
theorem keepsRest_wholePart : KeepsRest wholePart := by
  intro cs rest ds r hstops h
  unfold wholePart at h ⊢
  obtain ⟨⟨ds', r'⟩, hdigits, h⟩ := Option.bind_eq_some_iff.mp h
  rw [keepsRest_someDigits hstops hdigits]
  dsimp only [Option.bind_eq_bind, Option.bind_some] at h ⊢
  split at h
  · cases h
  · next hlead =>
    rw [if_neg hlead]
    cases h
    rfl

/-- Without a point there is no fraction. -/
theorem fractionPart_of_ne {c : Symbol} (h : c ≠ some '.') (cs : List Symbol) :
    fractionPart (c :: cs) = some (none, c :: cs) := by
  unfold fractionPart
  split
  · next heq => exact absurd (List.cons.inj heq).1 h
  · rfl

/-- What follows a number is no point, so a number without a fraction gets none. -/
theorem keepsRest_fractionPart : KeepsRest fractionPart := by
  intro cs rest ds r hstops h
  cases cs with
  | nil =>
    cases h
    cases rest with
    | nil => rfl
    | cons c rest =>
      -- a comma or a bracket
      refine fractionPart_of_ne ?_ rest
      rcases hstops with rfl | rfl | rfl <;> decide
  | cons c cs =>
    rw [List.cons_append]
    by_cases hpoint : c = some '.'
    · subst hpoint
      obtain ⟨⟨ds', r'⟩, hdigits, h⟩ := Option.bind_eq_some_iff.mp h
      cases h
      rw [fractionPart, keepsRest_someDigits hstops hdigits]
      rfl
    · rw [fractionPart_of_ne hpoint] at h ⊢
      cases h
      rfl

/-- Without a sign an exponent is positive. -/
theorem exponentBody_of_ne {c : Symbol} (hminus : c ≠ some '-') (hplus : c ≠ some '+')
    (cs : List Symbol) :
    exponentBody (c :: cs) = (someDigits (c :: cs)).map fun (ds, rest) => ((false, ds), rest) := by
  unfold exponentBody
  split
  · next heq => exact absurd (List.cons.inj heq).1 hminus
  · next heq => exact absurd (List.cons.inj heq).1 hplus
  · rfl

/-- An exponent has digits of its own, so its sign is not looked for in what follows. -/
theorem keepsRest_exponentBody : KeepsRest exponentBody := by
  intro cs rest e r hstops h
  -- whatever the sign, what is left to read are digits
  have hmap {minus : Bool} {cs : List Symbol}
      (h : (someDigits cs).map (fun (ds, rest) => ((minus, ds), rest)) = some (e, r)) :
      (someDigits (cs ++ rest)).map (fun (ds, rest) => ((minus, ds), rest))
        = some (e, r ++ rest) := by
    obtain ⟨⟨ds, r'⟩, hdigits, heq⟩ := Option.map_eq_some_iff.mp h
    cases heq
    rw [keepsRest_someDigits hstops hdigits]
    rfl
  cases cs with
  | nil => cases h
  | cons c cs =>
    by_cases hminus : c = some '-'
    · subst hminus
      exact hmap h
    · by_cases hplus : c = some '+'
      · subst hplus
        exact hmap h
      · rw [List.cons_append, exponentBody_of_ne hminus hplus, ← List.cons_append]
        rw [exponentBody_of_ne hminus hplus] at h
        exact hmap h

/-- Without its mark there is no exponent. -/
theorem exponentPart_of_ne {c : Symbol} (hlower : c ≠ some 'e') (hupper : c ≠ some 'E')
    (cs : List Symbol) :
    exponentPart (c :: cs) = some (none, c :: cs) := by
  unfold exponentPart
  split
  · next heq => exact absurd (List.cons.inj heq).1 hlower
  · next heq => exact absurd (List.cons.inj heq).1 hupper
  · rfl

/-- With its mark there is one, whatever follows. -/
theorem map_exponentBody_append {cs rest r : List Symbol} {e : Option (Bool × List Nat)}
    (hstops : Stops rest)
    (h : (exponentBody cs).map (fun (e, rest) => (some e, rest)) = some (e, r)) :
    (exponentBody (cs ++ rest)).map (fun (e, rest) => (some e, rest)) = some (e, r ++ rest) := by
  obtain ⟨⟨e', r'⟩, hexponent, heq⟩ := Option.map_eq_some_iff.mp h
  cases heq
  rw [keepsRest_exponentBody hstops hexponent]
  rfl

/-- What follows a number is no mark of an exponent, so a number without one gets none. -/
theorem keepsRest_exponentPart : KeepsRest exponentPart := by
  intro cs rest e r hstops h
  cases cs with
  | nil =>
    cases h
    cases rest with
    | nil => rfl
    | cons c rest =>
      refine exponentPart_of_ne ?_ ?_ rest <;> rcases hstops with rfl | rfl | rfl <;> decide
  | cons c cs =>
    by_cases hlower : c = some 'e'
    · subst hlower
      exact map_exponentBody_append hstops h
    · by_cases hupper : c = some 'E'
      · subst hupper
        exact map_exponentBody_append hstops h
      · rw [exponentPart_of_ne hlower hupper] at h
        cases h
        exact exponentPart_of_ne hlower hupper (cs ++ rest)

/-- The three parts of a numeral keep what follows, one after the other. -/
theorem keepsRest_unsignedNumeral (minus : Bool) : KeepsRest (unsignedNumeral minus) := by
  intro cs rest n r hstops h
  unfold unsignedNumeral at h ⊢
  obtain ⟨⟨whole, cs₁⟩, hwhole, h⟩ := Option.bind_eq_some_iff.mp h
  obtain ⟨⟨fraction, cs₂⟩, hfraction, h⟩ := Option.bind_eq_some_iff.mp h
  obtain ⟨⟨exponent, cs₃⟩, hexponent, h⟩ := Option.bind_eq_some_iff.mp h
  cases h
  -- each part is read the same and leaves what follows to the next
  rw [keepsRest_wholePart hstops hwhole]
  dsimp only [Option.bind_eq_bind, Option.bind_some]
  rw [keepsRest_fractionPart hstops hfraction]
  dsimp only [Option.bind_some]
  rw [keepsRest_exponentPart hstops hexponent]
  rfl

/-- What a numeral begins with. -/
def StartsNumeral (c : Symbol) : Prop := c = some '-' ∨ (digitValue? c).isSome = true

/-- It can be decided, as it is of a single symbol. -/
instance (c : Symbol) : Decidable (StartsNumeral c) := inferInstanceAs (Decidable (_ ∨ _))

/-- A numeral without a sign begins with a digit. -/
theorem exists_digit_of_unsignedNumeral {minus : Bool} {cs : List Symbol}
    {p : Numeral × List Symbol} (h : unsignedNumeral minus cs = some p) :
    ∃ c tail, cs = c :: tail ∧ (digitValue? c).isSome = true := by
  obtain ⟨whole, hwhole, -⟩ := Option.bind_eq_some_iff.mp h
  obtain ⟨⟨ds, r⟩, hdigits, -⟩ := Option.bind_eq_some_iff.mp hwhole
  cases cs with
  | nil => cases hdigits
  | cons c cs =>
    refine ⟨c, cs, rfl, ?_⟩
    cases hc : digitValue? c with
    | some d => rfl
    | none => simp [someDigits, digits, hc] at hdigits

/-- Without a minus a numeral has no sign. -/
theorem numeral_of_ne {c : Symbol} (h : c ≠ some '-') (cs : List Symbol) :
    numeral (c :: cs) = unsignedNumeral false (c :: cs) := by
  unfold numeral
  split
  · next heq => exact absurd (List.cons.inj heq).1 h
  · rfl

/-- What is read as a numeral begins like one. -/
theorem startsNumeral_of_numeral {cs : List Symbol} {p : Numeral × List Symbol}
    (h : numeral cs = some p) : ∃ c tail, cs = c :: tail ∧ StartsNumeral c := by
  unfold numeral at h
  split at h
  · next tail => exact ⟨some '-', tail, rfl, Or.inl rfl⟩
  · -- without a sign it has to begin with a digit
    obtain ⟨c, tail, hcs, hc⟩ := exists_digit_of_unsignedNumeral h
    exact ⟨c, tail, hcs, Or.inr hc⟩

/-- No numeral begins with a blank. -/
theorem isSpace_of_startsNumeral {c : Symbol} (h : StartsNumeral c) : isSpace c = false := by
  rw [Bool.eq_false_iff]
  intro hspace
  simp only [isSpace, Bool.or_eq_true, decide_eq_true_eq] at hspace
  rcases hspace with ((rfl | rfl) | rfl) | rfl <;> exact absurd h (by decide)

/-- **A numeral is read the same whatever follows the number.** -/
theorem keepsRest_numeral : KeepsRest numeral := by
  intro cs rest n r hstops h
  obtain ⟨c, tail, rfl, -⟩ := startsNumeral_of_numeral h
  rw [List.cons_append]
  by_cases hminus : c = some '-'
  · subst hminus
    exact keepsRest_unsignedNumeral true hstops h
  · rw [numeral_of_ne hminus] at h ⊢
    exact keepsRest_unsignedNumeral false hstops h

/-! ### Blanks -/

/-- Where there is no blank nothing is skipped. -/
theorem skipSpace_of_not_isSpace {c : Symbol} (h : isSpace c = false) (cs : List Symbol) :
    skipSpace (c :: cs) = c :: cs := by
  rw [skipSpace, List.dropWhile_cons_of_neg (by simp [h])]

/-- If something is left after the blanks, then what follows is behind it. -/
theorem skipSpace_append {cs tail : List Symbol} {c : Symbol} (h : skipSpace cs = c :: tail)
    (rest : List Symbol) : skipSpace (cs ++ rest) = c :: (tail ++ rest) := by
  have hcons : List.dropWhile isSpace cs = c :: tail := h
  rw [skipSpace, List.dropWhile_append, hcons]
  rfl

/-- If nothing is left after the blanks, then those in front of what follows are skipped as well. -/
theorem skipSpace_append_of_nil {cs : List Symbol} (h : skipSpace cs = []) (rest : List Symbol) :
    skipSpace (cs ++ rest) = skipSpace rest := by
  have hnil : List.dropWhile isSpace cs = [] := h
  rw [skipSpace, List.dropWhile_append, hnil]
  rfl

/-- After the blanks there are no more of them. -/
@[simp] theorem skipSpace_skipSpace (cs : List Symbol) :
    skipSpace (skipSpace cs) = skipSpace cs := by
  induction cs with
  | nil => rfl
  | cons c cs ih =>
    cases hc : isSpace c with
    | true =>
      -- a blank is skipped on both sides, and at anything else both have stopped
      have hdrop : skipSpace (c :: cs) = skipSpace cs := List.dropWhile_cons_of_pos hc
      rw [hdrop, ih]
    | false => rw [skipSpace_of_not_isSpace hc, skipSpace_of_not_isSpace hc]

/-- Blanks before a value are skipped. -/
theorem value_skipSpace (fuel : Nat) (cs : List Symbol) :
    value fuel (skipSpace cs) = value fuel cs := by
  cases fuel with
  | zero => rfl
  | succ fuel => rw [value, value, skipSpace_skipSpace]

/-- Blanks before the first item are skipped. -/
theorem items_skipSpace (fuel : Nat) (cs : List Symbol) :
    items fuel (skipSpace cs) = items fuel cs := by
  cases fuel with
  | zero => rfl
  | succ fuel => rw [items, items, value_skipSpace]

/-- Something was read off a text, and what is left is `rest`, up to blanks. -/
def Leaves {α : Type} (result : Option (α × List Symbol)) (a : α) (rest : List Symbol) : Prop :=
  ∃ r, result = some (a, r) ∧ skipSpace r = skipSpace rest

/-- What is left may be exactly what was meant to be left. -/
theorem Leaves.refl {α : Type} (a : α) (rest : List Symbol) : Leaves (some (a, rest)) a rest :=
  ⟨rest, rfl, rfl⟩

/-! ### Numbers -/

/-- A number is written so that it reads back. -/
def Number.Survives (n : Number) : Prop := Tree.readChars? n.write = some (.number (some n))

/-- A value that begins like a numeral is read as one: none of the words, quotes and brackets does.
-/
theorem value_of_startsNumeral {cs tail : List Symbol} {c : Symbol} (hcs : skipSpace cs = c :: tail)
    (hc : StartsNumeral c) (fuel : Nat) :
    value (fuel + 1) cs
      = (numeral (c :: tail)).map fun (n, rest) => (.number n.value?, rest) := by
  rw [value, hcs]
  split
  · next heq => cases heq; exact absurd hc (by decide)
  · next heq => cases heq; exact absurd hc (by decide)
  · next heq => cases heq; exact absurd hc (by decide)
  · next heq => cases heq; exact absurd hc (by decide)
  · next heq => cases heq; exact absurd hc (by decide)
  · next heq => cases heq; exact absurd hc (by decide)
  · rfl

/-- A number is read as a numeral. -/
theorem numeral_of_value {fuel : Nat} {cs r : List Symbol} {n : Option Number}
    (h : value (fuel + 1) cs = some (.number n, r)) :
    ∃ m, numeral (skipSpace cs) = some (m, r) ∧ m.value? = n := by
  rw [value] at h
  -- the words, strings and brackets give no number
  split at h
  · cases h
  · cases h
  · cases h
  · obtain ⟨p, -, heq⟩ := Option.map_eq_some_iff.mp h
    cases heq
  · split at h
    · cases h
    · obtain ⟨p, -, heq⟩ := Option.map_eq_some_iff.mp h
      cases heq
  · split at h
    · cases h
    · obtain ⟨p, -, heq⟩ := Option.map_eq_some_iff.mp h
      cases heq
  · obtain ⟨⟨m, r'⟩, hm, heq⟩ := Option.map_eq_some_iff.mp h
    cases heq
    exact ⟨m, hm, rfl⟩

/-- What it means that a number reads back: its text is a numeral with its value. -/
theorem Number.Survives.numeral {n : Number} (h : n.Survives) :
    ∃ c tail m r, skipSpace (n.write.map some) = c :: tail ∧ StartsNumeral c ∧
      Json.numeral (c :: tail) = some (m, r) ∧ m.value? = some n ∧ skipSpace r = [] := by
  obtain ⟨⟨t, r⟩, hvalue, hrest⟩ := Option.bind_eq_some_iff.mp h
  dsimp only at hrest
  split at hrest
  · next hempty =>
    cases hrest
    obtain ⟨m, hm, hn⟩ := numeral_of_value hvalue
    obtain ⟨c, tail, hcs, hc⟩ := startsNumeral_of_numeral hm
    rw [hcs] at hm
    exact ⟨c, tail, m, r, hcs, hc, hm, hn, List.isEmpty_iff.mp hempty⟩
  · cases hrest

/-- A number that reads back by itself reads back in front of what may follow one. -/
theorem Number.Survives.leaves {n : Number} (h : n.Survives) {rest : List Symbol}
    (hstops : Stops rest) (fuel : Nat) :
    Leaves (value (fuel + 1) (n.write.map some ++ rest)) (.number (some n)) rest := by
  obtain ⟨c, tail, m, r, hcs, hc, hm, hn, hr⟩ := h.numeral
  -- the numeral leaves what it left before, and behind it what follows
  refine ⟨r ++ rest, ?_, skipSpace_append_of_nil hr rest⟩
  rw [value_of_startsNumeral (skipSpace_append hcs rest) hc, ← List.cons_append,
    keepsRest_numeral hstops hm, Option.map_some]
  dsimp only
  rw [hn]

/-! ### Integers -/

/-- Digits go on after digits. -/
theorem digits_append_of_nil {as : List Symbol} {ds : List Nat} (h : digits as = (ds, []))
    (bs : List Symbol) : digits (as ++ bs) = (ds ++ (digits bs).1, (digits bs).2) := by
  induction as generalizing ds with
  | nil =>
    cases h
    rfl
  | cons c as ih =>
    rw [digits] at h
    cases hc : digitValue? c with
    -- then there would be something left
    | none => simp [hc] at h
    | some d =>
      simp only [hc, Prod.mk.injEq] at h
      obtain ⟨rfl, has⟩ := h
      rw [List.cons_append, digits, hc]
      dsimp only
      rw [ih (Prod.ext rfl has)]
      rfl

/-- A single digit reads back. -/
theorem digits_digitChar {d : Nat} (h : d < 10) : digits [some d.digitChar] = ([d], []) := by
  have hall : ∀ d : Fin 10, digits [some d.val.digitChar] = ([d.val], []) := by decide
  exact hall ⟨d, h⟩

-- that no zero leads is part of the induction: a reader of whole parts minds it
/-- The digits of a natural number read back, by induction on the number without its last digit. -/
theorem exists_digits_natDigits (n : Nat) : ∃ ds, digits ((natDigits n).map some) = (ds, []) ∧
    ds ≠ [] ∧ Numeral.ofDigits ds = n ∧ (ds.head? = some 0 → ds.length = 1) := by
  induction n using Nat.strongRecOn with
  | ind n ih =>
    by_cases hsmall : n < 10
    · refine ⟨[n], ?_, by simp, by simp [Numeral.ofDigits], fun _ => rfl⟩
      rw [natDigits, Nat.toDigits_of_lt_base hsmall, List.map_singleton, digits_digitChar hsmall]
    · -- all digits but the last are those of `n / 10`
      obtain ⟨ds, hdigits, hsome, hvalue, hlead⟩ := ih (n / 10) (by omega)
      refine ⟨ds ++ [n % 10], ?_, by simp, ?_, fun hzero => ?_⟩
      · have hsplit : natDigits n = natDigits (n / 10) ++ [(n % 10).digitChar] :=
          Nat.toDigits_of_base_le (by omega) (by omega)
        rw [hsplit, List.map_append, digits_append_of_nil hdigits, List.map_singleton,
          digits_digitChar (Nat.mod_lt n (by omega))]
      · rw [Numeral.ofDigits, List.foldl_append] at *
        simp only [List.foldl_cons, List.foldl_nil, hvalue]
        omega
      · -- a leading zero would be all there is of `n / 10`
        have hhead : ds.head? = some 0 := by
          cases ds with
          | nil => exact absurd rfl hsome
          | cons d ds => exact hzero
        obtain ⟨d, rfl⟩ := List.length_eq_one_iff.mp (hlead hhead)
        obtain rfl : d = 0 := Option.some.inj hhead
        have hzero' : (0 : Nat) = n / 10 := hvalue
        omega

/-- So a natural number is a numeral of its value, without a fraction and without an exponent. -/
theorem unsignedNumeral_natDigits (minus : Bool) (n : Nat) :
    ∃ ds, Numeral.ofDigits ds = n ∧
      unsignedNumeral minus ((natDigits n).map some) = some (⟨minus, ds, none, none⟩, []) := by
  obtain ⟨ds, hdigits, hsome, hvalue, hlead⟩ := exists_digits_natDigits n
  refine ⟨ds, hvalue, ?_⟩
  -- there is a digit, and no zero leads
  have hsomeDigits : someDigits ((natDigits n).map some) = some (ds, []) := by
    rw [someDigits, hdigits]
    exact if_neg (by simpa using hsome)
  have hwhole : wholePart ((natDigits n).map some) = some (ds, []) := by
    rw [wholePart, hsomeDigits]
    exact if_neg fun hzero => hzero.2 (hlead hzero.1)
  rw [unsignedNumeral, hwhole]
  rfl

/-- An integer is such a numeral with its sign. -/
theorem numeral_intDigits (i : Int) : ∃ ds, Numeral.ofDigits ds = i.natAbs ∧
    numeral ((intDigits i).map some) = some (⟨i < 0, ds, none, none⟩, []) := by
  obtain ⟨ds, hvalue, hunsigned⟩ := unsignedNumeral_natDigits (i < 0) i.natAbs
  refine ⟨ds, hvalue, ?_⟩
  unfold intDigits
  by_cases hneg : i < 0
  · rw [if_pos hneg, ← hunsigned, decide_eq_true hneg]
    rfl
  · -- the digits of a number that is not negative do not begin with a minus
    obtain ⟨c, tail, hdigits, hc⟩ := exists_digit_of_unsignedNumeral hunsigned
    have hminus : c ≠ some '-' := by
      rintro rfl
      cases hc
    rw [if_neg hneg, hdigits, numeral_of_ne hminus, ← hdigits, ← hunsigned, decide_eq_false hneg]

/-- The value of such a numeral is the integer, if it is in range. -/
theorem value?_of_integer {i : Int} {ds : List Nat} (hvalue : Numeral.ofDigits ds = i.natAbs)
    (h : IntRange i) : (Numeral.mk (decide (i < 0)) ds none none).value? = some (.int i h) := by
  have hinteger : (Numeral.mk (decide (i < 0)) ds none none).integer? = some i := by
    unfold Numeral.integer?
    dsimp only
    rw [hvalue]
    by_cases hneg : i < 0
    · -- a negative integer is not zero, whose negative is no integer
      rw [if_pos (decide_eq_true hneg), if_neg (by omega)]
      exact congrArg some (by omega)
    · rw [if_neg (by simpa using hneg)]
      exact congrArg some (by omega)
  unfold Numeral.value?
  rw [if_neg (by simp), hinteger]
  exact dif_pos h

/-- **Integers survive.** -/
theorem Number.survives_int (i : Int) (h : IntRange i) : (Number.int i h).Survives := by
  obtain ⟨ds, hvalue, hnumeral⟩ := numeral_intDigits i
  obtain ⟨c, tail, hcs, hc⟩ := startsNumeral_of_numeral hnumeral
  have hskip : skipSpace ((intDigits i).map some) = c :: tail := by
    rw [hcs]
    exact skipSpace_of_not_isSpace (isSpace_of_startsNumeral hc) tail
  have hread : value (((intDigits i).map some).length + 1) ((intDigits i).map some)
      = some (.number (some (.int i h)), []) := by
    rw [value_of_startsNumeral hskip hc, ← hcs, hnumeral, Option.map_some]
    dsimp only
    rw [value?_of_integer hvalue h]
  show Tree.readChars? (intDigits i) = _
  rw [Tree.readChars?, Tree.readSymbols?, hread]
  rfl

/-! ### Trees -/

namespace Tree

mutual

/-- Does every leaf of the tree denote something, and every number in it survive? -/
def Survives : Tree → Prop
  | .null => True
  | .bool _ => True
  | .number n => ∃ m, n = some m ∧ m.Survives
  | .string s => s.isSome = true
  | .array items => ItemsSurvive items
  | .object members => MembersSurvive members

/-- Does every item? -/
def ItemsSurvive : List Tree → Prop
  | [] => True
  | t :: ts => Survives t ∧ ItemsSurvive ts

/-- Does every member, name and value? -/
def MembersSurvive : List (Option String × Tree) → Prop
  | [] => True
  | (name, t) :: ms => name.isSome = true ∧ Survives t ∧ MembersSurvive ms

end

/-- The text of a surviving tree does not begin with a closing bracket. -/
theorem Survives.exists_head {t : Tree} (h : t.Survives) :
    ∃ c tail, skipSpace (t.writeChars.map some) = c :: tail ∧ c ≠ some ']' := by
  cases t with
  | null => exact ⟨some 'n', _, rfl, by decide⟩
  | bool b => cases b with
    | true => exact ⟨some 't', _, rfl, by decide⟩
    | false => exact ⟨some 'f', _, rfl, by decide⟩
  | number n =>
    obtain ⟨m, rfl, hm⟩ := h
    obtain ⟨c, tail, -, -, hcs, hc, -⟩ := hm.numeral
    refine ⟨c, tail, hcs, ?_⟩
    rintro rfl
    exact absurd hc (by decide)
  | string s => cases s with
    | none => cases h
    | some s => exact ⟨some '"', _, rfl, by decide⟩
  | array items => exact ⟨some '[', _, rfl, by decide⟩
  | object members => exact ⟨some '{', _, rfl, by decide⟩

/-- The first item is read as such, and not as the end of an array without items. -/
theorem exists_head_items {t : Tree} {ts : List Tree} (h : ItemsSurvive (t :: ts))
    (rest : List Symbol) :
    ∃ c tail, skipSpace ((writeItems (t :: ts)).map some ++ rest) = c :: tail ∧ c ≠ some ']' := by
  rw [ItemsSurvive] at h
  obtain ⟨c, tail, hcs, hc⟩ := h.1.exists_head
  cases ts with
  | nil =>
    rw [writeItems, List.map_append, List.append_assoc]
    exact ⟨c, _, skipSpace_append hcs _, hc⟩
  | cons u ts =>
    rw [writeItems, List.map_append, List.append_assoc]
    exact ⟨c, _, skipSpace_append hcs _, hc⟩

/-- The first member begins with the quote of its name. -/
theorem exists_quote_members {m : Option String × Tree} {ms : List (Option String × Tree)}
    (h : MembersSurvive (m :: ms)) (rest : List Symbol) :
    ∃ tail, (writeMembers (m :: ms)).map some ++ rest = some '"' :: tail := by
  obtain ⟨name, t⟩ := m
  rw [MembersSurvive] at h
  obtain ⟨name, rfl⟩ := Option.isSome_iff_exists.mp h.1
  cases ms with
  | nil => exact ⟨_, rfl⟩
  | cons m ms => exact ⟨_, rfl⟩

/-- Every tree has a text of some length. -/
theorem length_writeChars_pos {t : Tree} (h : t.Survives) : 0 < t.writeChars.length := by
  obtain ⟨c, tail, hcs, -⟩ := h.exists_head
  cases hwrite : t.writeChars with
  | nil =>
    rw [hwrite] at hcs
    cases hcs
  | cons c' tail' => simp

/-! ### Reading brackets -/

section Brackets

variable {fuel : Nat} {cs rest r : List Symbol} {t : Tree}

/-- A quote begins a string. -/
theorem value_quote : value (fuel + 1) (some '"' :: cs)
    = (stringBody cs).map fun (s, rest) => (.string s, rest) := by
  rw [value]
  rfl

/-- A bracket begins an array, which may end at once. -/
theorem value_bracket : value (fuel + 1) (some '[' :: cs) =
    match skipSpace cs with
    | some ']' :: rest => some (.array [], rest)
    | rest => (items fuel rest).map fun (ts, rest) => (.array ts, rest) := by
  rw [value]
  rfl

/-- An array that does not end at once has items. -/
theorem value_array {c : Symbol} {tail : List Symbol} (hcs : skipSpace cs = c :: tail)
    (hc : c ≠ some ']') : value (fuel + 1) (some '[' :: cs)
      = (items fuel cs).map fun (ts, rest) => (.array ts, rest) := by
  -- the reader has skipped the blanks when it looks for a closing bracket, so both sides do
  rw [value_bracket, ← items_skipSpace fuel cs, hcs]
  split
  · next heq => exact absurd (List.cons.inj heq).1 hc
  · rfl

/-- An object with a name in it has members. -/
theorem value_object : value (fuel + 1) (some '{' :: some '"' :: cs)
    = (members fuel (some '"' :: cs)).map fun (ms, rest) => (.object ms, rest) := by
  rw [value]
  rfl

/-- An item before a closing bracket is the last one. -/
theorem items_last (h : value fuel cs = some (t, r)) (hr : skipSpace r = some ']' :: rest) :
    items (fuel + 1) cs = some ([t], rest) := by
  rw [items, h]
  simp only [Option.bind_eq_bind, Option.bind_some, hr]

/-- After an item and a comma come more items. -/
theorem items_comma (h : value fuel cs = some (t, r)) (hr : skipSpace r = some ',' :: rest) :
    items (fuel + 1) cs = (items fuel rest).map fun (ts, rest) => (t :: ts, rest) := by
  rw [items, h]
  simp only [Option.bind_eq_bind, Option.bind_some, hr]
  cases items fuel rest <;> rfl

/-- A member begins with its name and a colon. -/
theorem members_name (name : String) :
    members (fuel + 1) ((writeString name).map some ++ some ':' :: cs) = (do
      let (t, rest) ← value fuel cs
      match skipSpace rest with
      | some ',' :: rest => do
        let (ms, rest) ← members fuel rest
        return ((some name, t) :: ms, rest)
      | some '}' :: rest => some ([(some name, t)], rest)
      | _ => none) := by
  have htext : (writeString name).map some ++ some ':' :: cs
      = some '"' :: ((Json.writeChars name.toList).map some ++ some '"' :: some ':' :: cs) := by
    simp [writeString]
  rw [htext, members]
  show (stringBody ((Json.writeChars name.toList).map some ++ some '"' :: some ':' :: cs)).bind _
    = _
  rw [stringBody_writeChars]
  rfl

/-- A member before a closing brace is the last one. -/
theorem members_last {name : String} (h : value fuel cs = some (t, r))
    (hr : skipSpace r = some '}' :: rest) :
    members (fuel + 1) ((writeString name).map some ++ some ':' :: cs)
      = some ([(some name, t)], rest) := by
  rw [members_name, h]
  simp only [Option.bind_eq_bind, Option.bind_some, hr]

/-- After a member and a comma come more members. -/
theorem members_comma {name : String} (h : value fuel cs = some (t, r))
    (hr : skipSpace r = some ',' :: rest) :
    members (fuel + 1) ((writeString name).map some ++ some ':' :: cs)
      = (members fuel rest).map fun (ms, rest) => ((some name, t) :: ms, rest) := by
  rw [members_name, h]
  simp only [Option.bind_eq_bind, Option.bind_some, hr]
  cases members fuel rest <;> rfl

end Brackets

/-! ### Trees read back -/

mutual

/-- **Induction over the tree.** -/
theorem leaves_value : ∀ {t : Tree}, t.Survives → ∀ (fuel : Nat) (rest : List Symbol),
    t.writeChars.length ≤ fuel → Stops rest →
      Leaves (value fuel (t.writeChars.map some ++ rest)) t rest
  | .null, _, fuel + 1, rest, _, _ => .refl _ rest
  | .bool b, _, fuel + 1, rest, _, _ => by
    cases b <;> exact .refl _ rest
  | .number n, h, fuel + 1, rest, _, hstops => by
    rw [Survives] at h
    obtain ⟨m, rfl, hm⟩ := h
    exact hm.leaves hstops fuel
  | .string s, h, fuel + 1, rest, _, _ => by
    rw [Survives] at h
    obtain ⟨s, rfl⟩ := Option.isSome_iff_exists.mp h
    have htext : (Tree.string (some s)).writeChars.map some ++ rest
        = some '"' :: ((Json.writeChars s.toList).map some ++ some '"' :: rest) := by
      simp [writeChars, writeLeafString, writeString]
    rw [htext, value_quote, stringBody_writeChars]
    exact .refl _ rest
  | .array ts, h, fuel + 1, rest, hfuel, _ => by
    rw [Survives] at h
    -- the bracket is one character and takes one unit of fuel
    rw [writeChars, List.length_cons] at hfuel
    rw [writeChars, List.map_cons, List.cons_append]
    cases ts with
    | nil =>
      rw [value]
      exact .refl _ rest
    | cons t ts =>
      obtain ⟨r, hr, hskip⟩ := leaves_items (List.cons_ne_nil t ts) h fuel rest (by omega)
      obtain ⟨c, tail, hcs, hc⟩ := exists_head_items h rest
      refine ⟨r, ?_, hskip⟩
      rw [value_array hcs hc, hr]
      rfl
  | .object ms, h, fuel + 1, rest, hfuel, _ => by
    rw [Survives] at h
    rw [writeChars, List.length_cons] at hfuel
    rw [writeChars, List.map_cons, List.cons_append]
    cases ms with
    | nil =>
      rw [value]
      exact .refl _ rest
    | cons m ms =>
      obtain ⟨r, hr, hskip⟩ := leaves_members (List.cons_ne_nil m ms) h fuel rest (by omega)
      obtain ⟨tail, hcs⟩ := exists_quote_members h rest
      refine ⟨r, ?_, hskip⟩
      rw [hcs] at hr ⊢
      rw [value_object, hr]
      rfl
  | t, h, 0, rest, hfuel, _ => by
    -- there is fuel, since no text is empty
    have hpos := length_writeChars_pos h
    omega

/-- Items read back with the brackets, commas and all, each with one unit of fuel less than the one
before it. -/
theorem leaves_items : ∀ {ts : List Tree}, ts ≠ [] → ItemsSurvive ts →
    ∀ (fuel : Nat) (rest : List Symbol), (writeItems ts).length ≤ fuel →
      Leaves (items fuel ((writeItems ts).map some ++ rest)) ts rest
  | [t], _, h, fuel, rest, hfuel => by
    rw [ItemsSurvive] at h
    rw [writeItems, List.length_append, List.length_singleton] at hfuel
    have hfuel' : fuel = fuel - 1 + 1 := by omega
    -- a number in front of the bracket ends there
    have hstops : Stops (some ']' :: rest) := Or.inr (Or.inl rfl)
    obtain ⟨r, hr, hskip⟩ := leaves_value h.1 (fuel - 1) _ (by omega) hstops
    rw [skipSpace_of_not_isSpace rfl] at hskip
    rw [hfuel', writeItems, List.map_append, List.append_assoc, List.map_singleton,
      List.singleton_append, items_last hr hskip]
    exact .refl _ rest
  | t :: u :: ts, _, h, fuel, rest, hfuel => by
    rw [ItemsSurvive] at h
    rw [writeItems, List.length_append, List.length_cons] at hfuel
    have hfuel' : fuel = fuel - 1 + 1 := by omega
    have hstops : Stops (some ',' :: ((writeItems (u :: ts)).map some ++ rest)) := Or.inl rfl
    obtain ⟨r, hr, hskip⟩ := leaves_value h.1 (fuel - 1) _ (by omega) hstops
    obtain ⟨r', hr', hskip'⟩ :=
      leaves_items (List.cons_ne_nil u ts) h.2 (fuel - 1) rest (by omega)
    rw [skipSpace_of_not_isSpace rfl] at hskip
    rw [hfuel', writeItems, List.map_append, List.append_assoc, List.map_cons, List.cons_append,
      items_comma hr hskip, hr']
    exact ⟨r', rfl, hskip'⟩

/-- Members read back in the same way. -/
theorem leaves_members : ∀ {ms : List (Option String × Tree)}, ms ≠ [] → MembersSurvive ms →
    ∀ (fuel : Nat) (rest : List Symbol), (writeMembers ms).length ≤ fuel →
      Leaves (members fuel ((writeMembers ms).map some ++ rest)) ms rest
  | [(name, t)], _, h, fuel, rest, hfuel => by
    rw [MembersSurvive] at h
    obtain ⟨hname, ht, -⟩ := h
    obtain ⟨name, rfl⟩ := Option.isSome_iff_exists.mp hname
    rw [writeMembers, List.length_append, List.length_cons, List.length_append,
      List.length_singleton] at hfuel
    have hfuel' : fuel = fuel - 1 + 1 := by omega
    have hstops : Stops (some '}' :: rest) := Or.inr (Or.inr rfl)
    obtain ⟨r, hr, hskip⟩ := leaves_value ht (fuel - 1) _ (by omega) hstops
    rw [skipSpace_of_not_isSpace rfl] at hskip
    rw [hfuel', writeMembers, List.map_append, List.append_assoc, List.map_cons, List.cons_append,
      List.map_append, List.append_assoc, List.map_singleton, List.singleton_append,
      writeLeafString, members_last hr hskip]
    exact .refl _ rest
  | (name, t) :: m :: ms, _, h, fuel, rest, hfuel => by
    rw [MembersSurvive] at h
    obtain ⟨hname, ht, hms⟩ := h
    obtain ⟨name, rfl⟩ := Option.isSome_iff_exists.mp hname
    rw [writeMembers, List.length_append, List.length_cons, List.length_append,
      List.length_cons] at hfuel
    have hfuel' : fuel = fuel - 1 + 1 := by omega
    have hstops : Stops (some ',' :: ((writeMembers (m :: ms)).map some ++ rest)) := Or.inl rfl
    obtain ⟨r, hr, hskip⟩ := leaves_value ht (fuel - 1) _ (by omega) hstops
    obtain ⟨r', hr', hskip'⟩ :=
      leaves_members (List.cons_ne_nil m ms) hms (fuel - 1) rest (by omega)
    rw [skipSpace_of_not_isSpace rfl] at hskip
    rw [hfuel', writeMembers, List.map_append, List.append_assoc, List.map_cons, List.cons_append,
      List.map_append, List.append_assoc, List.map_cons, List.cons_append, writeLeafString,
      members_comma hr hskip, hr']
    exact ⟨r', rfl, hskip'⟩

end

/-- **Written JSON reads back.** The text of a tree whose numbers survive is read as the tree. -/
theorem read?_write {t : Tree} (h : t.Survives) : Tree.read? t.write = some t := by
  obtain ⟨r, hr, hskip⟩ := leaves_value h _ [] (Nat.le_succ t.writeChars.length) trivial
  rw [List.append_nil] at hr
  rw [Tree.read?, Tree.write, String.toList_ofList, readChars?, readSymbols?, List.length_map, hr]
  simp only [Option.bind_eq_bind, Option.bind_some, hskip]
  rfl

end Tree

end ChainWatch.Json
