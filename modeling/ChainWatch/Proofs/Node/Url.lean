import ChainWatch.Node.List
import ChainWatch.Proofs.Text.Blank

/-!
# What is left of an entry

An entry of a list of nodes is cut twice: the blanks go from both ends, and then the slashes from
the one at the back. `StripsTo` says what is left without saying how it is found, and there is one
url that an entry strips to (`normalizeUrl_eq_iff`).

The second cut may bring a blank to the end that the first one could not see, since a slash was
behind it. `HidesBlank` describes the entries of which this is true. Of every other entry something
is left that is left of itself (`normalizeUrl_eq_self_iff`, `endsWith_isBlank_normalizeUrl_iff`).
-/

namespace ChainWatch

/-- The url stands in the entry, with nothing but slashes behind it and then nothing but blanks on
either side; no blank begins or ends what stands between the blanks, and no slash ends the url. -/
def StripsTo (entry url : String) : Prop :=
  ∃ left slashes right, entry.toList = left ++ (url.toList ++ slashes) ++ right ∧
    (∀ c ∈ left ++ right, isBlank c = true) ∧ (∀ c ∈ slashes, c = '/') ∧
    ¬ BeginsWith isBlank (url.toList ++ slashes) ∧ ¬ EndsWith isBlank (url.toList ++ slashes) ∧
    ¬ EndsWith (· == '/') url.toList

/-- Behind something that is no blank stand a blank, slashes, and then nothing but blanks. -/
def HidesBlank (entry : String) : Prop :=
  ∃ front blank slashes right, entry.toList = front ++ blank :: slashes ++ right ∧
    (∃ c ∈ front, isBlank c = false) ∧ isBlank blank = true ∧ slashes ≠ [] ∧
    (∀ c ∈ slashes, c = '/') ∧ ∀ c ∈ right, isBlank c = true

variable {entry url : String}

/-- An entry is normalized to the one url that it strips to. -/
theorem normalizeUrl_eq_iff : normalizeUrl entry = url ↔ StripsTo entry url := by
  unfold normalizeUrl trimEndChar trimBlank StripsTo
  rw [String.toList_ofList, ← String.toList_inj, String.toList_ofList, dropEndWhile_eq_iff]
  simp only [trimBlankChars_eq_iff, beq_iff_eq]
  constructor
  · rintro ⟨slashes, ⟨left, right, hentry, hblank, hbegin, hend⟩, hslashes, hurl⟩
    exact ⟨left, slashes, right, hentry, hblank, hslashes, hbegin, hend, hurl⟩
  · rintro ⟨left, slashes, right, hentry, hblank, hslashes, hbegin, hend, hurl⟩
    exact ⟨slashes, ⟨left, right, hentry, hblank, hbegin, hend⟩, hslashes, hurl⟩

theorem stripsTo_normalizeUrl (entry : String) : StripsTo entry (normalizeUrl entry) :=
  normalizeUrl_eq_iff.mp rfl

theorem StripsTo.not_beginsWith_isBlank (h : StripsTo entry url) :
    ¬ BeginsWith isBlank url.toList := by
  obtain ⟨left, slashes, right, -, -, -, hbegin, -⟩ := h
  exact fun hurl => hbegin (hurl.append slashes)

theorem StripsTo.not_endsWith_slash (h : StripsTo entry url) :
    ¬ EndsWith (· == '/') url.toList := by
  obtain ⟨left, slashes, right, -, -, -, -, -, hurl⟩ := h
  exact hurl

/-- What ends with slashes does not end with anything else. -/
theorem not_endsWith_of_forall_slash {p : Char → Bool} {front slashes : List Char}
    (hp : p '/' = false) (hne : slashes ≠ []) (hslashes : ∀ c ∈ slashes, c = '/') :
    ¬ EndsWith p (front ++ slashes) := by
  obtain ⟨most, c, rfl⟩ := List.eq_nil_or_concat slashes |>.resolve_left hne
  have hc : c = '/' := hslashes c (by simp)
  rw [List.concat_eq_append, ← List.append_assoc, endsWith_concat_iff, hc, hp]
  exact Bool.false_ne_true

/-- What is left of itself neither begins with a blank, nor ends with one, nor with a slash. -/
theorem normalizeUrl_eq_self_iff :
    normalizeUrl url = url ↔ ¬ BeginsWith isBlank url.toList ∧ ¬ EndsWith isBlank url.toList ∧
      ¬ EndsWith (· == '/') url.toList := by
  rw [normalizeUrl_eq_iff]
  constructor
  · rintro ⟨left, slashes, right, hself, -, -, hbegin, hend, hurl⟩
    -- nothing was cut, since the length is the same
    have hlength := congrArg List.length hself
    simp only [List.length_append] at hlength
    have hslashes : slashes = [] := List.eq_nil_of_length_eq_zero (by omega)
    rw [hslashes, List.append_nil] at hbegin hend
    exact ⟨hbegin, hend, hurl⟩
  · rintro ⟨hbegin, hend, hurl⟩
    exact ⟨[], [], [], by simp, by simp, by simp, by simpa using hbegin, by simpa using hend, hurl⟩

/-- The blank that ends a url was hidden by the slashes behind it. -/
theorem StripsTo.hidesBlank (h : StripsTo entry url) (hurl : EndsWith isBlank url.toList) :
    HidesBlank entry := by
  obtain ⟨front, blank, hurl, hblank⟩ := hurl
  obtain ⟨left, slashes, right, hentry, hcut, hslashes, hbegin, hend, -⟩ := h
  rw [hurl] at hentry hbegin hend
  have hsolid : ∃ c ∈ left ++ front, isBlank c = false := by
    -- what stands in front of the blank begins with something else
    cases front with
    | nil => exact absurd ⟨blank, slashes, rfl, hblank⟩ hbegin
    | cons c front =>
      refine ⟨c, by simp, ?_⟩
      rw [← Bool.not_eq_true]
      exact fun hc => hbegin ⟨c, front ++ [blank] ++ slashes, by simp, hc⟩
  have hne : slashes ≠ [] := by
    rintro rfl
    rw [List.append_nil, endsWith_concat_iff] at hend
    exact hend hblank
  exact ⟨left ++ front, blank, slashes, right, by simpa using hentry, hsolid, hblank, hne, hslashes,
    fun c hc => hcut c (List.mem_append_right _ hc)⟩

/-- A hidden blank ends the url. -/
theorem HidesBlank.endsWith (h : HidesBlank entry) :
    EndsWith isBlank (normalizeUrl entry).toList := by
  obtain ⟨front, blank, slashes, right, hentry, ⟨c, hc, hsolid⟩, hblank, hne, hslashes, hright⟩ := h
  -- the blanks at the front of the entry end before `c`
  obtain ⟨left, hfront, hleft, hbegin⟩ := dropWhile_eq_iff.mp (rfl : front.dropWhile isBlank = _)
  have hrest : front.dropWhile isBlank ≠ [] := by
    intro hnil
    rw [hnil, List.append_nil] at hfront
    rw [hfront] at hc
    exact Bool.false_ne_true (hsolid.symm.trans (hleft c hc))
  generalize front.dropWhile isBlank = core at hfront hbegin hrest
  have hurl : normalizeUrl entry = String.ofList (core ++ [blank]) := by
    rw [normalizeUrl_eq_iff]
    refine ⟨left, slashes, right, ?_, ?_, hslashes, ?_, ?_, ?_⟩
    · rw [hentry, hfront, String.toList_ofList]
      simp
    · exact List.forall_mem_append.mpr ⟨hleft, hright⟩
    · obtain ⟨c, core, rfl⟩ := List.exists_cons_of_ne_nil hrest
      rw [beginsWith_cons_iff] at hbegin
      simpa using hbegin
    · exact not_endsWith_of_forall_slash (by decide) hne hslashes
    · rw [String.toList_ofList, endsWith_concat_iff, beq_iff_eq]
      rintro rfl
      exact absurd hblank (by decide)
  rw [hurl, String.toList_ofList, endsWith_concat_iff]
  exact hblank

theorem endsWith_isBlank_normalizeUrl_iff :
    EndsWith isBlank (normalizeUrl entry).toList ↔ HidesBlank entry :=
  ⟨(stripsTo_normalizeUrl entry).hidesBlank, HidesBlank.endsWith⟩

instance (entry : String) : Decidable (HidesBlank entry) :=
  decidable_of_iff _ endsWith_isBlank_normalizeUrl_iff

end ChainWatch
