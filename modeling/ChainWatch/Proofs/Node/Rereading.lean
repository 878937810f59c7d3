import ChainWatch.Proofs.Node.Flaw

/-!
# Reading the urls of a list again

A list that was read may be written down as its urls and read again. One would like to get the same
list, and for most lists one does: exactly if no entry hides a blank before the slashes at its end
(`reread_iff`). Where one does, that blank is at the end of the url, and reading cuts it the next
time.

Then the url may turn out to be that of another node, for `http://a` and `http://a /` are read as
two nodes (`hidden_blank_kept`). Two nodes of a list never differ in blanks around their urls and
slashes behind them alone if no entry hides a blank; this is what the urls are cut for.
-/

namespace ChainWatch

/-- The urls are the same but for blanks in front, and blanks and slashes behind. -/
def Alike (u v : String) : Prop :=
  ∃ core left right left' right', u.toList = left ++ core ++ right ∧
    v.toList = left' ++ core ++ right' ∧ (∀ c ∈ left ++ left', isBlank c = true) ∧
    ∀ c ∈ right ++ right', isBlank c = true ∨ c = '/'

/-- A url with no blanks at its ends and no slash behind is all that it has in common. -/
theorem eq_core_of_normal {cs left core right : List Char} (hcs : cs = left ++ core ++ right)
    (hleft : ∀ c ∈ left, isBlank c = true) (hright : ∀ c ∈ right, isBlank c = true ∨ c = '/')
    (hbegin : ¬ BeginsWith isBlank cs) (hend : ¬ EndsWith isBlank cs)
    (hslash : ¬ EndsWith (· == '/') cs) : cs = core := by
  have hnothingLeft : left = [] := by
    cases left with
    | nil => rfl
    | cons c left =>
      exact absurd ⟨c, left ++ core ++ right, hcs, hleft c (List.mem_cons_self ..)⟩ hbegin
  have hnothingRight : right = [] := by
    rcases List.eq_nil_or_concat right with rfl | ⟨front, c, rfl⟩
    · rfl
    · rw [List.concat_eq_append, ← List.append_assoc] at hcs
      rcases hright c (by simp) with hblank | hc
      · exact absurd ⟨_, c, hcs, hblank⟩ hend
      · exact absurd ⟨_, c, hcs, by simp [hc]⟩ hslash
  rw [hcs, hnothingLeft, hnothingRight, List.nil_append, List.append_nil]

namespace NodeList

variable {entries : List String} {l : NodeList} {url : String}

theorem exists_stripsTo_of_mem (h : ofUrls entries = .ok l) (hurl : url ∈ l.urls) :
    url ≠ "" ∧ ∃ entry ∈ entries, StripsTo entry url := by
  obtain ⟨-, hsome, -, -⟩ := ofUrls_eq_ok_iff.mp h
  rw [urls_of_ofUrls h] at hurl
  obtain ⟨entry, hentry, rfl⟩ := List.mem_map.mp hurl
  exact ⟨hsome entry hentry, entry, hentry, stripsTo_normalizeUrl entry⟩

/-- No url is blank, begins with a blank or ends with a slash. -/
theorem normal_of_mem (h : ofUrls entries = .ok l) (hurl : url ∈ l.urls) :
    (∃ c ∈ url.toList, isBlank c = false) ∧ ¬ BeginsWith isBlank url.toList ∧
      ¬ EndsWith (· == '/') url.toList := by
  obtain ⟨hne, entry, -, hstrips⟩ := exists_stripsTo_of_mem h hurl
  refine ⟨?_, hstrips.not_beginsWith_isBlank, hstrips.not_endsWith_slash⟩
  -- its first character is no blank
  have hbegin := hstrips.not_beginsWith_isBlank
  cases hchars : url.toList with
  | nil => exact absurd (String.toList_eq_nil_iff.mp hchars) hne
  | cons c rest =>
    rw [hchars, beginsWith_cons_iff, Bool.not_eq_true] at hbegin
    exact ⟨c, List.mem_cons_self .., hbegin⟩

theorem normalizeUrl_eq_self_of_mem (h : ofUrls entries = .ok l) (hurl : url ∈ l.urls) :
    normalizeUrl url = url ↔ ¬ EndsWith isBlank url.toList := by
  obtain ⟨-, hbegin, hslash⟩ := normal_of_mem h hurl
  rw [normalizeUrl_eq_self_iff]
  exact ⟨fun hself => hself.2.1, fun hend => ⟨hbegin, hend, hslash⟩⟩

/-- Urls that are cut no further are read as they are. -/
theorem ofUrls_urls (h : ofUrls entries = .ok l) (hself : ∀ url ∈ l.urls, normalizeUrl url = url) :
    ofUrls l.urls = .ok l := by
  have hmap : l.urls.map normalizeUrl = l.urls :=
    (List.map_congr_left hself).trans (List.map_id _)
  refine ofUrls_eq_ok_iff.mpr ⟨l.urls_ne_nil, fun url hurl => ?_, ?_, ?_⟩
  · rw [hself url hurl]
    exact (exists_stripsTo_of_mem h hurl).1
  · rw [hmap]
    exact l.nodup_urls
  · rw [nodes_of_ofUrls h]
    exact List.map_congr_left fun url hurl => by rw [hself url hurl]

theorem forall_not_endsWith_iff (h : ofUrls entries = .ok l) :
    (∀ url ∈ l.urls, ¬ EndsWith isBlank url.toList) ↔ ∀ entry ∈ entries, ¬ HidesBlank entry := by
  rw [urls_of_ofUrls h, List.forall_mem_map]
  simp only [endsWith_isBlank_normalizeUrl_iff]

/-- **Reading the urls again.** No url of a list is blank, begins with a blank or ends with a slash.
No url ends with a blank either exactly if no entry hides one before the slashes at its end, and
then, and only then, the urls are read as the same urls again. In this case no two of them are the
same but for blanks around them and slashes behind. -/
theorem reread_iff (h : ofUrls entries = .ok l) :
    (∀ url ∈ l.urls, (∃ c ∈ url.toList, isBlank c = false) ∧ ¬ BeginsWith isBlank url.toList ∧
      ¬ EndsWith (· == '/') url.toList) ∧
    ((∀ url ∈ l.urls, ¬ EndsWith isBlank url.toList) ↔ ∀ entry ∈ entries, ¬ HidesBlank entry) ∧
    ((∃ l', ofUrls l.urls = .ok l' ∧ l'.urls = l.urls) ↔ ∀ entry ∈ entries, ¬ HidesBlank entry) ∧
    ((∀ entry ∈ entries, ¬ HidesBlank entry) → l.urls.Pairwise fun u v => ¬ Alike u v) := by
  have hends := forall_not_endsWith_iff h
  refine ⟨fun url hurl => normal_of_mem h hurl, hends, ?_, fun hnone => ?_⟩
  · rw [← hends]
    constructor
    · rintro ⟨l', hl', hsame⟩ url hurl
      -- every url is what is left of it
      have hmap : l.urls.map normalizeUrl = l.urls.map id := by
        rw [← urls_of_ofUrls hl', hsame, List.map_id]
      exact (normalizeUrl_eq_self_of_mem h hurl).mp (List.map_inj_left.mp hmap url hurl)
    · intro hnone
      refine ⟨l, ofUrls_urls h fun url hurl => ?_, rfl⟩
      exact (normalizeUrl_eq_self_of_mem h hurl).mpr (hnone url hurl)
  · rw [← hends] at hnone
    refine l.nodup_urls.imp_of_mem fun {u v} hu hv hne halike => hne ?_
    obtain ⟨core, left, right, left', right', hcore, hcore', hleft, hright⟩ := halike
    rw [List.forall_mem_append] at hleft hright
    obtain ⟨-, hbegin, hslash⟩ := normal_of_mem h hu
    obtain ⟨-, hbegin', hslash'⟩ := normal_of_mem h hv
    have heq : u.toList = core :=
      eq_core_of_normal hcore hleft.1 hright.1 hbegin (hnone u hu) hslash
    have heq' : v.toList = core :=
      eq_core_of_normal hcore' hleft.2 hright.2 hbegin' (hnone v hv) hslash'
    rw [← String.toList_inj, heq, heq']

/-- Blanks around an entry and slashes behind it are cut at once. -/
theorem reread_iff_padded :
    ∃ l, ofUrls [" http://a/ ", "http://b//"] = .ok l ∧ l.urls = ["http://a", "http://b"] ∧
      (∃ l', ofUrls l.urls = .ok l' ∧ l'.urls = l.urls) ∧
      l.urls.Pairwise fun u v => ¬ Alike u v := by
  have hread : ∃ l, ofUrls [" http://a/ ", "http://b//"] = .ok l := ⟨_, rfl⟩
  obtain ⟨l, h⟩ := hread
  obtain ⟨-, -, hagain, hapart⟩ := reread_iff h
  have hnone : ∀ entry ∈ [" http://a/ ", "http://b//"], ¬ HidesBlank entry := by decide +kernel
  exact ⟨l, h, by rw [urls_of_ofUrls h]; decide +kernel, hagain.mpr hnone, hapart hnone⟩

/-- A blank before the slash stays, so the node is taken for another one; read again, it is not. -/
theorem hidden_blank_kept :
    ∃ l, ofUrls ["http://a", "http://a /"] = .ok l ∧ l.urls = ["http://a", "http://a "] ∧
      ofUrls l.urls = .error (.duplicate "http://a") := by
  have hfirst : FirstFlaw (["http://a", "http://a "].map normalizeUrl) 1
      (.duplicate "http://a") := by
    refine ⟨.twice (j := 0) Nat.zero_lt_one (by decide +kernel) (by decide +kernel), ?_⟩
    intro j hj fault hflawed
    obtain rfl : j = 0 := by omega
    -- the first url is not empty, and there is none before it
    cases hflawed with
    | empty h => exact absurd h (by decide +kernel)
    | twice hbefore => exact absurd hbefore (Nat.not_lt_zero _)
  have hread : ∃ l, ofUrls ["http://a", "http://a /"] = .ok l := ⟨_, rfl⟩
  obtain ⟨l, h⟩ := hread
  have hurls : l.urls = ["http://a", "http://a "] := by
    rw [urls_of_ofUrls h]
    decide +kernel
  refine ⟨l, h, hurls, ?_⟩
  rw [hurls]
  exact ofUrls_eq_error_iff.mpr (Or.inr ⟨1, hfirst⟩)

end NodeList

end ChainWatch
