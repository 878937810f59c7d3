import ChainWatch.Proofs.Node.List
import ChainWatch.Proofs.Node.Url
import Mathlib.Data.List.Nodup

/-!
# The first flaw of a list

A list of entries is refused for its first flaw: the first position whose url is empty, or is the
url of an earlier position. `FlawedAt` says what is wrong at a position, and `FirstFlaw` that it is
so nowhere before. There is one first flaw in a list that has any (`FirstFlaw.unique`), so that it
decides what is told of the list, whatever follows it.

Reading remembers the urls that it has passed. They are the beginning of the whole list, and what
carries the induction is that no flaw is among them (`exists_firstFlaw_of_readUrls`).
-/

namespace ChainWatch.NodeList

/-- The url at a position is empty, or stands at an earlier position too. -/
inductive FlawedAt (urls : List String) (k : Nat) : NodeListFault → Prop where
  | empty (h : urls[k]? = some "") : FlawedAt urls k .emptyUrl
  | twice {j : Nat} {url : String} (hj : j < k) (hearlier : urls[j]? = some url)
    (h : urls[k]? = some url) : FlawedAt urls k (.duplicate url)

/-- The position has a flaw, and none before it has one. -/
structure FirstFlaw (urls : List String) (k : Nat) (fault : NodeListFault) : Prop where
  flawed : FlawedAt urls k fault
  first : ∀ j < k, ∀ fault, ¬ FlawedAt urls j fault

variable {urls more seen entries : List String} {url : String} {j k : Nat}
  {fault fault' : NodeListFault}

/-! ### Flaws -/

theorem FlawedAt.lt_length (h : FlawedAt urls k fault) : k < urls.length := by
  cases h with
  | empty h => exact (List.getElem?_eq_some_iff.mp h).1
  | twice hj hearlier h => exact (List.getElem?_eq_some_iff.mp h).1

/-- A flaw is a matter of the urls up to it. -/
theorem flawedAt_append_iff (hk : k < urls.length) :
    FlawedAt (urls ++ more) k fault ↔ FlawedAt urls k fault := by
  have hsame : ∀ i ≤ k, (urls ++ more)[i]? = urls[i]? := fun i hi =>
    List.getElem?_append_left (Nat.lt_of_le_of_lt hi hk)
  constructor
  · intro h
    cases h with
    | empty h => exact .empty (hsame k le_rfl ▸ h)
    | twice hj hearlier h => exact .twice hj (hsame _ hj.le ▸ hearlier) (hsame k le_rfl ▸ h)
  · intro h
    cases h with
    | empty h => exact .empty ((hsame k le_rfl).trans h)
    | twice hj hearlier h =>
      exact .twice hj ((hsame _ hj.le).trans hearlier) ((hsame k le_rfl).trans h)

theorem firstFlaw_append_iff (hk : k < urls.length) :
    FirstFlaw (urls ++ more) k fault ↔ FirstFlaw urls k fault := by
  constructor
  · rintro ⟨hflawed, hfirst⟩
    refine ⟨(flawedAt_append_iff hk).mp hflawed, fun j hj fault h => hfirst j hj fault ?_⟩
    exact (flawedAt_append_iff (hj.trans hk)).mpr h
  · rintro ⟨hflawed, hfirst⟩
    refine ⟨(flawedAt_append_iff hk).mpr hflawed, fun j hj fault h => hfirst j hj fault ?_⟩
    exact (flawedAt_append_iff (hj.trans hk)).mp h

/-- A list has one first flaw. -/
theorem FirstFlaw.unique (h : FirstFlaw urls k fault) (h' : FirstFlaw urls j fault') :
    k = j ∧ fault = fault' := by
  have hkj : k = j := by
    rcases Nat.lt_trichotomy k j with hlt | heq | hlt
    · exact absurd h.flawed (h'.first k hlt fault)
    · exact heq
    · exact absurd h'.flawed (h.first j hlt fault')
  subst hkj
  refine ⟨rfl, ?_⟩
  obtain ⟨hflawed, hfirst⟩ := h
  obtain ⟨hflawed', -⟩ := h'
  cases hflawed with
  | empty hk =>
    cases hflawed' with
    | empty => rfl
    | twice hi hearlier hk' =>
      -- an empty url that stands earlier is a flaw there
      rw [hk] at hk'
      cases hk'
      exact absurd (.empty hearlier) (hfirst _ hi _)
  | twice hi hearlier hk =>
    cases hflawed' with
    | empty hk' =>
      rw [hk'] at hk
      cases hk
      exact absurd (.empty hearlier) (hfirst _ hi _)
    | twice hi' hearlier' hk' =>
      rw [hk] at hk'
      cases hk'
      rfl

/-- A list without a flaw is one of urls that differ and are not empty. -/
theorem forall_not_flawedAt_iff :
    (∀ k fault, ¬ FlawedAt urls k fault) ↔ (∀ url ∈ urls, url ≠ "") ∧ urls.Nodup := by
  constructor
  · intro h
    constructor
    · rintro url hmem rfl
      obtain ⟨k, hk⟩ := List.mem_iff_getElem?.mp hmem
      exact h k _ (.empty hk)
    · rw [List.nodup_iff_getElem?_ne_getElem?]
      intro i j hij hj heq
      rw [List.getElem?_eq_getElem hj] at heq
      exact h j _ (.twice hij heq (List.getElem?_eq_getElem hj))
  · rintro ⟨hsome, hnodup⟩ k fault hflawed
    cases hflawed with
    | empty hk => exact hsome "" (List.mem_of_getElem? hk) rfl
    | twice hj hearlier hk =>
      have hlt := (List.getElem?_eq_some_iff.mp hk).1
      exact List.nodup_iff_getElem?_ne_getElem?.mp hnodup _ k hj hlt (hearlier.trans hk.symm)

/-- A new url that is not empty joins others without a flaw, and none comes with it. -/
theorem forall_not_flawedAt_reverse_cons (hseen : ∀ k fault, ¬ FlawedAt seen.reverse k fault)
    (hsome : url ≠ "") (hnew : url ∉ seen) :
    ∀ k fault, ¬ FlawedAt (url :: seen).reverse k fault := by
  rw [forall_not_flawedAt_iff] at hseen ⊢
  obtain ⟨hall, hnodup⟩ := hseen
  constructor
  · intro url' hurl'
    rw [List.mem_reverse, List.mem_cons] at hurl'
    rcases hurl' with rfl | hurl'
    · exact hsome
    · exact hall url' (List.mem_reverse.mpr hurl')
  · rw [List.nodup_reverse] at hnodup ⊢
    exact List.nodup_cons.mpr ⟨hnew, hnodup⟩

/-! ### Reading -/

/-- Reading stops at the first flaw of all urls, those passed before included. -/
theorem exists_firstFlaw_of_readUrls (hseen : ∀ k fault, ¬ FlawedAt seen.reverse k fault)
    (h : readUrls seen entries = .error fault) :
    ∃ k, FirstFlaw (seen.reverse ++ entries.map normalizeUrl) k fault := by
  induction entries generalizing seen with
  | nil => cases h
  | cons entry entries ih =>
    -- the entry stands behind all that was passed
    have hhere : (seen.reverse ++ normalizeUrl entry :: entries.map normalizeUrl)[seen.length]?
        = some (normalizeUrl entry) := by
      rw [List.getElem?_append_right (by rw [List.length_reverse]), List.length_reverse]
      simp
    have hfirst : ∀ j < seen.length, ∀ fault, ¬ FlawedAt
        (seen.reverse ++ normalizeUrl entry :: entries.map normalizeUrl) j fault := by
      intro j hj fault hflawed
      rw [flawedAt_append_iff (by rwa [List.length_reverse])] at hflawed
      exact hseen j fault hflawed
    rw [readUrls] at h
    by_cases hempty : normalizeUrl entry = ""
    · rw [if_pos hempty] at h
      cases h
      rw [hempty] at hhere
      exact ⟨seen.length, .empty (by rwa [List.map_cons, hempty]), hfirst⟩
    rw [if_neg hempty] at h
    by_cases hmem : normalizeUrl entry ∈ seen
    · rw [if_pos hmem] at h
      cases h
      obtain ⟨j, hj⟩ := List.mem_iff_getElem?.mp (List.mem_reverse.mpr hmem)
      have hlt : j < seen.length := by
        simpa using (List.getElem?_eq_some_iff.mp hj).1
      refine ⟨seen.length, .twice hlt ?_ hhere, hfirst⟩
      rwa [List.getElem?_append_left (by rwa [List.length_reverse])]
    rw [if_neg hmem] at h
    have hrest : readUrls (normalizeUrl entry :: seen) entries = .error fault := by
      cases hread : readUrls (normalizeUrl entry :: seen) entries with
      | error fault' =>
        rw [hread] at h
        exact h
      | ok urls =>
        rw [hread] at h
        cases h
    obtain ⟨k, hk⟩ := ih (forall_not_flawedAt_reverse_cons hseen hempty hmem) hrest
    rw [List.reverse_cons, List.append_assoc, List.singleton_append] at hk
    exact ⟨k, hk⟩

theorem not_flawedAt_of_ofUrls {l : NodeList} (h : ofUrls entries = .ok l) :
    ∀ k fault, ¬ FlawedAt (entries.map normalizeUrl) k fault := by
  obtain ⟨-, hsome, hnodup, -⟩ := ofUrls_eq_ok_iff.mp h
  exact forall_not_flawedAt_iff.mpr ⟨List.forall_mem_map.mpr hsome, hnodup⟩

/-- A list is refused for having no entry, or for its first flaw. -/
theorem ofUrls_eq_error_iff :
    ofUrls entries = .error fault ↔
      entries = [] ∧ fault = .emptyList ∨
        ∃ k, FirstFlaw (entries.map normalizeUrl) k fault := by
  have hforward : ∀ fault, ofUrls entries = .error fault →
      entries = [] ∧ fault = .emptyList ∨
        ∃ k, FirstFlaw (entries.map normalizeUrl) k fault := by
    intro fault h
    unfold ofUrls at h
    split at h
    · next fault' hread =>
      cases h
      -- nothing was passed before the reading begins
      have hnothing : ∀ k fault, ¬ FlawedAt ([] : List String).reverse k fault := by
        intro k fault h
        cases h.lt_length
      exact Or.inr (exists_firstFlaw_of_readUrls hnothing hread)
    · next hread =>
      cases h
      obtain ⟨hmap, -, -⟩ := readUrls_eq_ok_iff.mp hread
      exact Or.inl ⟨List.map_eq_nil_iff.mp hmap.symm, rfl⟩
    · cases h
  refine ⟨hforward fault, ?_⟩
  rintro (⟨rfl, rfl⟩ | ⟨k, hk⟩)
  · rfl
  · cases h : ofUrls entries with
    | ok l => exact absurd hk.flawed (not_flawedAt_of_ofUrls h k fault)
    | error fault' =>
      rcases hforward fault' h with ⟨rfl, -⟩ | ⟨k', hk'⟩
      · cases hk.flawed.lt_length
      · rw [(hk.unique hk').2]

/-- **Which lists are read, and what is told of the others.** The url of an entry is what stands in
it between blanks, without the slashes at its end. A list is read exactly if it has an entry, no url
is empty, and no two are the same. It is then read as the urls in their order, each at its position,
and no node has said anything. A list without an entry is refused as such, and any other for its
first flaw, whatever stands behind it. -/
theorem read_up_to_first_flaw (entries : List String) :
    (∀ entry url, normalizeUrl entry = url ↔ StripsTo entry url) ∧
    ((∃ l, ofUrls entries = .ok l) ↔
      entries ≠ [] ∧ (∀ entry ∈ entries, normalizeUrl entry ≠ "") ∧
        (entries.map normalizeUrl).Nodup) ∧
    (∀ l, ofUrls entries = .ok l →
      l.urls = entries.map normalizeUrl ∧ l.size = entries.length ∧
        (∀ node, (l.get? node).map Node.url = (entries.map normalizeUrl)[node]?) ∧
        ∀ node, l.frontier node = 0) ∧
    (∀ fault, ofUrls entries = .error fault ↔
      entries = [] ∧ fault = .emptyList ∨
        ∃ k, FirstFlaw (entries.map normalizeUrl) k fault) ∧
    ∀ k fault, FirstFlaw (entries.map normalizeUrl) k fault →
      ∀ more, ofUrls (entries.take (k + 1) ++ more) = .error fault := by
  refine ⟨fun entry url => normalizeUrl_eq_iff, ?_, ?_, fun fault => ofUrls_eq_error_iff, ?_⟩
  · rw [← isOk_ofUrls_iff]
    cases ofUrls entries <;> simp [Except.isOk, Except.toBool]
  · intro l h
    obtain ⟨-, -, -, hnodes⟩ := ofUrls_eq_ok_iff.mp h
    refine ⟨urls_of_ofUrls h, ?_, fun node => ?_, fun node => ?_⟩
    · rw [size, hnodes, List.length_map]
    · rw [get?, ← List.getElem?_map, ← urls_of_ofUrls h, urls]
    · unfold frontier get?
      cases hnode : l.nodes[node]? with
      | none => rfl
      | some n =>
        have hquiet : n.chain = none := chain_of_ofUrls h (List.mem_of_getElem? hnode)
        simp [Node.irreversible, hquiet]
  · intro k fault hk more
    have hlt : k < entries.length := by
      simpa using hk.flawed.lt_length
    refine ofUrls_eq_error_iff.mpr (Or.inr ⟨k, ?_⟩)
    have htake : k < ((entries.take (k + 1)).map normalizeUrl).length := by
      rw [List.length_map, List.length_take]
      omega
    -- what stands behind the flaw may be exchanged
    rw [List.map_append, firstFlaw_append_iff htake]
    rw [← List.take_append_drop (k + 1) entries, List.map_append, firstFlaw_append_iff htake] at hk
    exact hk

end ChainWatch.NodeList
