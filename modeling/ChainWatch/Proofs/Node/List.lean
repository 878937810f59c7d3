import ChainWatch.Node.List

/-!
# Which lists of urls name nodes

A list of urls is read from left to right, and reading stops at the first fault. Whether there is a
fault is a matter of the entries and not of their order: a list is read exactly if it has an entry,
no entry is empty, and no two entries name one node (`isOk_ofUrls_iff`). So a list that is read is
read in any other order too (`exists_ofUrls_of_perm`).

What is read are nodes that have said nothing yet, so their urls tell everything about them
(`eq_of_urls_eq`).
-/

namespace ChainWatch

namespace NodeList

variable {seen entries entries' urls : List String} {l l' : NodeList}

/-- A list of nodes is its nodes; that there is one of them is a proof. -/
theorem ext_nodes (h : l.nodes = l'.nodes) : l = l' := by
  cases l
  cases l'
  cases h
  rfl

/-- There is a node, so there is a url. -/
theorem urls_ne_nil (l : NodeList) : l.urls ≠ [] :=
  fun h => l.nodes_ne_nil (List.map_eq_nil_iff.mp h)

/-- What reading gives when some urls have been seen before: every entry in its normal form, none of
them empty or seen, and no two alike. The induction is on the entries, and the urls seen grow with
it. -/
theorem readUrls_eq_ok_iff :
    readUrls seen entries = .ok urls ↔
      urls = entries.map normalizeUrl ∧ (∀ u ∈ urls, u ≠ "" ∧ u ∉ seen) ∧ urls.Nodup := by
  constructor
  · exact eq_map_of_readUrls
  rintro ⟨rfl, hnew, hnodup⟩
  induction entries generalizing seen with
  | nil => rfl
  | cons entry entries ih =>
    obtain ⟨hfirst, hnew⟩ := List.forall_mem_cons.mp hnew
    obtain ⟨hapart, hnodup⟩ := List.nodup_cons.mp hnodup
    have hrest : readUrls (normalizeUrl entry :: seen) entries
        = .ok (entries.map normalizeUrl) := by
      refine ih (fun u hu => ⟨(hnew u hu).1, ?_⟩) hnodup
      -- an entry further on is not the one that was just read
      rw [List.mem_cons, not_or]
      exact ⟨fun heq => hapart (heq ▸ hu), (hnew u hu).2⟩
    rw [readUrls, if_neg hfirst.1, if_neg hfirst.2, hrest]
    rfl

/-- What a list of urls must be like, and what is read from it. -/
theorem ofUrls_eq_ok_iff :
    ofUrls entries = .ok l ↔
      entries ≠ [] ∧ (∀ entry ∈ entries, normalizeUrl entry ≠ "") ∧
        (entries.map normalizeUrl).Nodup ∧
        l.nodes = entries.map fun entry => { url := normalizeUrl entry } := by
  constructor
  · intro h
    unfold ofUrls at h
    split at h
    · cases h
    · cases h
    · next url urls hread =>
      obtain ⟨hurls, hnew, hnodup⟩ := readUrls_eq_ok_iff.mp hread
      cases h
      rw [hurls] at hnew hnodup
      refine ⟨?_, fun entry hmem => (hnew _ (List.mem_map_of_mem hmem)).1, hnodup, ?_⟩
      · rintro rfl
        cases hurls
      · simp only [hurls, List.map_map, Function.comp_def]
  · rintro ⟨hne, hsome, hnodup, hnodes⟩
    have hread : readUrls [] entries = .ok (entries.map normalizeUrl) := by
      refine readUrls_eq_ok_iff.mpr ⟨rfl, fun u hu => ?_, hnodup⟩
      obtain ⟨entry, hmem, rfl⟩ := List.mem_map.mp hu
      exact ⟨hsome entry hmem, List.not_mem_nil⟩
    unfold ofUrls
    split
    · next hfault =>
      rw [hread] at hfault
      cases hfault
    · next hnone =>
      rw [hread, Except.ok.injEq, List.map_eq_nil_iff] at hnone
      exact absurd hnone hne
    · next hsome =>
      rw [hread, Except.ok.injEq] at hsome
      refine congrArg Except.ok (ext_nodes ?_)
      simp only [← hsome, List.map_map, hnodes, Function.comp_def]

/-- Of nodes that were just read, the urls tell everything. -/
theorem nodes_of_ofUrls (h : ofUrls entries = .ok l) :
    l.nodes = l.urls.map fun url => { url := url } := by
  obtain ⟨-, -, -, hnodes⟩ := ofUrls_eq_ok_iff.mp h
  unfold urls
  simp only [hnodes, List.map_map, Function.comp_def]

/-- A list that is read has the normal forms of its entries as urls. -/
theorem urls_of_ofUrls (h : ofUrls entries = .ok l) : l.urls = entries.map normalizeUrl := by
  obtain ⟨-, -, -, hnodes⟩ := ofUrls_eq_ok_iff.mp h
  rw [urls, hnodes, List.map_map]
  rfl

/-- Two lists that were read and have the same urls are the same. -/
theorem eq_of_urls_eq (h : ofUrls entries = .ok l) (h' : ofUrls entries' = .ok l')
    (hurls : l.urls = l'.urls) : l = l' := by
  apply ext_nodes
  rw [nodes_of_ofUrls h, nodes_of_ofUrls h', hurls]

/-- No node of a list that was read has said anything yet. -/
theorem chain_of_ofUrls (h : ofUrls entries = .ok l) {n : Node} (hn : n ∈ l.nodes) :
    n.chain = none := by
  rw [nodes_of_ofUrls h] at hn
  obtain ⟨url, -, rfl⟩ := List.mem_map.mp hn
  rfl

/-- **Which lists are read.** The order of the entries does not occur in the condition. -/
theorem isOk_ofUrls_iff :
    (ofUrls entries).isOk = true ↔
      entries ≠ [] ∧ (∀ entry ∈ entries, normalizeUrl entry ≠ "") ∧
        (entries.map normalizeUrl).Nodup := by
  constructor
  · intro hok
    cases h : ofUrls entries with
    | error fault =>
      rw [h] at hok
      cases hok
    | ok l =>
      obtain ⟨hne, hsome, hnodup, -⟩ := ofUrls_eq_ok_iff.mp h
      exact ⟨hne, hsome, hnodup⟩
  · rintro ⟨hne, hsome, hnodup⟩
    -- the nodes that are to be read make a list as its type wants it
    have hread : ofUrls entries = .ok
        ⟨entries.map fun entry => { url := normalizeUrl entry },
          fun hnil => hne (List.map_eq_nil_iff.mp hnil), by rwa [List.map_map]⟩ :=
      ofUrls_eq_ok_iff.mpr ⟨hne, hsome, hnodup, rfl⟩
    rw [hread]
    rfl

/-- A list that is read is read in any other order. -/
theorem exists_ofUrls_of_perm (h : ofUrls entries = .ok l) (hperm : entries.Perm entries') :
    ∃ l', ofUrls entries' = .ok l' := by
  obtain ⟨hne, hsome, hnodup, -⟩ := ofUrls_eq_ok_iff.mp h
  have hok : (ofUrls entries').isOk = true := by
    refine isOk_ofUrls_iff.mpr ⟨?_, ?_, (hperm.map normalizeUrl).nodup hnodup⟩
    · rintro rfl
      exact hne hperm.eq_nil
    · intro entry hmem
      exact hsome entry (hperm.mem_iff.mpr hmem)
  cases hread : ofUrls entries' with
  | error fault =>
    rw [hread] at hok
    cases hok
  | ok l' => exact ⟨l', rfl⟩

end NodeList

end ChainWatch
