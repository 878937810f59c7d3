import ChainWatch.Proofs.Wire.Command

/-!
# What is read as a command can be written

A command has one text that it is written as, and many that are read as it: arrays in the place of
objects, members in any order, members that no field asks for, names that stand twice in free-form
data. `Command.parse?_write` starts from the command. Here we start from the text.

Two things could keep a command from being read back, and reading has excluded both:

* a debug value that is `null`, which reading never gives (`RunRequest.debug_of_ofJson?`);
* a tree that nests too deep. Reading drops members and sorts them but wraps nothing, so what is
  read nests no deeper than the text (`Json.Value.depth_toTree_le`), and the text was not too deep.

Both hold as long as the debug value has no texts in it to open: the text of `null` in a text is
read as `null`, and texts in one another may nest as deep as they like together. So on this side too
the tree of the debug value has to be plain (`Command.debugTree?`). That what is read is plain again
does not follow, since members are put in order on the way.

`command_codec` puts both directions together, and `embedded_texts_lost` shows that neither can do
without its condition.
-/

namespace ChainWatch

namespace Json

/-- What is read item by item comes from an item. -/
theorem exists_of_mem_mapM {α β : Type} {read : α → Option β} {as : List α} {bs : List β}
    (h : as.mapM read = some bs) {b : β} (hb : b ∈ bs) : ∃ a ∈ as, read a = some b := by
  induction as generalizing bs with
  | nil =>
    cases h
    cases hb
  | cons a as ih =>
    simp only [List.mapM_cons, Option.bind_eq_bind, Option.bind_eq_some_iff] at h
    obtain ⟨first, hfirst, rest, hrest, h⟩ := h
    cases h
    rcases List.mem_cons.mp hb with rfl | hb
    · exact ⟨a, List.mem_cons_self .., hfirst⟩
    · obtain ⟨c, hc, hread⟩ := ih hrest hb
      exact ⟨c, List.mem_cons_of_mem a hc, hread⟩

/-! ### Depth of parts -/

namespace Tree

theorem depth_le_of_mem_items {t : Tree} {ts : List Tree} (h : t ∈ ts) :
    t.depth ≤ depthOfItems ts := by
  induction ts with
  | nil => cases h
  | cons u ts ih =>
    rw [depthOfItems]
    rcases List.mem_cons.mp h with rfl | h
    · exact Nat.le_max_left _ _
    · exact Nat.le_trans (ih h) (Nat.le_max_right _ _)

theorem depth_le_of_mem_members {m : Member} {ms : List Member} (h : m ∈ ms) :
    m.2.depth ≤ depthOfMembers ms := by
  induction ms with
  | nil => cases h
  | cons head ms ih =>
    rw [depthOfMembers]
    rcases List.mem_cons.mp h with rfl | h
    · exact Nat.le_max_left _ _
    · exact Nat.le_trans (ih h) (Nat.le_max_right _ _)

theorem depthOfItems_le {ts : List Tree} {n : Nat} (h : ∀ t ∈ ts, t.depth ≤ n) :
    depthOfItems ts ≤ n := by
  induction ts with
  | nil => exact Nat.zero_le n
  | cons t ts ih =>
    rw [List.forall_mem_cons] at h
    rw [depthOfItems]
    exact Nat.max_le.mpr ⟨h.1, ih h.2⟩

theorem depthOfMembers_le {ms : List Member} {n : Nat} (h : ∀ m ∈ ms, m.2.depth ≤ n) :
    depthOfMembers ms ≤ n := by
  induction ms with
  | nil => exact Nat.zero_le n
  | cons m ms ih =>
    rw [List.forall_mem_cons] at h
    rw [depthOfMembers]
    exact Nat.max_le.mpr ⟨h.1, ih h.2⟩

theorem depth_record_le {fields : List (String × Tree)} {n : Nat}
    (h : ∀ f ∈ fields, f.2.depth ≤ n) : (record fields).depth ≤ n + 1 := by
  rw [record, depth]
  refine Nat.succ_le_succ (depthOfMembers_le fun m hm => ?_)
  obtain ⟨f, hf, rfl⟩ := List.mem_map.mp hm
  exact h f hf

/-- The fields of a record nest less deep than the record, in either of its two forms. -/
theorem depth_lt_of_fields? {names : List String} {t u : Tree} {values : List (Option Tree)}
    (h : t.fields? names = some values) (hu : some u ∈ values) : u.depth < t.depth := by
  cases t with
  | object ms =>
    rw [fields?] at h
    split at h
    · obtain ⟨name, -, hname⟩ := exists_of_mem_mapM h hu
      unfold uniqueMember? at hname
      split at hname
      · cases hname
      · next m hone =>
        cases hname
        -- the field is one of the members, and the only one of its name
        have hm : m ∈ ms.filter fun m => m.1 == some name := by
          rw [hone]
          exact List.mem_singleton_self m
        exact Nat.lt_succ_of_le (depth_le_of_mem_members (List.mem_filter.mp hm).1)
      · cases hname
    · cases h
  | array ts =>
    rw [fields?] at h
    split at h
    · cases h
      -- the items come first, and the fields without one are absent
      rcases List.mem_append.mp hu with hthere | hmissing
      · obtain ⟨item, hitem, heq⟩ := List.mem_map.mp hthere
        cases heq
        exact Nat.lt_succ_of_le (depth_le_of_mem_items hitem)
      · cases List.eq_of_mem_replicate hmissing
    · cases h
  | _ => cases h

theorem nullable?_of_ne {α : Type} {read : Tree → Option α} {t : Tree} (h : t ≠ .null) :
    t.nullable? read = (read t).map some := by
  cases t with
  | null => exact absurd rfl h
  | _ => rfl

/-- The fields of a tagged value nest no deeper than was left for the whole of it. -/
theorem depth_le_of_tagged? {tag variant : String} {levels : Nat} {t fields : Tree}
    (h : t.tagged? tag levels = some (variant, fields)) : fields.depth ≤ levels := by
  unfold tagged? at h
  split at h
  · next hwhole =>
    rw [Bool.and_eq_true, decide_eq_true_eq] at hwhole
    refine Nat.le_trans ?_ hwhole.2
    split at h
    · next ms =>
      split at h
      · -- the members without the tag are some of the members
        cases h
        exact Nat.succ_le_succ <| depthOfMembers_le fun m hm =>
          depth_le_of_mem_members (List.mem_filter.mp hm).1
      · cases h
    · next s ts =>
      cases h
      exact Nat.succ_le_succ <| depthOfItems_le fun t ht =>
        depth_le_of_mem_items (List.mem_cons_of_mem _ ht)
    · cases h
  · cases h

end Tree

/-! ### Depth of what is read -/

namespace Value

/-- A member that is put among others takes no more room than they and it do. -/
theorem depth_insertMember_le (name : String) (v : Value) (ms : List (String × Value)) :
    Tree.depthOfMembers (toMembers (insertMember name v ms))
      ≤ max v.toTree.depth (Tree.depthOfMembers (toMembers ms)) := by
  induction ms with
  | nil => exact Nat.le_refl _
  | cons m ms ih =>
    obtain ⟨n, w⟩ := m
    rw [insertMember]
    split
    · exact Nat.le_refl _
    · split
      · -- the member takes the place of another one
        simp only [toMembers, Tree.depthOfMembers]
        omega
      · simp only [toMembers, Tree.depthOfMembers]
        omega

section Embedded

variable {embedded : String → Option Value}

mutual

/-- What a plain tree is read as nests no deeper than the tree. -/
theorem depth_toTree_le : ∀ {t : Tree} {v : Value}, t.isPlain = true →
    ofTreeWith? embedded t = some v → v.toTree.depth ≤ t.depth
  | .null, v, _, h => by
    cases h
    exact Nat.le_refl _
  | .bool b, v, _, h => by
    cases h
    exact Nat.le_refl _
  | .number n, v, _, h => by
    rw [ofTreeWith?] at h
    obtain ⟨_, -, rfl⟩ := Option.map_eq_some_iff.mp h
    exact Nat.le_refl _
  | .string s, v, _, h => by
    rw [ofTreeWith?] at h
    obtain ⟨_, -, rfl⟩ := Option.map_eq_some_iff.mp h
    exact Nat.le_refl _
  | .array ts, v, hplain, h => by
    rw [Tree.isPlain] at hplain
    rw [ofTreeWith?] at h
    obtain ⟨vs, hvs, rfl⟩ := Option.map_eq_some_iff.mp h
    rw [toTree]
    exact Nat.succ_le_succ (depth_toItems_le hplain hvs)
  | .object ms, v, hplain, h => by
    rw [Tree.isPlain, Bool.and_eq_true, Bool.not_eq_true'] at hplain
    rw [ofTreeWith?, if_neg (Bool.eq_false_iff.mp hplain.1)] at h
    obtain ⟨vs, hvs, rfl⟩ := Option.map_eq_some_iff.mp h
    rw [toTree]
    exact Nat.succ_le_succ
      (depth_toMembers_le hplain.2 hvs (Nat.zero_le _) (Nat.le_refl _))

theorem depth_toItems_le : ∀ {ts : List Tree} {vs : List Value}, Tree.arePlainItems ts = true →
    ofItemsWith? embedded ts = some vs → Tree.depthOfItems (toItems vs) ≤ Tree.depthOfItems ts
  | [], vs, _, h => by
    cases h
    exact Nat.le_refl _
  | t :: ts, vs, hplain, h => by
    rw [Tree.arePlainItems, Bool.and_eq_true] at hplain
    rw [ofItemsWith?] at h
    simp only [Option.bind_eq_bind, Option.bind_eq_some_iff] at h
    obtain ⟨v, hv, rest, hrest, h⟩ := h
    cases h
    have hfirst := depth_toTree_le hplain.1 hv
    have hothers := depth_toItems_le hplain.2 hrest
    simp only [toItems, Tree.depthOfItems]
    omega

/-- The members are put among those that were read before, so both are bounded together. -/
theorem depth_toMembers_le : ∀ {ms : List Member} {read out : List (String × Value)} {n : Nat},
    Tree.arePlainMembers ms = true → ofMembersWith? embedded read ms = some out →
      Tree.depthOfMembers (toMembers read) ≤ n → Tree.depthOfMembers ms ≤ n →
        Tree.depthOfMembers (toMembers out) ≤ n
  | [], read, out, n, _, h, hread, _ => by
    cases h
    exact hread
  | (name, t) :: ms, read, out, n, hplain, h, hread, hms => by
    rw [Tree.arePlainMembers, Bool.and_eq_true] at hplain
    rw [ofMembersWith?] at h
    simp only [Option.bind_eq_bind, Option.bind_eq_some_iff] at h
    obtain ⟨name, -, v, hv, h⟩ := h
    rw [Tree.depthOfMembers, Nat.max_le] at hms
    have hfirst := Nat.le_trans (depth_toTree_le hplain.1 hv) hms.1
    have hmore : Tree.depthOfMembers (toMembers (insertMember name v read)) ≤ n :=
      Nat.le_trans (depth_insertMember_le name v read) (Nat.max_le.mpr ⟨hfirst, hread⟩)
    exact depth_toMembers_le hplain.2 h hmore hms.2

end

end Embedded

/-- Of the plain trees only that of `null` is read as `null`. -/
theorem eq_null_of_ofTree? {t : Tree} (hplain : t.isPlain = true) (h : ofTree? t = some .null) :
    t = .null := by
  cases t with
  | null => rfl
  -- an object is read as an object, for it does not begin with a text
  | object ms =>
    rw [Tree.isPlain, Bool.and_eq_true, Bool.not_eq_true'] at hplain
    rw [ofTree?, ofTreeWith?, if_neg (Bool.eq_false_iff.mp hplain.1)] at h
    obtain ⟨_, -, heq⟩ := Option.map_eq_some_iff.mp h
    cases heq
  | _ => simp [ofTree?, ofTreeWith?] at h

end Value

namespace FreeForm

/-- Free-form data in a field is never `null`, and nests no deeper than the field, if the field is
plain. -/
theorem of_optional {t : Tree} {f : FreeForm} (hplain : t.isPlain = true)
    (h : optional ofTree? (some t) = some (some f)) :
    f.isNull = false ∧ f.toTree.depth ≤ t.depth := by
  -- a field that is `null` is left out
  have hne : t ≠ .null := by
    rintro rfl
    cases h
  rw [optional, Tree.nullable?_of_ne hne] at h
  obtain ⟨g, hread, heq⟩ := Option.map_eq_some_iff.mp h
  cases heq
  have hvalue := ofTree?_eq_some_iff.mp hread
  refine ⟨?_, Value.depth_toTree_le hplain hvalue⟩
  unfold isNull
  split
  · next hnull =>
    rw [hnull] at hvalue
    exact absurd (Value.eq_null_of_ofTree? hplain hvalue) hne
  · rfl

end FreeForm

end Json

open Json (Tree FreeForm required optional optionalMember maxDepth)

/-- One half. -/
def Binary64.half : Binary64 := ⟨0x3FE0000000000000⟩

theorem Binary64.survives_half : half.Survives := by
  have hwrite : half.write jsonStyle = ['0', '.', '5'] := by decide +kernel
  refine ⟨by decide, ?_⟩
  rw [Json.Number.Survives, Json.Number.write, hwrite]
  rfl

/-! ### Commands that are read -/

namespace RunRequest

/-- The tree that the debug value of a request is read off, if there is one. -/
def debugTree? (t : Tree) : Option Tree := do
  match ← t.fields? ["freq", "amount", "url", "users", "debug"] with
  | [_, _, _, _, debug] => debug
  | _ => none

/-- The debug value of a request that is read is a value, and nests less deep than the request, if
its tree is plain. -/
theorem debug_of_ofJson? {t : Tree} {r : RunRequest} (h : ofJson? t = some r)
    (hplain : ∀ u ∈ debugTree? t, u.isPlain = true) {f : FreeForm} (hf : r.debug = some f) :
    f.isNull = false ∧ f.toTree.depth < t.depth := by
  simp only [ofJson?, Option.bind_eq_bind, Option.bind_eq_some_iff] at h
  obtain ⟨values, hvalues, h⟩ := h
  split at h
  · next freq amount url users debug =>
    simp only [Option.bind_eq_some_iff] at h
    obtain ⟨_, -, _, -, _, -, _, -, o, ho, h⟩ := h
    cases h
    obtain rfl : o = some f := hf
    cases debug with
    | none => cases ho
    | some u =>
      have hu : debugTree? t = some u := by
        rw [debugTree?, hvalues]
        rfl
      -- the value is one of the fields, which nest less deep than the request
      obtain ⟨hnull, hdepth⟩ := FreeForm.of_optional (hplain u hu) ho
      exact ⟨hnull, Nat.lt_of_le_of_lt hdepth (Tree.depth_lt_of_fields? hvalues (by simp))⟩
  · cases h

theorem depth_members_le {r : RunRequest} {n : Nat}
    (h : ∀ f, r.debug = some f → f.toTree.depth ≤ n) : ∀ m ∈ r.members, m.2.depth ≤ n := by
  -- numbers and strings do not nest
  have hleaf {name : String} {o : Option String} :
      ∀ m ∈ optionalMember name Tree.text o, m.2.depth ≤ n := by
    cases o <;> simp [optionalMember, Tree.text, Tree.depth]
  have hdebug : ∀ m ∈ optionalMember "debug" FreeForm.toTree r.debug, m.2.depth ≤ n := by
    cases hsome : r.debug with
    | none => simp [optionalMember]
    | some f => simpa [optionalMember] using h f hsome
  have hfreq : (freqToJson r.freq).depth ≤ n := by
    unfold freqToJson
    split <;> exact Nat.zero_le n
  unfold members
  simp only [List.forall_mem_append, List.forall_mem_cons]
  exact ⟨⟨⟨⟨hfreq, Nat.zero_le n, by simp⟩, hleaf⟩, hleaf⟩, hdebug⟩

end RunRequest

namespace Command

/-- The tree that the debug value of a command is read off, if its text has one. -/
def debugTree? (text : String) : Option Tree := do
  let t ← Tree.read? text
  let (variant, fields) ← t.tagged? tag maxDepth
  if variant = "run" then RunRequest.debugTree? fields else none

theorem normal_eq_self {c : Command} (h : ∀ f, c.debug? = some f → f.isNull = false) :
    c.normal = c := by
  cases c with
  | run r =>
    have hdebug : (r.debug.filter fun f => !f.isNull) = r.debug := by
      cases hsome : r.debug with
      | none => rfl
      | some f => simp [Option.filter, h f hsome]
    rw [normal, RunRequest.normal, hdebug]
  | _ => rfl

/-- Only the free-form part can make a command nest deep. -/
theorem depth_toJson_le {c : Command} (h : ∀ f, c.debug? = some f → f.toTree.depth < maxDepth) :
    c.toJson.depth ≤ maxDepth := by
  have hrecord {fields : List (String × Tree)} (hfields : ∀ f ∈ fields, f.2.depth ≤ maxDepth - 1) :
      (Tree.record ((tag, .text c.name) :: fields)).depth ≤ maxDepth :=
    Tree.depth_record_le (List.forall_mem_cons.mpr ⟨Nat.zero_le _, hfields⟩)
  cases c with
  | watches nodes =>
    refine hrecord (List.forall_mem_singleton.mpr ?_)
    -- a list of strings nests once
    have hitems : Tree.depthOfItems (nodes.map Tree.text) ≤ 0 := by
      refine Tree.depthOfItems_le fun t ht => ?_
      obtain ⟨s, -, rfl⟩ := List.mem_map.mp ht
      exact Nat.le_refl 0
    exact Nat.le_trans (Nat.succ_le_succ hitems) (by decide)
  | run r => exact hrecord (RunRequest.depth_members_le fun f hf => Nat.le_pred_of_lt (h f hf))
  | stop => exact hrecord (by simp)

/-- Of the three variants only one has fields that are read as a request. -/
theorem ofJson?_of_ofVariant? {variant : String} {t : Tree} {r : RunRequest}
    (h : ofVariant? variant t = some (.run r)) :
    variant = "run" ∧ RunRequest.ofJson? t = some r := by
  unfold ofVariant? at h
  -- the name of the variant decides how the fields are read
  split at h
  · simp only [Option.bind_eq_bind, Option.bind_eq_some_iff] at h
    obtain ⟨_, -, h⟩ := h
    split at h
    · obtain ⟨_, -, heq⟩ := Option.bind_eq_some_iff.mp h
      cases heq
    · cases h
  · split at h
    · next hrun =>
      obtain ⟨r', hr', heq⟩ := Option.map_eq_some_iff.mp h
      cases heq
      exact ⟨hrun, hr'⟩
    · split at h
      · split at h <;> cases h
      · cases h

/-- What is read as a command has a free-form part that is a value, and there is room around it, if
the tree of this part is plain. -/
theorem debug?_of_parse? {text : String} {c : Command} (h : parse? text = some c)
    (hplain : ∀ t ∈ debugTree? text, t.isPlain = true) {f : FreeForm} (hf : c.debug? = some f) :
    f.isNull = false ∧ f.toTree.depth < maxDepth := by
  obtain ⟨t, ht, h⟩ := Option.bind_eq_some_iff.mp h
  obtain ⟨⟨variant, fields⟩, htagged, hvariant⟩ := Option.bind_eq_some_iff.mp h
  cases c with
  | run r =>
    obtain ⟨rfl, hr⟩ := ofJson?_of_ofVariant? hvariant
    -- both look at the same fields
    have htree : debugTree? text = RunRequest.debugTree? fields := by
      rw [debugTree?, ht, Option.bind_eq_bind, Option.bind_some, htagged]
      rfl
    rw [htree] at hplain
    obtain ⟨hnull, hdepth⟩ := RunRequest.debug_of_ofJson? hr hplain hf
    exact ⟨hnull, Nat.lt_of_lt_of_le hdepth (Tree.depth_le_of_tagged? htagged)⟩
  | _ => cases hf

/-- **Commands and their texts.** The text of a command is read as the command in its normal form,
if its doubles survive, it does not nest too deep, and no object in its debug value is written with
`embeddedName` in front. And whatever text is read as a command, if no object in its debug value
begins with that name, then the debug value of the command is not `null`, and the command reads back
from the text that it is written as, under the same conditions on doubles and objects. -/
theorem command_codec :
    (∀ c : Command, (∀ x ∈ c.floats, x.Survives) → c.toJson.depth ≤ maxDepth → c.IsPlain →
      parse? c.write = some c.normal) ∧
    ∀ text c, parse? text = some c → (∀ t ∈ debugTree? text, t.isPlain = true) →
      (∀ f, c.debug? = some f → f.value ≠ .null) ∧
      ((∀ x ∈ c.floats, x.Survives) → c.IsPlain → parse? c.write = some c) := by
  refine ⟨fun c hfloats hdepth hplain => parse?_write hfloats hdepth hplain,
    fun text c h htext => ?_⟩
  -- the second half: reading has excluded what could keep the command from being read back
  have hdebug {f : FreeForm} (hf : c.debug? = some f) := debug?_of_parse? h htext hf
  constructor
  · intro f hf hnull
    have hnot := (hdebug hf).1
    rw [FreeForm.isNull, hnull] at hnot
    cases hnot
  · intro hfloats hplain
    have hdepth : c.toJson.depth ≤ maxDepth := depth_toJson_le fun f hf => (hdebug hf).2
    rw [parse?_write hfloats hdepth hplain, normal_eq_self fun f hf => (hdebug hf).1]

/-- A command whose tag comes late, with a member that nobody asks for and a name that stands twice
in the free-form part. -/
def scrambled : String :=
  "\x7b\"amount\":3,\"x\":[0],\"func\":\"run\"," ++
    "\"debug\":\x7b\"b\":1,\"a\":[0.5],\"b\":null\x7d,\"freq\":5e-1\x7d"

/-- What it is written as once it has been read. -/
def straightened : String :=
  "\x7b\"func\":\"run\",\"freq\":0.5,\"amount\":3,\"debug\":\x7b\"a\":[0.5],\"b\":null\x7d\x7d"

/-- A command whose debug value is `null` loses it, and the scrambled one settles down. -/
theorem command_codec_scrambled :
    parse? (Command.run ⟨.half, 3, none, none, some .null⟩).write
      = some (.run ⟨.half, 3, none, none, none⟩) ∧
    ∃ c, parse? scrambled = some c ∧ c.write = straightened ∧ parse? straightened = some c := by
  constructor
  · refine command_codec.1 (.run ⟨.half, 3, none, none, some .null⟩) (fun x hx => ?_) (by decide) ?_
    · rw [List.mem_singleton.mp hx]
      exact Binary64.survives_half
    · intro f hf
      cases hf
      rfl
  · have hread : (parse? scrambled).map
        (fun c => (c.write, c.floats, c.debug?.map fun f => f.toTree.isPlain))
        = some (straightened, [Binary64.half, .half], some true) := by
      decide +kernel
    have htext : (debugTree? scrambled).map Tree.isPlain = some true := by decide +kernel
    obtain ⟨c, hc, heq⟩ := Option.map_eq_some_iff.mp hread
    obtain ⟨hwrite, heq⟩ := Prod.mk.inj heq
    obtain ⟨hfloats, hplain⟩ := Prod.mk.inj heq
    refine ⟨c, hc, hwrite, ?_⟩
    rw [← hwrite]
    refine (command_codec.2 scrambled c hc fun t ht => ?_).2 (fun x hx => ?_) fun f hf => ?_
    · rw [Option.mem_def.mp ht] at htext
      exact Option.some.inj htext
    · rw [hfloats] at hx
      rcases List.mem_pair.mp hx with rfl | rfl <;> exact Binary64.survives_half
    · rw [Option.mem_def.mp hf] at hplain
      exact Option.some.inj hplain

/-- A command whose debug value is an object with one member, which would hold a text that is not
JSON. -/
def misleading : Command :=
  .run ⟨.half, 3, none, none,
    some ⟨.object [(Json.embeddedName, .string "x")],
      by simp [Json.Value.IsOrdered, Json.Value.AreOrderedMembers, Json.Value.namesAbove]⟩⟩

/-- Its doubles survive and it does not nest too deep, but its text is no command. -/
theorem misleading_lost : (∀ x ∈ misleading.floats, x.Survives) ∧
    misleading.toJson.depth ≤ maxDepth ∧ parse? misleading.write = none := by
  refine ⟨fun x hx => ?_, by decide, Option.isNone_iff_eq_none.mp (by decide +kernel)⟩
  rw [List.mem_singleton.mp hx]
  exact Binary64.survives_half

/-- A command whose debug value holds the text of `null`. -/
def wrappedNull : String :=
  "\x7b\"func\":\"run\",\"freq\":0.5,\"amount\":3," ++
    "\"debug\":\x7b\"$serde_json::private::RawValue\":\"null\"\x7d\x7d"

/-- Without the conditions on objects neither direction holds. A command need not read back, though
its doubles survive and it does not nest too deep; and a text can be read as a command whose debug
value is `null`, and which does not read back either. -/
theorem embedded_texts_lost :
    ((∀ x ∈ misleading.floats, x.Survives) ∧ misleading.toJson.depth ≤ maxDepth ∧
      parse? misleading.write = none) ∧
    ∃ c, parse? wrappedNull = some c ∧ (∀ x ∈ c.floats, x.Survives) ∧
      (∃ f, c.debug? = some f ∧ f.value = .null) ∧ parse? c.write ≠ some c := by
  -- the first direction fails at `misleading`, the second at `wrappedNull`
  refine ⟨misleading_lost, ?_⟩
  have hread : (parse? wrappedNull).map (fun c => (c.floats, c.debug?.map FreeForm.isNull,
        ((parse? c.write).bind debug?).isNone))
      = some ([Binary64.half], some true, true) := by
    decide +kernel
  obtain ⟨c, hc, heq⟩ := Option.map_eq_some_iff.mp hread
  obtain ⟨hfloats, heq⟩ := Prod.mk.inj heq
  obtain ⟨hnull, hlost⟩ := Prod.mk.inj heq
  obtain ⟨f, hf, hnull⟩ := Option.map_eq_some_iff.mp hnull
  refine ⟨c, hc, fun x hx => ?_, ⟨f, hf, FreeForm.isNull_iff.mp hnull⟩, fun hback => ?_⟩
  · rw [hfloats] at hx
    rw [List.mem_singleton.mp hx]
    exact Binary64.survives_half
  · -- the command that is read back has no debug value
    rw [hback, Option.bind_some, hf] at hlost
    cases hlost

end Command

end ChainWatch
