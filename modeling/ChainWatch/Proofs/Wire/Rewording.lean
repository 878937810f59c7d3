import ChainWatch.Proofs.Wire.Reading

/-!
# Objects that read the same

Nodes send large answers, with many members that nobody asks for and in an order that they do not
promise. An object may be reworded: its members may change places, and a member may be put in or
left out anywhere if its name is foreign to the reader and the reader can skip its value
(`Json.Reworded`). A reader that knows only some names reads all wordings of an object alike: as one
value, or as none (`Json.KnowsOnly`). A name that is known may stand twice; then no wording is read.

What a reader can skip depends on how it goes about the object:

* The fields of a record are looked up under their names, and everything else may be anything at
  all (`Json.KnowsOnly.fields`).
* A tagged value is kept as a whole until its tag is found, so that all of it must be readable and
  may not nest too deep (`Json.Kept`). What is left without the tag is reworded when the whole is,
  and it goes to a reader that must itself know only the names (`Json.KnowsOnly.tagged`).

For both it is enough to look at two steps, an exchange of members and one more member in front
(`Json.Reworded.eq_of_steps`). `wire_reworded` goes through the types.
-/

namespace ChainWatch

namespace Json

section Reworded

variable {known : List String} {skippable : Tree → Prop}

/-- A member that a reader of the names in `known` passes by. -/
structure Foreign (known : List String) (skippable : Tree → Prop) (m : Member) : Prop where
  name : ∃ name, m.1 = some name ∧ name ∉ known
  value : skippable m.2

/-- Two lists of members that say the same under the names in `known`: one comes from the other by
moving members, putting foreign ones in and leaving foreign ones out. -/
inductive Reworded (known : List String) (skippable : Tree → Prop) :
    List Member → List Member → Prop
  | moved {ms ms' : List Member} (h : ms.Perm ms') : Reworded known skippable ms ms'
  | inserted {before after : List Member} {m : Member} (h : Foreign known skippable m) :
      Reworded known skippable (before ++ after) (before ++ m :: after)
  | deleted {before after : List Member} {m : Member} (h : Foreign known skippable m) :
      Reworded known skippable (before ++ m :: after) (before ++ after)
  | trans {ms ms' ms'' : List Member} (h : Reworded known skippable ms ms')
      (h' : Reworded known skippable ms' ms'') : Reworded known skippable ms ms''

/-- The reader knows only these names: it reads all wordings of an object alike. -/
def KnowsOnly {α : Type} (known : List String) (skippable : Tree → Prop)
    (read : Tree → Option α) : Prop :=
  ∀ ms ms', Reworded known skippable ms ms' → read (.object ms) = read (.object ms')

/-- What an exchange of members and a foreign member in front leave unchanged, every rewording
leaves unchanged. -/
theorem Reworded.eq_of_steps {β : Type} {f : List Member → β}
    (hmove : ∀ {ms ms' : List Member}, ms.Perm ms' → f ms = f ms')
    (hfront : ∀ {m : Member} (ms : List Member), Foreign known skippable m → f (m :: ms) = f ms)
    {ms ms' : List Member} (h : Reworded known skippable ms ms') : f ms = f ms' := by
  have hinsert (before after : List Member) {m : Member} (hm : Foreign known skippable m) :
      f (before ++ m :: after) = f (before ++ after) :=
    calc f (before ++ m :: after)
      _ = f (m :: (before ++ after)) := hmove List.perm_middle
      _ = f (before ++ after) := hfront _ hm
  induction h with
  | moved h => exact hmove h
  | inserted hm => exact (hinsert _ _ hm).symm
  | deleted hm => exact hinsert _ _ hm
  | trans _ _ ih ih' => exact ih.trans ih'

theorem Reworded.front {m : Member} (hm : Foreign known skippable m) (ms : List Member) :
    Reworded known skippable (m :: ms) ms :=
  @deleted known skippable [] ms m hm

theorem Foreign.beq_eq_false {m : Member} (hm : Foreign known skippable m) {name : String}
    (hname : name ∈ known) : (m.1 == some name) = false := by
  obtain ⟨other, hother, hnot⟩ := hm.name
  rw [hother]
  refine beq_false_of_ne fun heq => hnot ?_
  cases heq
  exact hname

end Reworded

/-- Lists in two orders are equal, or both have more than one item. -/
theorem eq_or_cons_cons_of_perm {α : Type} {as bs : List α} (h : as.Perm bs) :
    as = bs ∨ ∃ a a' as' b b' bs', as = a :: a' :: as' ∧ bs = b :: b' :: bs' := by
  match as, bs, h with
  | [], bs, h => exact .inl h.nil_eq
  | [a], bs, h => exact .inl (List.singleton_perm.mp h)
  | a :: a' :: as', [], h => exact absurd h.length_eq (by simp)
  | a :: a' :: as', [b], h => exact absurd h.length_eq (by simp)
  | a :: a' :: as', b :: b' :: bs', _ => exact .inr ⟨a, a', as', b, b', bs', rfl, rfl⟩

/-! ### Records -/

namespace Tree

theorem uniqueMember?_perm {ms ms' : List Member} (h : ms.Perm ms') :
    uniqueMember? ms = uniqueMember? ms' := by
  funext name
  unfold uniqueMember?
  rcases eq_or_cons_cons_of_perm (h.filter fun m => m.1 == some name) with
    heq | ⟨a, a', as, b, b', bs, ha, hb⟩
  · rw [heq]
  · -- a name that stands twice is refused in either order
    rw [ha, hb]

theorem mapM_uniqueMember?_cons {known names : List String} {skippable : Tree → Prop} {m : Member}
    (hm : Foreign known skippable m) (hnames : names ⊆ known) (ms : List Member) :
    names.mapM (uniqueMember? (m :: ms)) = names.mapM (uniqueMember? ms) := by
  induction names with
  | nil => rfl
  | cons name names ih =>
    rw [List.cons_subset] at hnames
    have hname : uniqueMember? (m :: ms) name = uniqueMember? ms name := by
      rw [uniqueMember?, uniqueMember?, List.filter_cons, hm.beq_eq_false hnames.1,
        if_neg Bool.false_ne_true]
    rw [List.mapM_cons, List.mapM_cons, hname, ih hnames.2]

end Tree

section KnowsOnly

variable {α : Type} {known : List String} {skippable : Tree → Prop}

/-- **Fields.** They are looked up under their names, so what is made of them knows no others. -/
theorem KnowsOnly.fields {names : List String} (hnames : names ⊆ known)
    (make : List (Option Tree) → Option α) :
    KnowsOnly known skippable fun t => (t.fields? names).bind make := by
  intro ms ms' h
  refine h.eq_of_steps (f := fun ms => ((Tree.object ms).fields? names).bind make) ?_ ?_
  · intro ms ms' hperm
    rw [Tree.fields?, Tree.fields?, hperm.all_eq, Tree.uniqueMember?_perm hperm]
  · intro m ms hm
    obtain ⟨name, hname, -⟩ := hm.name
    have hall : ((m :: ms).all fun m => m.1.isSome) = ms.all fun m => m.1.isSome := by
      rw [List.all_cons, hname, Option.isSome_some, Bool.true_and]
    rw [Tree.fields?, Tree.fields?, hall, Tree.mapM_uniqueMember?_cons hm hnames]

end KnowsOnly

/-! ### Tagged values -/

/-- A value that can be kept inside an object with so many levels left: it is readable, and one
level less is enough for it. -/
def Kept (levels : Nat) (t : Tree) : Prop :=
  t.isReadable = true ∧ t.depth < levels

namespace Tree

variable {known : List String} {levels : Nat} {ms ms' : List Member}

/-- Is the object readable as a whole, within the levels that are left? -/
def isWhole (levels : Nat) (ms : List Member) : Bool :=
  (object ms).isReadable && (object ms).depth ≤ levels

/-- The variant, if there is one member and its value is a string. -/
def soleVariant? : List Member → Option String
  | [(_, .string (some variant))] => some variant
  | _ => none

theorem tagged?_members (tag : String) (levels : Nat) (ms : List Member) :
    (object ms).tagged? tag levels
      = if isWhole levels ms then
          (soleVariant? (ms.filter fun m => m.1 == some tag)).map fun variant =>
            (variant, .object (ms.filter fun m => m.1 != some tag))
        else none := by
  unfold tagged? isWhole
  split
  · dsimp only
    split
    · next hsole =>
      rw [hsole]
      rfl
    · next hnot =>
      rw [soleVariant?, Option.map_none]
      exact hnot
  · rfl

theorem areReadableMembers_iff :
    areReadableMembers ms = true ↔ ∀ m ∈ ms, m.1.isSome = true ∧ m.2.isReadable = true := by
  induction ms with
  | nil => simp [areReadableMembers]
  | cons m ms ih =>
    obtain ⟨name, t⟩ := m
    rw [areReadableMembers, Bool.and_eq_true, Bool.and_eq_true, ih, List.forall_mem_cons]

/-- An object is whole member by member. -/
theorem isWhole_iff :
    isWhole levels ms = true ↔ 0 < levels ∧ ∀ m ∈ ms, m.1.isSome = true ∧ Kept levels m.2 := by
  rw [isWhole, Bool.and_eq_true, decide_eq_true_eq, isReadable, areReadableMembers_iff, depth]
  -- the greatest depth is below a bound if every depth is, and one level is for the object itself
  constructor
  · rintro ⟨hreadable, hdepth⟩
    refine ⟨by omega, fun m hm => ⟨(hreadable m hm).1, (hreadable m hm).2, ?_⟩⟩
    have hle := depth_le_of_mem_members hm
    omega
  · rintro ⟨hpos, hkept⟩
    refine ⟨fun m hm => ⟨(hkept m hm).1, (hkept m hm).2.1⟩, ?_⟩
    have hle : depthOfMembers ms ≤ levels - 1 :=
      depthOfMembers_le fun m hm => Nat.le_pred_of_lt (hkept m hm).2.2
    omega

theorem isWhole_perm (h : ms.Perm ms') : isWhole levels ms = isWhole levels ms' := by
  rw [Bool.eq_iff_iff, isWhole_iff, isWhole_iff]
  simp only [h.mem_iff]

theorem isWhole_cons {m : Member} (hm : Foreign known (Kept levels) m) (ms : List Member) :
    isWhole levels (m :: ms) = isWhole levels ms := by
  obtain ⟨name, hname, -⟩ := hm.name
  have hself : m.1.isSome = true ∧ Kept levels m.2 := ⟨by rw [hname]; rfl, hm.value⟩
  rw [Bool.eq_iff_iff, isWhole_iff, isWhole_iff, List.forall_mem_cons, and_iff_right hself]

theorem soleVariant?_perm (h : ms.Perm ms') : soleVariant? ms = soleVariant? ms' := by
  rcases eq_or_cons_cons_of_perm h with rfl | ⟨a, a', as, b, b', bs, rfl, rfl⟩
  · rfl
  · -- a tag that stands twice is refused in either order
    simp [soleVariant?]

end Tree

section KnowsOnly

variable {α : Type} {known : List String} {tag : String} {levels : Nat}
  {read : String → Tree → Option α}

/-- Two objects that are whole together, name one variant and leave rewordings of one another. -/
theorem bind_tagged?_congr {ms ms' : List Member}
    (hread : ∀ variant, KnowsOnly known (Kept levels) (read variant))
    (hwhole : Tree.isWhole levels ms = Tree.isWhole levels ms')
    (hvariant : Tree.soleVariant? (ms.filter fun m => m.1 == some tag)
      = Tree.soleVariant? (ms'.filter fun m => m.1 == some tag))
    (hrest : Reworded known (Kept levels) (ms.filter fun m => m.1 != some tag)
      (ms'.filter fun m => m.1 != some tag)) :
    ((Tree.object ms).tagged? tag levels).bind (fun found => read found.1 found.2)
      = ((Tree.object ms').tagged? tag levels).bind fun found => read found.1 found.2 := by
  rw [Tree.tagged?_members, Tree.tagged?_members, hwhole, hvariant]
  split
  · cases Tree.soleVariant? (ms'.filter fun m => m.1 == some tag) with
    | none => rfl
    | some variant => exact hread variant _ _ hrest
  · rfl

/-- **Tagged values.** The tag may stand anywhere, and what is left without it is reworded when the
whole is. So it is enough that the readers of the variants know only these names. -/
theorem KnowsOnly.tagged (htag : tag ∈ known)
    (hread : ∀ variant, KnowsOnly known (Kept levels) (read variant)) :
    KnowsOnly known (Kept levels) fun t =>
      (t.tagged? tag levels).bind fun found => read found.1 found.2 := by
  intro ms ms' h
  refine h.eq_of_steps
    (f := fun ms => ((Tree.object ms).tagged? tag levels).bind fun found => read found.1 found.2)
    ?_ ?_
  · intro ms ms' hperm
    exact bind_tagged?_congr hread (Tree.isWhole_perm hperm)
      (Tree.soleVariant?_perm (hperm.filter _)) (.moved (hperm.filter _))
  · intro m ms hm
    have hbeq := hm.beq_eq_false htag
    refine bind_tagged?_congr hread (Tree.isWhole_cons hm ms) ?_ ?_
    · rw [List.filter_cons, hbeq, if_neg Bool.false_ne_true]
    · -- the foreign member is still in front of what is left
      rw [List.filter_cons, bne, hbeq, Bool.not_false, if_pos rfl]
      exact .front hm _

end KnowsOnly

end Json

/-! ### The types of the wire -/

open Json (KnowsOnly Kept Tree maxDepth)

namespace Status

theorem knowsOnly_ofVariant? {skippable : Tree → Prop} (variant : String) :
    KnowsOnly ["state", "block_num", "block_id"] skippable (ofVariant? variant) := by
  intro ms ms' h
  unfold ofVariant?
  -- a variant without fields asks only whether it stands in an object, and both do
  split
  · rfl
  · split
    · rfl
    · split
      · exact KnowsOnly.fields (by simp) _ ms ms' h
      · rfl

theorem knowsOnly_ofJson? (levels : Nat) :
    KnowsOnly ["state", "block_num", "block_id"] (Kept levels) (ofJson? levels) :=
  KnowsOnly.tagged (by decide) knowsOnly_ofVariant?

end Status

namespace Command

theorem knowsOnly_ofVariant? {skippable : Tree → Prop} (variant : String) :
    KnowsOnly ["func", "nodes", "freq", "amount", "url", "users", "debug"] skippable
      (ofVariant? variant) := by
  intro ms ms' h
  unfold ofVariant?
  split
  · exact KnowsOnly.fields (by simp) _ ms ms' h
  · split
    · have hrequest : RunRequest.ofJson? (.object ms) = RunRequest.ofJson? (.object ms') :=
        KnowsOnly.fields (by simp) _ ms ms' h
      rw [hrequest]
    · split <;> rfl

theorem knowsOnly_ofJson? :
    KnowsOnly ["func", "nodes", "freq", "amount", "url", "users", "debug"] (Kept maxDepth)
      ofJson? :=
  KnowsOnly.tagged (by decide) knowsOnly_ofVariant?

end Command

/-- **Readers know only their fields.** However the members of an object are moved, and whatever
members are put in or left out under names that are not in the list, each of these types is read as
the same value or not read in either case. In records those members may hold anything. In statuses
and commands, which are tagged, they must be readable and nest within the levels that are left; the
list has the tag and the fields of all variants. -/
theorem wire_reworded :
    KnowsOnly ["last_irreversible_block_num", "head_block_num"] (fun _ => True)
      ChainInfo.ofJson? ∧
    KnowsOnly ["block_num", "trx_id", "block_id"] (fun _ => True) TransactionEntry.ofJson? ∧
    KnowsOnly ["block_num", "block_id", "trx_id"] (fun _ => True) TransactionLocation.ofJson? ∧
    (∀ levels, KnowsOnly ["url", "status", "ever_located", "accepted", "irreversible_block_num"]
      (fun _ => True) (NodeReport.ofJson? levels)) ∧
    (∀ levels, KnowsOnly ["correlation_id", "age_secs", "nodes"] (fun _ => True)
      (Diagnosis.ofJson? levels)) ∧
    KnowsOnly ["kind", "message", "diagnosis"] (fun _ => True) Reply.ofJson? ∧
    (∀ levels, KnowsOnly ["state", "block_num", "block_id"] (Kept levels)
      (Status.ofJson? levels)) ∧
    KnowsOnly ["func", "nodes", "freq", "amount", "url", "users", "debug"] (Kept maxDepth)
      Command.ofJson? :=
  ⟨.fields (List.Subset.refl _) _,
    .fields (List.Subset.refl _) _,
    .fields (List.Subset.refl _) _,
    fun _ => .fields (List.Subset.refl _) _,
    fun _ => .fields (List.Subset.refl _) _,
    .fields (List.Subset.refl _) _,
    Status.knowsOnly_ofJson?,
    Command.knowsOnly_ofJson?⟩

/-- A command without fields passes by the fields of the others, also in front of its tag. -/
example : Command.ofJson? (.object [(some "nodes", .null), (some "func", .text "stop"),
    (some "x", .array []), (some "x", .bool true)]) = some .stop := by
  rfl

end ChainWatch
