import ChainWatch.Proofs.Json.Embedded
import ChainWatch.Proofs.Wire.Codec

/-!
# Commands read back

The text of a command is read as the command (`Command.parse?_write`), on three conditions. The
command may hold doubles, and every one of them must survive being written and read. It must not
nest too deep, since a reader keeps the whole of it until it knows which command it is. And no
object in its debug value may be written with `embeddedName` in front (`Command.IsPlain`), since a
reader takes such an object for a text that it holds.

One value does not come back as it was. A debug value that is `null` is written as `null`, and a
field that is `null` has no value when it is read. So what is read is the command in its normal
form, in which there is no such value (`Command.normal`).
-/

namespace ChainWatch

/-- A double survives being written and read. -/
def Binary64.Survives (x : Binary64) : Prop :=
  ∃ h : x.isFinite = true, (Json.Number.float x h).Survives

namespace Json

/-! ### Free-form data -/

namespace Value

mutual

/-- The doubles in data. -/
def floats : Value → List Binary64
  | .number (.float x _) => [x]
  | .array vs => floatsOfItems vs
  | .object ms => floatsOfMembers ms
  | _ => []

/-- The doubles in the items of an array. -/
def floatsOfItems : List Value → List Binary64
  | [] => []
  | v :: vs => floats v ++ floatsOfItems vs

/-- The doubles in the members of an object. -/
def floatsOfMembers : List (String × Value) → List Binary64
  | [] => []
  | (_, v) :: ms => floats v ++ floatsOfMembers ms

end

/-- A member whose name is after all others comes last. -/
theorem insertMember_of_above {name : String} {v : Value} {read : List (String × Value)}
    (h : ∀ m ∈ read, m.1 < name) : insertMember name v read = read ++ [(name, v)] := by
  induction read with
  | nil => rfl
  | cons m read ih =>
    obtain ⟨n, w⟩ := m
    rw [List.forall_mem_cons] at h
    have hlt : n < name := h.1
    have hne : name ≠ n := by
      rintro rfl
      exact String.lt_irrefl name hlt
    -- it is put neither before the first member nor in its place
    rw [insertMember, if_neg (String.lt_asymm hlt), if_neg hne, ih h.2]
    rfl

section Embedded

variable {embedded : String → Option Value}

mutual

/-- Data in order reads back from its tree, if the tree is plain. -/
theorem ofTreeWith?_toTree : ∀ {v : Value}, v.IsOrdered → v.toTree.isPlain = true →
    ofTreeWith? embedded v.toTree = some v
  | .null, _, _ => rfl
  | .bool _, _, _ => rfl
  | .number _, _, _ => rfl
  | .string _, _, _ => rfl
  | .array vs, h, hplain => by
    rw [IsOrdered] at h
    rw [toTree, Tree.isPlain] at hplain
    rw [toTree, ofTreeWith?, ofItemsWith?_toItems h hplain, Option.map_some]
  -- the object does not begin with a text, so its members are read
  | .object ms, h, hplain => by
    rw [IsOrdered] at h
    rw [toTree, Tree.isPlain, Bool.and_eq_true, Bool.not_eq_true'] at hplain
    rw [toTree, ofTreeWith?, if_neg (Bool.eq_false_iff.mp hplain.1),
      ofMembersWith?_toMembers h hplain.2 (fun _ _ m hm => absurd hm List.not_mem_nil),
      Option.map_some, List.nil_append]

theorem ofItemsWith?_toItems : ∀ {vs : List Value}, AreOrderedItems vs →
    Tree.arePlainItems (toItems vs) = true → ofItemsWith? embedded (toItems vs) = some vs
  | [], _, _ => rfl
  | v :: vs, h, hplain => by
    rw [AreOrderedItems] at h
    rw [toItems, Tree.arePlainItems, Bool.and_eq_true] at hplain
    rw [toItems, ofItemsWith?, ofTreeWith?_toTree h.1 hplain.1, ofItemsWith?_toItems h.2 hplain.2]
    rfl

/-- The members come after those that were read before. -/
theorem ofMembersWith?_toMembers : ∀ {ms read : List (String × Value)}, AreOrderedMembers ms →
    Tree.arePlainMembers (toMembers ms) = true → (∀ m ∈ ms, ∀ n ∈ read, n.1 < m.1) →
      ofMembersWith? embedded read (toMembers ms) = some (read ++ ms)
  | [], read, _, _, _ => by rw [toMembers, ofMembersWith?, List.append_nil]
  | (name, v) :: ms, read, h, hplain, hbefore => by
    rw [AreOrderedMembers] at h
    obtain ⟨hv, habove, hms⟩ := h
    rw [toMembers, Tree.arePlainMembers, Bool.and_eq_true] at hplain
    rw [List.forall_mem_cons] at hbefore
    -- the member that is read next joins those before the rest
    have hlater : ∀ m ∈ ms, ∀ n ∈ read ++ [(name, v)], n.1 < m.1 := by
      intro m hm n hn
      rcases List.mem_append.mp hn with hread | hnew
      · exact hbefore.2 m hm n hread
      · rw [List.mem_singleton.mp hnew]
        exact habove m hm
    rw [toMembers, ofMembersWith?, ofTreeWith?_toTree hv hplain.1]
    simp only [Option.bind_eq_bind, Option.bind_some]
    rw [insertMember_of_above hbefore.1, ofMembersWith?_toMembers hms hplain.2 hlater,
      List.append_assoc, List.singleton_append]

end

end Embedded

mutual

/-- Data survives if its doubles do. -/
theorem survives_toTree : ∀ {v : Value},
    (∀ x ∈ v.floats, x.Survives) → v.toTree.Survives
  | .null, _ => trivial
  | .bool _, _ => trivial
  -- integers survive in any case
  | .number (.int i hi), _ => ⟨_, rfl, Number.survives_int i hi⟩
  | .number (.float x hx), h => by
    obtain ⟨_, hsurvives⟩ := h x (by simp [floats])
    exact ⟨_, rfl, hsurvives⟩
  | .string _, _ => rfl
  | .array vs, h => by
    rw [floats] at h
    rw [toTree, Tree.Survives]
    exact survive_toItems h
  | .object ms, h => by
    rw [floats] at h
    rw [toTree, Tree.Survives]
    exact survive_toMembers h

theorem survive_toItems : ∀ {vs : List Value},
    (∀ x ∈ floatsOfItems vs, x.Survives) →
      Tree.ItemsSurvive (toItems vs)
  | [], _ => trivial
  | v :: vs, h => by
    rw [floatsOfItems, List.forall_mem_append] at h
    rw [toItems, Tree.ItemsSurvive]
    exact ⟨survives_toTree h.1, survive_toItems h.2⟩

theorem survive_toMembers : ∀ {ms : List (String × Value)},
    (∀ x ∈ floatsOfMembers ms, x.Survives) →
      Tree.MembersSurvive (toMembers ms)
  | [], _ => trivial
  | (name, v) :: ms, h => by
    rw [floatsOfMembers, List.forall_mem_append] at h
    rw [toMembers, Tree.MembersSurvive]
    exact ⟨rfl, survives_toTree h.1, survive_toMembers h.2⟩

end

end Value

namespace FreeForm

/-- Is it `null`? -/
def isNull (f : FreeForm) : Bool :=
  match f.value with
  | .null => true
  | _ => false

theorem isNull_iff {f : FreeForm} : f.isNull = true ↔ f.value = .null := by
  unfold isNull
  split <;> simp_all

theorem ofTree?_eq_some_iff {t : Tree} {f : FreeForm} :
    ofTree? t = some f ↔ Value.ofTree? t = some f.value := by
  obtain ⟨value, ordered⟩ := f
  simpa [ofTree?, Option.pmap_eq_some_iff] using Value.isOrdered_of_ofTree?

theorem ofTree?_toTree {f : FreeForm} (h : f.toTree.isPlain = true) : ofTree? f.toTree = some f :=
  ofTree?_eq_some_iff.mpr (Value.ofTreeWith?_toTree f.ordered h)

/-- A free-form field reads back, except that `null` is no value. -/
theorem optional_map_toTree {o : Option FreeForm} (h : ∀ f ∈ o, f.toTree.isPlain = true) :
    optional ofTree? (o.map toTree) = some (o.filter fun f => !f.isNull) := by
  cases o with
  | none => rfl
  | some f =>
    have hread := ofTree?_toTree (h f rfl)
    obtain ⟨value, ordered⟩ := f
    -- the one value that a nullable field does not give back
    cases value with
    | null => rfl
    | _ => exact congrArg (Option.map some) hread

end FreeForm

end Json

open Json (Tree FreeForm required optional optionalMember maxDepth)

/-! ### Run requests -/

namespace RunRequest

/-- The doubles in a request. -/
def floats (r : RunRequest) : List Binary64 :=
  r.freq :: (r.debug.map fun f => f.value.floats).getD []

/-- A request without a debug value that is `null`. -/
def normal (r : RunRequest) : RunRequest := { r with debug := r.debug.filter fun f => !f.isNull }

theorem freqToJson_of_isFinite {x : Binary64} (h : x.isFinite = true) :
    freqToJson x = .number (some (.float x h)) := by
  rw [freqToJson, Json.Number.ofBinary64?, dif_pos h]

theorem nodup_members (r : RunRequest) : (r.members.map Prod.fst).Nodup := by
  cases hurl : r.url <;> cases husers : r.users <;> cases hdebug : r.debug <;>
    simp [members, hurl, husers, hdebug, optionalMember]

theorem survives_members {r : RunRequest} (h : ∀ x ∈ r.floats, x.Survives) :
    ∀ f ∈ r.members, f.2.Survives := by
  rw [floats, List.forall_mem_cons] at h
  obtain ⟨⟨hfinite, hfreq⟩, hdebug⟩ := h
  -- the doubles of the debug value are among those of the request
  have hdata : ∀ f ∈ r.debug, f.toTree.Survives := by
    intro f hf
    rw [Option.mem_def.mp hf] at hdebug
    exact Json.Value.survives_toTree hdebug
  unfold members
  rw [freqToJson_of_isFinite hfinite]
  simp only [List.forall_mem_append, List.forall_mem_cons]
  -- five members: the period and the count are there, the others may be
  refine ⟨⟨⟨⟨⟨_, rfl, hfreq⟩, ⟨_, rfl, Json.Number.survives_int _ _⟩, fun _ h => nomatch h⟩, ?_⟩, ?_⟩,
    Json.survives_optionalMember hdata⟩
  · exact Json.survives_optionalMember fun s _ => Tree.survives_text s
  · exact Json.survives_optionalMember fun s _ => Tree.survives_text s

theorem lookup_members (r : RunRequest) :
    (["freq", "amount", "url", "users", "debug"].map fun name => r.members.lookup name)
      = [some (freqToJson r.freq), some (.number (some (Json.Number.ofUInt32 r.amount))),
        r.url.map Tree.text, r.users.map Tree.text, r.debug.map FreeForm.toTree] := by
  unfold members
  -- the values are of no account here, only the names are compared
  generalize freqToJson r.freq = freq, Tree.number (some (Json.Number.ofUInt32 r.amount)) = amount
  simp [List.lookup_cons, List.lookup_append, Json.lookup_optionalMember,
    Json.lookup_optionalMember_of_ne]

/-- A request reads back, apart from a debug value that is `null`. -/
theorem ofJson?_members {r : RunRequest} (h : r.freq.isFinite = true)
    (hplain : ∀ f ∈ r.debug, f.toTree.isPlain = true) :
    ofJson? (.record r.members) = some r.normal := by
  have hfreq : required Tree.binary64? (some (freqToJson r.freq)) = some r.freq := by
    rw [freqToJson_of_isFinite h]
    rfl
  -- the fields are read one by one
  have hamount : required Tree.uint32? (some (.number (some (Json.Number.ofUInt32 r.amount))))
      = some r.amount := by
    rw [required, Option.bind_some, Tree.uint32?, Option.bind_some,
      Json.Number.toUInt32?_ofUInt32]
  have hurl : optional Tree.string? (r.url.map Tree.text) = some r.url :=
    Json.optional_map Tree.string?_text rfl _
  have husers : optional Tree.string? (r.users.map Tree.text) = some r.users :=
    Json.optional_map Tree.string?_text rfl _
  rw [ofJson?, Tree.fields?_record r.nodup_members, lookup_members]
  simp only [Option.bind_eq_bind, Option.bind_some, hfreq, hamount, hurl, husers,
    FreeForm.optional_map_toTree hplain]
  rfl

end RunRequest

/-! ### Commands -/

namespace Command

/-- The doubles in a command. -/
def floats : Command → List Binary64
  | .run r => r.floats
  | _ => []

/-- The free-form part of a command. -/
def debug? : Command → Option FreeForm
  | .run r => r.debug
  | _ => none

/-- No object in the debug value is written with a text in front. -/
def IsPlain (c : Command) : Prop := ∀ f ∈ c.debug?, f.toTree.isPlain = true

/-- A command without a debug value that is `null`. -/
def normal : Command → Command
  | .run r => .run r.normal
  | c => c

theorem survives_toJson {c : Command} (h : ∀ x ∈ c.floats, x.Survives) : c.toJson.Survives := by
  cases c with
  | watches nodes =>
    -- a list of nodes is a list of strings
    have hnodes : ∀ t ∈ nodes.map Tree.text, t.Survives := by
      intro t ht
      obtain ⟨s, -, rfl⟩ := List.mem_map.mp ht
      exact Tree.survives_text s
    simp [toJson, Tree.survives_record_iff, Tree.survives_array_iff.mpr hnodes]
  | run r =>
    rw [toJson, Tree.survives_record_iff, List.forall_mem_cons]
    exact ⟨Tree.survives_text _, RunRequest.survives_members h⟩
  | stop => simp [toJson, Tree.survives_record_iff]

theorem tag_notMem_members (r : RunRequest) : tag ∉ r.members.map Prod.fst := by
  cases hurl : r.url <;> cases husers : r.users <;> cases hdebug : r.debug <;>
    simp [tag, RunRequest.members, hurl, husers, hdebug, optionalMember]

/-- The tree of a command is read as the command. -/
theorem ofJson?_toJson {c : Command} (hfloats : ∀ x ∈ c.floats, x.Survives)
    (hdepth : c.toJson.depth ≤ maxDepth) (hplain : c.IsPlain) :
    ofJson? c.toJson = some c.normal := by
  have hsurvives := survives_toJson hfloats
  rw [ofJson?]
  cases c with
  | watches nodes =>
    have hnodes : Tree.list? Tree.string? (.array (nodes.map Tree.text)) = some nodes :=
      Tree.list?_map fun s _ => Tree.string?_text s
    rw [toJson, Tree.tagged?_record (by simp [tag]) hsurvives hdepth, Option.bind_eq_bind,
      Option.bind_some]
    dsimp only
    rw [ofVariant?, name, if_pos rfl, Tree.fields?_record (by simp)]
    simp [List.lookup_cons, required, hnodes, normal]
  | run r =>
    have hfreq : r.freq.isFinite = true := (hfloats r.freq (List.mem_cons_self ..)).1
    rw [toJson, Tree.tagged?_record (tag_notMem_members r) hsurvives hdepth, Option.bind_eq_bind,
      Option.bind_some]
    dsimp only
    -- the tag is not that of the list of nodes
    rw [ofVariant?, name, if_neg (by decide), if_pos rfl, RunRequest.ofJson?_members hfreq hplain]
    rfl
  | stop =>
    rw [toJson, Tree.tagged?_record (by simp) hsurvives hdepth]
    rfl

/-- **The text of a command reads back**, apart from a debug value that is `null`. -/
theorem parse?_write {c : Command} (hfloats : ∀ x ∈ c.floats, x.Survives)
    (hdepth : c.toJson.depth ≤ maxDepth) (hplain : c.IsPlain) :
    parse? c.write = some c.normal := by
  rw [parse?, write, Tree.read?_write (survives_toJson hfloats), Option.bind_eq_bind,
    Option.bind_some, ofJson?_toJson hfloats hdepth hplain]

end Command

end ChainWatch
