import ChainWatch.Json.Fields
import ChainWatch.Proofs.Json.Text
import Mathlib.Data.List.Nodup

/-!
# Written records read back

The reader of a record looks for its fields by their names. In an object that was written as a
record, and so has every name once, it finds under each name what stands there, or nothing if the
field was left out (`Tree.fields?_record`). A tagged value that was written with its tag in front
falls apart into the name of the variant and the record of its fields (`Tree.tagged?_record`).

The lemmas about leaves say which reader undoes which writer; what is left to say of a type is the
list of its fields.
-/

namespace ChainWatch.Json

namespace Tree

variable {fields : List (String × Tree)} {t : Tree}

/-! ### What survives -/

/-- A text survives, whatever its characters. -/
@[simp] theorem survives_text (s : String) : (text s).Survives := rfl

/-- A word survives, since it is an integer. -/
@[simp] theorem survives_word (n : UInt64) : (word n).Survives :=
  ⟨_, rfl, Number.survives_int _ _⟩

/-- A truth value survives. -/
@[simp] theorem survives_bool (b : Bool) : (Tree.bool b).Survives := trivial

/-- Items survive one by one. -/
theorem itemsSurvive_iff {ts : List Tree} : ItemsSurvive ts ↔ ∀ t ∈ ts, t.Survives := by
  induction ts with
  | nil => simp [ItemsSurvive]
  | cons t ts ih => rw [ItemsSurvive, ih, List.forall_mem_cons]

/-- An array survives if its items do. -/
theorem survives_array_iff {ts : List Tree} : (array ts).Survives ↔ ∀ t ∈ ts, t.Survives := by
  rw [Survives, itemsSurvive_iff]

/-- A record survives if its values do; its names denote something from the start. -/
theorem survives_record_iff : (record fields).Survives ↔ ∀ f ∈ fields, f.2.Survives := by
  rw [record, Survives]
  induction fields with
  | nil => simp [MembersSurvive]
  | cons f fields ih =>
    rw [List.map_cons, MembersSurvive, ih, List.forall_mem_cons]
    simp

mutual

/-- What survives is readable. -/
theorem Survives.isReadable : ∀ {t : Tree}, t.Survives → t.isReadable = true
  | .null, _ => rfl
  | .bool _, _ => rfl
  | .number n, h => by
    rw [Survives] at h
    obtain ⟨m, rfl, -⟩ := h
    rfl
  | .string s, h => by
    rw [Survives] at h
    exact h
  | .array ts, h => by
    rw [Survives] at h
    rw [Tree.isReadable]
    exact ItemsSurvive.areReadable h
  | .object ms, h => by
    rw [Survives] at h
    rw [Tree.isReadable]
    exact MembersSurvive.areReadable h

/-- The same for the items of an array. -/
theorem ItemsSurvive.areReadable : ∀ {ts : List Tree}, ItemsSurvive ts → areReadableItems ts = true
  | [], _ => rfl
  | t :: ts, h => by
    rw [ItemsSurvive] at h
    rw [areReadableItems, Survives.isReadable h.1, ItemsSurvive.areReadable h.2]
    rfl

/-- The same for members, whose names are strings that denote something. -/
theorem MembersSurvive.areReadable : ∀ {ms : List (Option String × Tree)},
    MembersSurvive ms → areReadableMembers ms = true
  | [], _ => rfl
  | (name, t) :: ms, h => by
    rw [MembersSurvive] at h
    rw [areReadableMembers, h.1, Survives.isReadable h.2.1, MembersSurvive.areReadable h.2.2]
    rfl

end

/-! ### Fields -/

/-- A name that no field has is not found. -/
theorem filter_eq_nil_of_notMem {name : String} (h : name ∉ fields.map Prod.fst) :
    ((fields.map fun (n, t) => (some n, t)).filter fun m : Member => m.1 == some name) = [] := by
  rw [List.filter_eq_nil_iff]
  intro m hm
  obtain ⟨f, hf, rfl⟩ := List.mem_map.mp hm
  have hne : f.1 ≠ name := fun hname => h (hname ▸ List.mem_map_of_mem hf)
  simpa using hne

/-- A name is found at most once if the names are different, and what is found is what looking it up
in the list of fields gives. -/
theorem uniqueMember?_eq_lookup (hnodup : (fields.map Prod.fst).Nodup) (name : String) :
    uniqueMember? (fields.map fun (n, t) => (some n, t)) name = some (fields.lookup name) := by
  induction fields with
  | nil => rfl
  | cons f fields ih =>
    obtain ⟨n, t⟩ := f
    rw [List.map_cons, List.nodup_cons] at hnodup
    by_cases hname : n = name
    · subst hname
      have hfilter : ((((n, t) :: fields).map fun (n, t) => (some n, t)).filter
          fun m : Member => m.1 == some n) = [(some n, t)] := by
        rw [List.map_cons, List.filter_cons_of_pos (by simp), filter_eq_nil_of_notMem hnodup.1]
      rw [uniqueMember?, hfilter, List.lookup_cons_self]
    · -- the first field has another name, and both sides pass it by
      have hlookup : ((n, t) :: fields).lookup name = fields.lookup name := by
        rw [List.lookup_cons, beq_false_of_ne (Ne.symm hname)]
      rw [hlookup, ← ih hnodup.2, uniqueMember?, List.map_cons,
        List.filter_cons_of_neg (by simpa using hname), uniqueMember?]

/-- **The fields of a written record.** Under each name stands what was written there, if
anything. -/
theorem fields?_record (hnodup : (fields.map Prod.fst).Nodup) (names : List String) :
    (record fields).fields? names = some (names.map fun name => fields.lookup name) := by
  have hall : (fields.map fun (n, t) => ((some n, t) : Member)).all (fun m => m.1.isSome) = true := by
    simp
  rw [record, fields?, if_pos hall]
  induction names with
  | nil => rfl
  | cons name names ih =>
    rw [List.mapM_cons, uniqueMember?_eq_lookup hnodup, ih]
    rfl

/-- An object falls apart into its tag and the rest, if the tag stands there once and the whole of
it may be kept. -/
theorem tagged?_object {members : List Member} {tag variant : String} {levels : Nat}
    {name : Option String} (hreadable : (object members).isReadable = true)
    (hdepth : (object members).depth ≤ levels)
    (hfound : members.filter (fun m => m.1 == some tag) = [(name, .string (some variant))]) :
    (object members).tagged? tag levels
      = some (variant, .object (members.filter fun m => m.1 != some tag)) := by
  rw [tagged?, hreadable, decide_eq_true hdepth, Bool.and_self, if_pos rfl, hfound]

/-- **A written tagged value.** -/
theorem tagged?_record {tag variant : String} {levels : Nat}
    (htag : tag ∉ fields.map Prod.fst)
    (hsurvives : (record ((tag, text variant) :: fields)).Survives)
    (hdepth : (record ((tag, text variant) :: fields)).depth ≤ levels) :
    (record ((tag, text variant) :: fields)).tagged? tag levels = some (variant, record fields) := by
  have hfound : ((((tag, text variant) :: fields).map fun (n, t) => (some n, t)).filter
      fun m : Member => m.1 == some tag) = [(some tag, text variant)] := by
    rw [List.map_cons, List.filter_cons_of_pos (by simp), filter_eq_nil_of_notMem htag]
  have hothers : ((((tag, text variant) :: fields).map fun (n, t) => (some n, t)).filter
      fun m : Member => m.1 != some tag) = fields.map fun (n, t) => (some n, t) := by
    rw [List.map_cons, List.filter_cons_of_neg (by simp), List.filter_eq_self]
    intro m hm
    obtain ⟨f, hf, rfl⟩ := List.mem_map.mp hm
    have hne : f.1 ≠ tag := fun hname => htag (hname ▸ List.mem_map_of_mem hf)
    simpa using hne
  -- what stands beside the tag is the record again
  have htagged := tagged?_object hsurvives.isReadable hdepth hfound
  rw [hothers] at htagged
  exact htagged

/-! ### Fields that may be absent -/

/-- A text is read as what it is. -/
@[simp] theorem string?_text (s : String) : (text s).string? = some s := rfl

/-- A word is read as what it is. -/
@[simp] theorem uint64?_word (n : UInt64) : (word n).uint64? = some n := Number.toUInt64?_ofUInt64 n

/-- A list is read item by item. -/
theorem list?_map {α : Type} {read : Tree → Option α} {write : α → Tree} {as : List α}
    (h : ∀ a ∈ as, read (write a) = some a) : list? read (.array (as.map write)) = some as := by
  rw [list?]
  induction as with
  | nil => rfl
  | cons a as ih =>
    rw [List.forall_mem_cons] at h
    rw [List.map_cons, List.mapM_cons, h.1, ih h.2]
    rfl

end Tree

section Optional

variable {α : Type} {name : String} {write : α → Tree}

/-- A field that is left out when it has no value is found under its name if it has one. -/
theorem lookup_optionalMember (o : Option α) :
    (optionalMember name write o).lookup name = o.map write := by
  cases o with
  | none => rfl
  | some a => exact List.lookup_cons_self

/-- Under another name it is not found. -/
theorem lookup_optionalMember_of_ne {name' : String} (h : name' ≠ name) (o : Option α) :
    (optionalMember name write o).lookup name' = none := by
  cases o with
  | none => rfl
  | some a =>
    rw [optionalMember, List.lookup_cons, beq_false_of_ne h]
    rfl

/-- Such a field survives if its value does. -/
theorem survives_optionalMember {o : Option α} (h : ∀ a ∈ o, (write a).Survives) :
    ∀ f ∈ optionalMember name write o, f.2.Survives := by
  intro f hf
  cases o with
  | none => cases hf
  | some a =>
    rw [List.mem_singleton.mp hf]
    exact h a rfl

/-- A field that is left out when it has no value reads back. -/
theorem optional_map {read : Tree → Option α} (hread : ∀ a, read (write a) = some a)
    (hnull : read .null = none) (o : Option α) : optional read (o.map write) = some o := by
  cases o with
  | none => rfl
  | some a =>
    -- what is written is not `null`, since `null` is not read as a value
    have hne : write a ≠ .null := by
      intro heq
      have hsome := hread a
      rw [heq, hnull] at hsome
      cases hsome
    rw [Option.map_some, optional, Tree.nullable?]
    · rw [hread, Option.map_some]
    · exact hne

end Optional

end ChainWatch.Json
