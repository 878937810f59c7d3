import ChainWatch.Proofs.CorrelationId
import ChainWatch.Proofs.Json.Record
import ChainWatch.Wire.Control

/-!
# What is sent reads back as what it was

Every value that goes over the wire is written as JSON text and read from it. For the types without
doubles reading undoes writing, whatever the values hold (`wire_faithful`): any characters in the
texts, any words, lists of any length, and options that are there or not. So no two values have one
text.

For each type there are two facts about the tree that stands between value and text: it survives
being written, and reading the value off it gives the value back. The first is why the trees are
read back at all (`Tree.read?_write`); the second is a matter of the fields of the type.
-/

namespace ChainWatch

open Json (Tree required optional defaulted optionalMember maxDepth)

/-! ### Correlation ids -/

namespace CorrelationId

/-- The text of an id is read as the id. -/
theorem ofJson?_toJson (id : CorrelationId) : ofJson? id.toJson = some id := by
  rw [ofJson?, toJson, Tree.string?_text, Option.bind_eq_bind, Option.bind_some, parse_text]
  rfl

end CorrelationId

/-! ### Chain data -/

/-- The id of a block is any text, and a string holds any text. -/
theorem BlockId.ofJson?_toJson (b : BlockId) : ofJson? b.toJson = some b := rfl

namespace ChainInfo

/-- The numbers of blocks are words, and words survive. -/
theorem survives_toJson (i : ChainInfo) : i.toJson.Survives := by
  simp [toJson, Tree.survives_record_iff]

/-- Chain information reads back, with a head that is written even if it is zero. -/
theorem ofJson?_toJson (i : ChainInfo) : ofJson? i.toJson = some i := by
  rw [ofJson?, toJson, Tree.fields?_record (by simp)]
  simp [List.lookup_cons, required, defaulted]

end ChainInfo

namespace TransactionEntry

/-- An entry survives with the id of its block and without. -/
theorem survives_toJson (e : TransactionEntry) : e.toJson.Survives := by
  cases h : e.blockId <;> simp [toJson, h, optionalMember, BlockId.toJson, Tree.survives_record_iff]

/-- An entry reads back. One without the id of its block has no member for it, and none is found. -/
theorem ofJson?_toJson (e : TransactionEntry) : ofJson? e.toJson = some e := by
  have hblock : optional BlockId.ofJson? (e.blockId.map BlockId.toJson) = some e.blockId :=
    Json.optional_map BlockId.ofJson?_toJson rfl _
  rw [ofJson?, toJson, Tree.fields?_record]
  · simp [List.lookup_cons, Json.lookup_optionalMember, required, hblock]
  · cases e.blockId <;> simp [optionalMember]

end TransactionEntry

namespace TransactionLocation

/-- A location is a word and two texts. -/
theorem survives_toJson (l : TransactionLocation) : l.toJson.Survives := by
  simp [toJson, BlockId.toJson, Tree.survives_record_iff]

/-- A location reads back, both levels of it from one object. -/
theorem ofJson?_toJson (l : TransactionLocation) : ofJson? l.toJson = some l := by
  rw [ofJson?, toJson, Tree.fields?_record (by simp)]
  simp [List.lookup_cons, required, BlockId.ofJson?_toJson]

end TransactionLocation

/-! ### Verdicts, statuses and diagnoses -/

/-- Each verdict has a word of its own. -/
theorem Verdict.ofJson?_toJson (v : Verdict) : ofJson? v.toJson = some v := by
  have hword : ofWord? v.word = some v := by cases v <;> decide
  exact hword

namespace Status

/-- The tag of a status is a text, and so is the id of its block. -/
theorem survives_toJson (s : Status) : s.toJson.Survives := by
  cases s <;> simp [toJson, BlockId.toJson, Tree.survives_record_iff]

/-- A status is an object of leaves. -/
theorem depth_toJson (s : Status) : s.toJson.depth = 1 := by
  cases s <;> rfl

/-- A status reads back where at least one level of nesting is left. -/
theorem ofJson?_toJson {levels : Nat} (h : 1 ≤ levels) (s : Status) :
    ofJson? levels s.toJson = some s := by
  have hdepth : s.toJson.depth ≤ levels := by
    rw [depth_toJson]
    exact h
  have hsurvives := s.survives_toJson
  rw [ofJson?]
  cases s with
  | unknown =>
    rw [toJson, Tree.tagged?_record (by simp) hsurvives hdepth]
    rfl
  | rejected =>
    rw [toJson, Tree.tagged?_record (by simp) hsurvives hdepth]
    rfl
  | located b =>
    rw [toJson, Tree.tagged?_record (by simp [tag]) hsurvives hdepth]
    rw [Option.bind_eq_bind, Option.bind_some]
    dsimp only
    -- the third word of the vocabulary, with two fields
    rw [ofVariant?, if_neg (by decide), if_neg (by decide), if_pos rfl,
      Tree.fields?_record (by simp)]
    simp [List.lookup_cons, required, BlockId.ofJson?_toJson]

end Status

namespace NodeReport

/-- A node report survives with the status in it. -/
theorem survives_toJson (r : NodeReport) : r.toJson.Survives := by
  simp [toJson, r.status.survives_toJson, Tree.survives_record_iff]

/-- A node report reads back where two levels are left: its own and that of its status. -/
theorem ofJson?_toJson {levels : Nat} (h : 2 ≤ levels) (r : NodeReport) :
    ofJson? levels r.toJson = some r := by
  -- the status is a tagged value, and one level is taken by the report around it
  have hstatus : Status.ofJson? (levels - 1) r.status.toJson = some r.status :=
    Status.ofJson?_toJson (by omega) r.status
  rw [ofJson?, toJson, Tree.fields?_record (by simp)]
  simp [List.lookup_cons, required, hstatus, Tree.bool?]

end NodeReport

namespace Diagnosis

/-- A diagnosis survives with the reports in its list. -/
theorem survives_toJson (d : Diagnosis) : d.toJson.Survives := by
  have hnodes : ∀ t ∈ d.nodes.map NodeReport.toJson, t.Survives := by
    intro t ht
    obtain ⟨r, -, rfl⟩ := List.mem_map.mp ht
    exact r.survives_toJson
  simp [toJson, CorrelationId.toJson, Tree.survives_record_iff,
    Tree.survives_array_iff.mpr hnodes]

/-- A diagnosis reads back where four levels are left: its own, that of the list, and the two of a
report. -/
theorem ofJson?_toJson {levels : Nat} (h : 4 ≤ levels) (d : Diagnosis) :
    ofJson? levels d.toJson = some d := by
  have hnodes : Tree.list? (NodeReport.ofJson? (levels - 2))
      (.array (d.nodes.map NodeReport.toJson)) = some d.nodes :=
    Tree.list?_map fun r _ => NodeReport.ofJson?_toJson (by omega) r
  rw [ofJson?, toJson, Tree.fields?_record (by simp)]
  simp [List.lookup_cons, required, CorrelationId.ofJson?_toJson, hnodes]

end Diagnosis

/-! ### Replies -/

/-- Each kind of reply has a word of its own. -/
theorem ReplyKind.ofJson?_toJson (k : ReplyKind) : ofJson? k.toJson = some k := by
  have hword : ofWord? k.word = some k := by cases k <;> decide
  exact hword

namespace Reply

/-- A reply survives with a diagnosis and without. -/
theorem survives_toJson (r : Reply) : r.toJson.Survives := by
  cases h : r.diagnosis with
  | none => simp [toJson, h, optionalMember, ReplyKind.toJson, Tree.survives_record_iff]
  | some d =>
    simp [toJson, h, optionalMember, ReplyKind.toJson, Tree.survives_record_iff, d.survives_toJson]

/-- A reply reads back. Its diagnosis stands one level inside, and there is room enough. -/
theorem ofJson?_toJson (r : Reply) : ofJson? r.toJson = some r := by
  have hdiagnosis : optional (Diagnosis.ofJson? (maxDepth - 1))
      (r.diagnosis.map Diagnosis.toJson) = some r.diagnosis :=
    Json.optional_map (Diagnosis.ofJson?_toJson (by decide)) rfl _
  rw [ofJson?, toJson, Tree.fields?_record]
  · simp [List.lookup_cons, Json.lookup_optionalMember, required, ReplyKind.ofJson?_toJson,
      hdiagnosis]
  · cases r.diagnosis <;> simp [optionalMember]

/-- The text of a reply reads back. -/
theorem parse?_write (r : Reply) : parse? r.write = some r := by
  rw [parse?, write, Tree.read?_write r.survives_toJson, Option.bind_eq_bind, Option.bind_some,
    ofJson?_toJson]

end Reply

/-! ### All of them -/

/-- Reading undoes writing, so that no two values have one text. -/
structure Faithful {α : Type} (write : α → String) (read : String → Option α) : Prop where
  read_write : ∀ a, read (write a) = some a
  injective : Function.Injective write

/-- Reading that undoes writing tells values apart by their texts. -/
theorem Faithful.of_read_write {α : Type} {write : α → String} {read : String → Option α}
    (h : ∀ a, read (write a) = some a) : Faithful write read where
  read_write := h
  injective := by
    intro a b hab
    have hread : some a = some b := by rw [← h a, ← h b, hab]
    exact Option.some.inj hread

/-- It is enough to look at the tree between the value and the text. -/
theorem Faithful.of_tree {α : Type} {toTree : α → Tree} {ofTree? : Tree → Option α}
    (hsurvives : ∀ a, (toTree a).Survives) (h : ∀ a, ofTree? (toTree a) = some a) :
    Faithful (fun a => (toTree a).write) fun text => (Tree.read? text).bind ofTree? := by
  refine .of_read_write fun a => ?_
  rw [Tree.read?_write (hsurvives a), Option.bind_some, h]

/-- **What is sent reads back.** Replies, diagnoses and their parts, verdicts, and all that nodes
say about their chains are read from their texts as what they were, and no two of them have one
text. -/
theorem wire_faithful :
    Faithful Reply.write Reply.parse? ∧
    Faithful (fun d : Diagnosis => d.toJson.write)
      (fun text => (Tree.read? text).bind (Diagnosis.ofJson? maxDepth)) ∧
    Faithful (fun r : NodeReport => r.toJson.write)
      (fun text => (Tree.read? text).bind (NodeReport.ofJson? maxDepth)) ∧
    Faithful (fun s : Status => s.toJson.write)
      (fun text => (Tree.read? text).bind (Status.ofJson? maxDepth)) ∧
    Faithful (fun v : Verdict => v.toJson.write)
      (fun text => (Tree.read? text).bind Verdict.ofJson?) ∧
    Faithful (fun b : BlockId => b.toJson.write)
      (fun text => (Tree.read? text).bind BlockId.ofJson?) ∧
    Faithful (fun i : ChainInfo => i.toJson.write)
      (fun text => (Tree.read? text).bind ChainInfo.ofJson?) ∧
    Faithful (fun e : TransactionEntry => e.toJson.write)
      (fun text => (Tree.read? text).bind TransactionEntry.ofJson?) ∧
    Faithful (fun l : TransactionLocation => l.toJson.write)
      (fun text => (Tree.read? text).bind TransactionLocation.ofJson?) ∧
    Faithful (fun id : CorrelationId => id.toJson.write)
      (fun text => (Tree.read? text).bind CorrelationId.ofJson?) :=
  ⟨.of_read_write Reply.parse?_write,
    .of_tree Diagnosis.survives_toJson (Diagnosis.ofJson?_toJson (by decide)),
    .of_tree NodeReport.survives_toJson (NodeReport.ofJson?_toJson (by decide)),
    .of_tree Status.survives_toJson (Status.ofJson?_toJson (by decide)),
    .of_tree (fun _ => rfl) Verdict.ofJson?_toJson,
    .of_tree (fun _ => rfl) BlockId.ofJson?_toJson,
    .of_tree ChainInfo.survives_toJson ChainInfo.ofJson?_toJson,
    .of_tree TransactionEntry.survives_toJson TransactionEntry.ofJson?_toJson,
    .of_tree TransactionLocation.survives_toJson TransactionLocation.ofJson?_toJson,
    .of_tree (fun _ => rfl) CorrelationId.ofJson?_toJson⟩

end ChainWatch
