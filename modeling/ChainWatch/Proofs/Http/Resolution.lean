import ChainWatch.Http.NodeClient
import Mathlib.Data.List.Basic

/-!
# What a node is taken to say about a transaction

To ask a node about a transaction takes one request or two (`NodeClient.resolve`), and each of them
can fail in several ways. This file sorts what may happen by what comes of it. A transport is any
function from requests to results; no request is sent twice in one inquiry, so a transport that
changes its mind is covered as well.

`Inquiry` is the list of courses that an inquiry can take, each with what it concludes and what it
has asked. Its conditions are about the statuses and the bodies that came back, the bodies taken as
JSON: which members they have (`TransactionEntry.Stands`), and not which reader accepts them.
`inquiry_resolve` says that `resolve` takes the course that the transport prescribes.

From the courses we read off (`resolve_sorts`) that only a status outside 2xx means that the node
does not know the transaction, that only an entry with a block id, its own or the one of the block,
means a location, and that everything else is a fault. What goes wrong with the second request is a
fault in particular: it neither takes back a location nor makes one.
-/

namespace ChainWatch

open Json (Tree required)

/-! ### Bodies as JSON -/

theorem BlockId.ofJson?_eq_some_iff {t : Tree} {b : BlockId} :
    BlockId.ofJson? t = some b ↔ t = .text b.text := by
  cases t with
  | string s =>
    obtain ⟨text⟩ := b
    simp [BlockId.ofJson?, Tree.string?, Tree.text]
  | _ => simp [BlockId.ofJson?, Tree.string?, Tree.text]

/-- The member that holds the id of a block: absent or null if there is none. -/
def BlockId.StandsIn (field : Option Tree) : Option BlockId → Prop
  | none => field = none ∨ field = some .null
  | some b => field = some (.text b.text)

theorem BlockId.optional_eq_some_iff {field : Option Tree} {o : Option BlockId} :
    Json.optional BlockId.ofJson? field = some o ↔ BlockId.StandsIn field o := by
  cases field with
  | none => cases o <;> simp [Json.optional, StandsIn]
  | some t =>
    by_cases hnull : t = .null
    · subst hnull
      cases o <;> simp [Json.optional, Tree.nullable?, StandsIn, Tree.text]
    · -- a member that is there and not null is read
      have hread : Json.optional BlockId.ofJson? (some t) = (BlockId.ofJson? t).map some := by
        cases t with
        | null => exact absurd rfl hnull
        | _ => rfl
      rw [hread, Option.map_eq_some_iff]
      cases o with
      | none => simp [StandsIn, hnull]
      | some b => simp [StandsIn, BlockId.ofJson?_eq_some_iff]

/-- A tree has the members of an entry, with these values. -/
def TransactionEntry.Stands (e : TransactionEntry) (t : Tree) : Prop :=
  ∃ number transaction block,
    t.fields? ["block_num", "trx_id", "block_id"] = some [some number, some transaction, block] ∧
      number.uint64? = some e.blockNumber ∧ transaction.string? = some e.transactionId ∧
      BlockId.StandsIn block e.blockId

theorem TransactionEntry.ofJson?_eq_some_iff {t : Tree} {e : TransactionEntry} :
    TransactionEntry.ofJson? t = some e ↔ e.Stands t := by
  unfold TransactionEntry.ofJson? Stands
  simp only [Option.bind_eq_bind, Option.bind_eq_some_iff]
  constructor
  · rintro ⟨values, hvalues, h⟩
    -- the reader takes the members one after the other
    split at h
    · next number transaction block =>
      simp only [required, Option.bind_eq_some_iff] at h
      obtain ⟨n, ⟨number, rfl, hn⟩, x, ⟨transaction, rfl, hx⟩, b, hb, he⟩ := h
      cases he
      exact ⟨number, transaction, block, hvalues, hn, hx, BlockId.optional_eq_some_iff.mp hb⟩
    · cases h
  · rintro ⟨number, transaction, block, hvalues, hn, hx, hb⟩
    refine ⟨_, hvalues, ?_⟩
    simp only [required, Option.bind_some, hn, hx, BlockId.optional_eq_some_iff.mpr hb]
    rfl

theorem BlockId.ofBlockJson?_eq_some_iff {t : Tree} {b : BlockId} :
    BlockId.ofBlockJson? t = some b ↔ t.fields? ["id"] = some [some (.text b.text)] := by
  unfold BlockId.ofBlockJson?
  simp only [Option.bind_eq_bind, Option.bind_eq_some_iff]
  constructor
  · rintro ⟨values, hvalues, h⟩
    split at h
    · next id =>
      simp only [required, Option.bind_eq_some_iff] at h
      obtain ⟨t', rfl, hb⟩ := h
      rw [hvalues, BlockId.ofJson?_eq_some_iff.mp hb]
    · cases h
  · intro hvalues
    exact ⟨_, hvalues, BlockId.ofJson?_eq_some_iff.mpr rfl⟩

namespace Http

/-- The status is one of those from 200 to 299. -/
def Response.Is2xx (r : Response) : Prop := 200 ≤ r.status ∧ r.status ≤ 299

theorem Response.isSuccess_iff {r : Response} : r.isSuccess = true ↔ r.Is2xx := by
  unfold Response.isSuccess Response.Is2xx
  rw [Bool.and_eq_true, decide_eq_true_eq, decide_eq_true_eq]
  simp only [UInt16.le_iff_toNat_le, UInt16.lt_iff_toNat_lt]
  refine and_congr_right fun _ => ?_
  exact Nat.lt_succ_iff

/-- A success whose body is the JSON of a tree. Where bytes are not UTF-8, the body is still JSON if
they stand in a string, and what denotes nothing in the tree is that string. -/
def Response.Shows (r : Response) (t : Tree) : Prop :=
  r.Is2xx ∧ Tree.readBytes? r.body = some t

/-- A body is read as JSON if it is JSON and the tree is read. -/
theorem Response.exists_shows_iff {α : Type} {read : Tree → Option α} {r : Response} {a : α} :
    (∃ t, r.Shows t ∧ read t = some a) ↔ r.isSuccess = true ∧ r.json? read = some a := by
  unfold Response.Shows Response.json?
  simp only [Response.isSuccess_iff, Option.bind_eq_some_iff, and_assoc, exists_and_left]

/-- An entry with a transaction and a memo of the given bytes. -/
private def entryBody (transaction memo : List UInt8) : List UInt8 :=
  encodeUtf8 "\x7b\"block_num\":100,\"trx_id\":\"" ++ transaction ++
    encodeUtf8 "\",\"memo\":\"" ++ memo ++ encodeUtf8 "\"\x7d"

/-- A memo that is not UTF-8 does no harm, since nobody reads it. -/
example : ({ status := 200, body := entryBody [0x74] [0xFF] } : Response).json?
    TransactionEntry.ofJson? = some ⟨100, "t", none⟩ := by decide +kernel

/-- A transaction that is not UTF-8 is none. -/
example : ({ status := 200, body := entryBody [0xFF] [0x74] } : Response).json?
    TransactionEntry.ofJson? = none := by decide +kernel

namespace NodeClient

/-! ### What may come back -/

/-- The request that asks a node about a transaction. -/
def lookupRequest (node : String) (id : CorrelationId) : Request :=
  .post (linkAddress node) (.record [("link_id", id.toJson)])

/-- The request that asks a node for a block. -/
def blockRequest (node : String) (number : UInt64) : Request :=
  .post (blockAddress node) (.record [("block_num_or_id", .word number)])

/-- The two go to different addresses, which part after the url of the node. -/
theorem lookupRequest_ne_blockRequest (node : String) (id : CorrelationId) (number : UInt64) :
    lookupRequest node id ≠ blockRequest node number := by
  intro h
  have haddress : linkAddress node = blockAddress node := congrArg Request.address h
  -- the url of the node is in front of both and may be anything, so it is taken off first
  have hlists := congrArg String.toList haddress
  rw [linkAddress, blockAddress, String.toList_append, String.toList_append] at hlists
  exact absurd (List.append_cancel_left hlists) (by decide)

variable {transport : Request → Result} {node : String} {id : CorrelationId}

/-- The node answers the lookup with an entry. -/
def Answers (transport : Request → Result) (node : String) (id : CorrelationId)
    (e : TransactionEntry) : Prop :=
  ∃ r t, transport (lookupRequest node id) = .ok r ∧ r.Shows t ∧ e.Stands t

/-- A request brings a block, and the block has its id. -/
def BringsBlock (transport : Request → Result) (q : Request) (b : BlockId) : Prop :=
  ∃ r t, transport q = .ok r ∧ r.Shows t ∧ t.fields? ["id"] = some [some (.text b.text)]

theorem answers_iff {e : TransactionEntry} :
    Answers transport node id e ↔ ∃ r, transport (lookupRequest node id) = .ok r ∧
      r.isSuccess = true ∧ r.json? TransactionEntry.ofJson? = some e := by
  unfold Answers
  simp only [← Response.exists_shows_iff, TransactionEntry.ofJson?_eq_some_iff, exists_and_left]

theorem bringsBlock_iff {q : Request} {b : BlockId} :
    BringsBlock transport q b ↔
      ∃ r, transport q = .ok r ∧ r.isSuccess = true ∧ r.json? BlockId.ofBlockJson? = some b := by
  unfold BringsBlock
  simp only [← Response.exists_shows_iff, BlockId.ofBlockJson?_eq_some_iff, exists_and_left]

/-- A request is answered once, so what is read from the answer is one thing. -/
theorem read_unique {α : Type} {read : Tree → Option α} {q : Request} {a a' : α}
    (h : ∃ r, transport q = .ok r ∧ r.isSuccess = true ∧ r.json? read = some a)
    (h' : ∃ r, transport q = .ok r ∧ r.isSuccess = true ∧ r.json? read = some a') : a = a' := by
  obtain ⟨r, hr, -, ha⟩ := h
  obtain ⟨r', hr', -, ha'⟩ := h'
  rw [hr] at hr'
  cases hr'
  rw [ha] at ha'
  exact Option.some.inj ha'

theorem Answers.unique {e e' : TransactionEntry} (h : Answers transport node id e)
    (h' : Answers transport node id e') : e = e' :=
  read_unique (answers_iff.mp h) (answers_iff.mp h')

theorem BringsBlock.unique {q : Request} {b b' : BlockId} (h : BringsBlock transport q b)
    (h' : BringsBlock transport q b') : b = b' :=
  read_unique (bringsBlock_iff.mp h) (bringsBlock_iff.mp h')

/-- An entry comes with a status of success. -/
theorem Answers.exists_response {e : TransactionEntry} (h : Answers transport node id e) :
    ∃ r, transport (lookupRequest node id) = .ok r ∧ r.Is2xx := by
  obtain ⟨r, t, hr, ⟨hstatus, -⟩, -⟩ := h
  exact ⟨r, hr, hstatus⟩

theorem not_answers_of_error {fault : TransportFault}
    (h : transport (lookupRequest node id) = .error fault) (e : TransactionEntry) :
    ¬ Answers transport node id e := by
  intro he
  obtain ⟨r, hr, -⟩ := he.exists_response
  rw [h] at hr
  cases hr

theorem not_answers_of_not_is2xx {r : Response} (h : transport (lookupRequest node id) = .ok r)
    (hstatus : ¬ r.Is2xx) (e : TransactionEntry) : ¬ Answers transport node id e := by
  intro he
  obtain ⟨r', hr', hstatus'⟩ := he.exists_response
  rw [h] at hr'
  cases hr'
  exact hstatus hstatus'

/-! ### The courses of an inquiry -/

/-- What an inquiry concludes, and what it has asked. -/
inductive Inquiry (transport : Request → Result) (node : String) (id : CorrelationId) :
    Except NodeFault Resolution → List Request → Prop where
  | unanswered {fault : TransportFault} (h : transport (lookupRequest node id) = .error fault) :
    Inquiry transport node id (.error fault.nodeFault) [lookupRequest node id]
  | refused {r : Response} (h : transport (lookupRequest node id) = .ok r) (hstatus : ¬ r.Is2xx) :
    Inquiry transport node id (.ok (.notFound r.text)) [lookupRequest node id]
  | unreadable {r : Response} (h : transport (lookupRequest node id) = .ok r)
    (hstatus : r.Is2xx) (hbody : ∀ e, ¬ Answers transport node id e) :
    Inquiry transport node id (.error (.undecodable undecodableBody)) [lookupRequest node id]
  | told {number : UInt64} {transaction : String} {b : BlockId}
    (h : Answers transport node id ⟨number, transaction, some b⟩) :
    Inquiry transport node id (.ok (.located ⟨⟨number, b⟩, transaction⟩)) [lookupRequest node id]
  | found {number : UInt64} {transaction : String} {b : BlockId}
    (h : Answers transport node id ⟨number, transaction, none⟩)
    (hb : BringsBlock transport (blockRequest node number) b) :
    Inquiry transport node id (.ok (.located ⟨⟨number, b⟩, transaction⟩))
      [lookupRequest node id, blockRequest node number]
  | lost {number : UInt64} {transaction : String} {fault : NodeFault}
    (h : Answers transport node id ⟨number, transaction, none⟩)
    (hb : ∀ b, ¬ BringsBlock transport (blockRequest node number) b) :
    Inquiry transport node id (.error fault) [lookupRequest node id, blockRequest node number]

/-- What only a success can tell is asked for once. -/
theorem run_fetch {α : Type} (read : Tree → Option α) (q : Request) :
    (fetch read q).run transport
      = (match transport q with
          | .error fault => .error fault.nodeFault
          | .ok r => readSuccess read r, [q]) := by
  unfold fetch
  rw [Dialogue.run_ask]
  cases transport q <;> rfl

theorem readSuccess_eq_ok_iff {α : Type} {read : Tree → Option α} {r : Response} {a : α} :
    readSuccess read r = .ok a ↔ r.isSuccess = true ∧ r.json? read = some a := by
  unfold readSuccess
  by_cases hsuccess : r.isSuccess = true
  · rw [if_pos hsuccess]
    -- a body that cannot be read is a fault, and so is a status without success
    cases r.json? read with
    | none => simp
    | some a' => simp [hsuccess]
  · rw [if_neg hsuccess]
    simp [hsuccess]

/-- Asking for a block gives its id exactly if the node gives the block. -/
theorem run_blockId_eq_ok_iff {number : UInt64} {b : BlockId} :
    ((blockId node number).run transport).1 = .ok b
      ↔ BringsBlock transport (blockRequest node number) b := by
  rw [blockId, run_fetch, bringsBlock_iff]
  -- the request that is sent is the one that asks for this block
  change (match transport (blockRequest node number) with
    | .error fault => Except.error fault.nodeFault
    | .ok r => readSuccess BlockId.ofBlockJson? r) = .ok b ↔ _
  cases transport (blockRequest node number) with
  | error fault => simp
  | ok r => simp [readSuccess_eq_ok_iff]

theorem run_blockId_snd (transport : Request → Result) (node : String) (number : UInt64) :
    ((blockId node number).run transport).2 = [blockRequest node number] := by
  rw [blockId, run_fetch]
  rfl

/-- An inquiry takes the course that the transport prescribes. -/
theorem inquiry_resolve (transport : Request → Result) (node : String) (id : CorrelationId) :
    Inquiry transport node id ((resolve node id).run transport).1
      ((resolve node id).run transport).2 := by
  -- the lookup comes first in every course
  have hasked : transport (.post (linkAddress node) (.record [("link_id", id.toJson)]))
      = transport (lookupRequest node id) := rfl
  unfold resolve
  rw [Dialogue.run_ask, hasked]
  change Inquiry transport node id _ (lookupRequest node id :: _)
  cases hlookup : transport (lookupRequest node id) with
  | error fault => exact .unanswered hlookup
  | ok r =>
    dsimp only
    by_cases hsuccess : r.isSuccess = true
    · rw [if_pos hsuccess]
      cases hread : r.json? TransactionEntry.ofJson? with
      | none =>
        -- an entry would have been read
        refine .unreadable hlookup (Response.isSuccess_iff.mp hsuccess) fun e he => ?_
        obtain ⟨r', hr', -, he⟩ := answers_iff.mp he
        rw [hlookup] at hr'
        cases hr'
        rw [hread] at he
        cases he
      | some e =>
        have he : Answers transport node id e := answers_iff.mpr ⟨r, hlookup, hsuccess, hread⟩
        obtain ⟨number, transaction, block⟩ := e
        cases block with
        | some b => exact .told he
        | none =>
          -- the second request decides
          dsimp only
          rw [Dialogue.run_bind, run_blockId_snd]
          cases hresult : ((blockId node number).run transport).1 with
          | error fault =>
            refine .lost he fun b hgives => ?_
            rw [run_blockId_eq_ok_iff.mpr hgives] at hresult
            cases hresult
          | ok b => exact .found he (run_blockId_eq_ok_iff.mp hresult)
    · rw [if_neg hsuccess]
      exact .refused hlookup fun h => hsuccess (Response.isSuccess_iff.mpr h)

/-! ### What is concluded -/

namespace Inquiry

variable {outcome : Except NodeFault Resolution} {asked : List Request}

theorem eq_notFound_iff (h : Inquiry transport node id outcome asked) {words : String} :
    outcome = .ok (.notFound words) ↔
      ∃ r, transport (lookupRequest node id) = .ok r ∧ ¬ r.Is2xx ∧ r.text = words := by
  cases h with
  | unanswered h => simp [h]
  | refused h hstatus => simp [h, hstatus]
  | unreadable h hstatus => simp [h, hstatus]
  -- from here on the lookup was answered with an entry, and so with a success
  | told h =>
    obtain ⟨r, hr, hstatus⟩ := h.exists_response
    simp [hr, hstatus]
  | found h hb =>
    obtain ⟨r, hr, hstatus⟩ := h.exists_response
    simp [hr, hstatus]
  | lost h hb =>
    obtain ⟨r, hr, hstatus⟩ := h.exists_response
    simp [hr, hstatus]

theorem eq_located_iff (h : Inquiry transport node id outcome asked) {l : TransactionLocation} :
    outcome = .ok (.located l) ↔
      Answers transport node id ⟨l.block.number, l.transactionId, some l.block.id⟩ ∨
      Answers transport node id ⟨l.block.number, l.transactionId, none⟩ ∧
        BringsBlock transport (blockRequest node l.block.number) l.block.id := by
  obtain ⟨⟨n, b⟩, x⟩ := l
  dsimp only
  -- an entry is unique, so a course that has one excludes those with another
  cases h with
  | unanswered h => simp [not_answers_of_error h]
  | refused h hstatus => simp [not_answers_of_not_is2xx h hstatus]
  | unreadable h hstatus hbody => simp [hbody]
  | told h =>
    constructor
    · intro heq
      cases heq
      exact Or.inl h
    · rintro (h' | ⟨h', -⟩)
      · cases h'.unique h
        rfl
      · cases h'.unique h
  | found h hb =>
    constructor
    · intro heq
      cases heq
      exact Or.inr ⟨h, hb⟩
    · rintro (h' | ⟨h', hb'⟩)
      · cases h'.unique h
      · cases h'.unique h
        rw [hb'.unique hb]
  | lost h hb =>
    constructor
    · intro heq
      cases heq
    · rintro (h' | ⟨h', hb'⟩)
      · cases h'.unique h
      · cases h'.unique h
        exact absurd hb' (hb b)

theorem exists_eq_error_iff (h : Inquiry transport node id outcome asked) :
    (∃ fault, outcome = .error fault) ↔
      (∃ fault, transport (lookupRequest node id) = .error fault) ∨
      (∃ r, transport (lookupRequest node id) = .ok r ∧ r.Is2xx ∧
        ∀ e, ¬ Answers transport node id e) ∨
      ∃ number transaction, Answers transport node id ⟨number, transaction, none⟩ ∧
        ∀ b, ¬ BringsBlock transport (blockRequest node number) b := by
  cases h with
  | unanswered h => exact ⟨fun _ => Or.inl ⟨_, h⟩, fun _ => ⟨_, rfl⟩⟩
  | unreadable h hstatus hbody =>
    exact ⟨fun _ => Or.inr (Or.inl ⟨_, h, hstatus, hbody⟩), fun _ => ⟨_, rfl⟩⟩
  | lost h hb => exact ⟨fun _ => Or.inr (Or.inr ⟨_, _, h, hb⟩), fun _ => ⟨_, rfl⟩⟩
  | refused h hstatus =>
    refine ⟨nofun, ?_⟩
    rintro (⟨fault, hfault⟩ | ⟨r, hr, hstatus', -⟩ | ⟨number, transaction, he, -⟩)
    · rw [h] at hfault
      cases hfault
    · rw [h] at hr
      cases hr
      exact absurd hstatus' hstatus
    · exact absurd he (not_answers_of_not_is2xx h hstatus _)
  | told h =>
    refine ⟨nofun, ?_⟩
    rintro (⟨fault, hfault⟩ | ⟨r, -, -, hbody⟩ | ⟨number, transaction, he, -⟩)
    · exact absurd h (not_answers_of_error hfault _)
    · exact absurd h (hbody _)
    · cases he.unique h
  | found h hb =>
    refine ⟨nofun, ?_⟩
    rintro (⟨fault, hfault⟩ | ⟨r, -, -, hbody⟩ | ⟨number, transaction, he, hnone⟩)
    · exact absurd h (not_answers_of_error hfault _)
    · exact absurd h (hbody _)
    · cases he.unique h
      exact absurd hb (hnone _)

/-- What is asked after the lookup depends on the entry alone. -/
theorem asked_eq (h : Inquiry transport node id outcome asked) :
    (∀ number transaction, Answers transport node id ⟨number, transaction, none⟩ →
        asked = [lookupRequest node id, blockRequest node number]) ∧
      ((∀ number transaction, ¬ Answers transport node id ⟨number, transaction, none⟩) →
        asked = [lookupRequest node id]) := by
  cases h with
  | unanswered h => exact ⟨fun _ _ he => absurd he (not_answers_of_error h _), fun _ => rfl⟩
  | refused h hstatus =>
    exact ⟨fun _ _ he => absurd he (not_answers_of_not_is2xx h hstatus _), fun _ => rfl⟩
  | unreadable h hstatus hbody => exact ⟨fun _ _ he => absurd he (hbody _), fun _ => rfl⟩
  | told h =>
    refine ⟨fun number transaction he => ?_, fun _ => rfl⟩
    cases he.unique h
  | found h hb =>
    refine ⟨fun number transaction he => ?_, fun hno => absurd h (hno _ _)⟩
    cases he.unique h
    rfl
  | lost h hb =>
    refine ⟨fun number transaction he => ?_, fun hno => absurd h (hno _ _)⟩
    cases he.unique h
    rfl

/-- A second request that brings no block is a fault. -/
theorem exists_eq_error_of_mem (h : Inquiry transport node id outcome asked) {q : Request}
    (hq : q ∈ asked) (hne : q ≠ lookupRequest node id) (hnone : ∀ b, ¬ BringsBlock transport q b) :
    ∃ fault, outcome = .error fault := by
  cases h with
  | found h hb =>
    simp only [List.mem_cons, List.not_mem_nil, or_false] at hq
    -- the one other request is that for the block, and it has brought the block
    rcases hq with rfl | rfl
    · exact absurd rfl hne
    · exact absurd hb (hnone _)
  | lost h hb => exact ⟨_, rfl⟩
  | unanswered h => exact ⟨_, rfl⟩
  | unreadable h hstatus hbody => exact ⟨_, rfl⟩
  | refused h hstatus => exact absurd (List.mem_singleton.mp hq) hne
  | told h => exact absurd (List.mem_singleton.mp hq) hne

end Inquiry

/-- **What a node is taken to say.** It does not know the transaction exactly if it answers the
lookup with a status outside 2xx. It gives a location exactly if its answer is an entry that has the
id of the block, or that has none while the block itself, asked for by the number in the entry, has
it. In the three other cases there is a fault. The block is asked for once if the answer is an entry
without the id, and never otherwise; and if it is asked for and not given, that is a fault. -/
theorem resolve_sorts (transport : Request → Result) (node : String) (id : CorrelationId) :
    let outcome := ((resolve node id).run transport).1
    let asked := ((resolve node id).run transport).2
    (∀ words, outcome = .ok (.notFound words) ↔
      ∃ r, transport (lookupRequest node id) = .ok r ∧ ¬ r.Is2xx ∧ r.text = words) ∧
    (∀ l, outcome = .ok (.located l) ↔
      Answers transport node id ⟨l.block.number, l.transactionId, some l.block.id⟩ ∨
      Answers transport node id ⟨l.block.number, l.transactionId, none⟩ ∧
        BringsBlock transport (blockRequest node l.block.number) l.block.id) ∧
    ((∃ fault, outcome = .error fault) ↔
      (∃ fault, transport (lookupRequest node id) = .error fault) ∨
      (∃ r, transport (lookupRequest node id) = .ok r ∧ r.Is2xx ∧
        ∀ e, ¬ Answers transport node id e) ∨
      ∃ number transaction, Answers transport node id ⟨number, transaction, none⟩ ∧
        ∀ b, ¬ BringsBlock transport (blockRequest node number) b) ∧
    ((∀ number, lookupRequest node id ≠ blockRequest node number) ∧
      (∀ number transaction, Answers transport node id ⟨number, transaction, none⟩ →
        asked = [lookupRequest node id, blockRequest node number]) ∧
      ((∀ number transaction, ¬ Answers transport node id ⟨number, transaction, none⟩) →
        asked = [lookupRequest node id])) ∧
    (∀ res, outcome = .ok res → (res.answer = .rejected ↔
      ∃ r, transport (lookupRequest node id) = .ok r ∧ ¬ r.Is2xx)) ∧
    ∀ q ∈ asked, q ≠ lookupRequest node id → (∀ b, ¬ BringsBlock transport q b) →
      ∃ fault, outcome = .error fault := by
  have h := inquiry_resolve transport node id
  intro outcome asked
  refine ⟨fun words => h.eq_notFound_iff, fun l => h.eq_located_iff, h.exists_eq_error_iff,
    ⟨lookupRequest_ne_blockRequest node id, h.asked_eq⟩, ?_, ?_⟩
  · intro res hres
    -- only the words that come with a refusal are an answer without a location
    have hwords : res.answer = .rejected ↔ ∃ words, outcome = .ok (.notFound words) := by
      rw [hres]
      cases res <;> simp [Resolution.answer]
    simp only [hwords, outcome, h.eq_notFound_iff]
    constructor
    · rintro ⟨words, r, hr, hstatus, -⟩
      exact ⟨r, hr, hstatus⟩
    · rintro ⟨r, hr, hstatus⟩
      exact ⟨r.text, r, hr, hstatus, rfl⟩
  · intro q hq hne hnone
    exact h.exists_eq_error_of_mem hq hne hnone

end NodeClient

end Http

end ChainWatch
