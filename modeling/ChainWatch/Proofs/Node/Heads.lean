import ChainWatch.Node.Heads
import ChainWatch.Proofs.Node.List
import Mathlib.Logic.Function.Basic

/-!
# What the measured heads tell

To measure the heads is to call the roll: the nodes are asked in their order, up to the first that
fails to answer (`RollCall`). As no url is there twice, no node is asked twice, and so nothing is
lost when the answers are given as a function of the urls (`exists_run_askFrom`).

While nodes are asked, a copy of their list is kept in which those asked have their new heads and
the others their old ones. `rollCall_askFrom` follows the copy; at the end of a roll that nobody
failed all old heads are gone, and what is measured depends on the answers alone.

The spread is the highest head less the lowest, as words. As the lowest is not above the highest, it
is their distance as numbers too (`IsSpread`), and it is below a bound exactly if any two heads
differ by less (`IsSpread.lt_iff`).
-/

namespace ChainWatch

namespace NodeList

variable {bound : UInt64} {ws : List UInt64} {l : NodeList}

/-! ### The highest and the lowest -/

/-- To pick one of two again and again, never one that is behind the other, is to pick one of all
that is behind none. -/
theorem foldl_pick_spec {α : Type} {le : α → α → Prop} {pick : α → α → α} (hrefl : ∀ a, le a a)
    (htrans : ∀ {a b c}, le a b → le b c → le a c)
    (hpick : ∀ a b, (pick a b = a ∨ pick a b = b) ∧ le a (pick a b) ∧ le b (pick a b))
    (a : α) (as : List α) :
    as.foldl pick a ∈ a :: as ∧ ∀ b ∈ a :: as, le b (as.foldl pick a) := by
  induction as generalizing a with
  | nil => simp [hrefl]
  | cons b as ih =>
    -- from here on the one that is picked of the first two stands for both
    obtain ⟨hmem, hle⟩ := ih (pick a b)
    obtain ⟨hone, ha, hb⟩ := hpick a b
    rw [List.forall_mem_cons] at hle
    rw [List.foldl_cons]
    refine ⟨?_, List.forall_mem_cons.mpr ⟨htrans ha hle.1,
      List.forall_mem_cons.mpr ⟨htrans hb hle.1, hle.2⟩⟩⟩
    rcases List.mem_cons.mp hmem with heq | hmem
    · rw [heq]
      rcases hone with h | h <;> simp [h]
    · exact List.mem_cons_of_mem _ (List.mem_cons_of_mem _ hmem)

theorem highest_spec (h : ws ≠ []) : highest ws ∈ ws ∧ ∀ w ∈ ws, w ≤ highest ws := by
  obtain ⟨w, ws, rfl⟩ := List.exists_cons_of_ne_nil h
  have hmax : ∀ a b : UInt64, max a b = if a ≤ b then b else a := fun _ _ => rfl
  -- nothing is below zero, where the search begins
  have hzero : highest (w :: ws) = ws.foldl max w := by
    rw [highest, List.foldl_cons, hmax, if_pos UInt64.zero_le]
  rw [hzero]
  have hpick : ∀ a b : UInt64, (max a b = a ∨ max a b = b) ∧ a ≤ max a b ∧ b ≤ max a b := by
    intro a b
    rw [hmax]
    split
    · exact ⟨Or.inr rfl, ‹_›, UInt64.le_refl b⟩
    · exact ⟨Or.inl rfl, UInt64.le_refl a, (UInt64.le_total a b).resolve_left ‹_›⟩
  exact foldl_pick_spec UInt64.le_refl UInt64.le_trans hpick w ws

theorem lowest_spec (h : ws ≠ []) : lowest ws ∈ ws ∧ ∀ w ∈ ws, lowest ws ≤ w := by
  obtain ⟨w, ws, rfl⟩ := List.exists_cons_of_ne_nil h
  have hmin : ∀ a b : UInt64, min a b = if a ≤ b then a else b := fun _ _ => rfl
  have hpick : ∀ a b : UInt64, (min a b = a ∨ min a b = b) ∧ min a b ≤ a ∧ min a b ≤ b := by
    intro a b
    rw [hmin]
    split
    · exact ⟨Or.inl rfl, UInt64.le_refl a, ‹_›⟩
    · exact ⟨Or.inr rfl, (UInt64.le_total a b).resolve_left ‹_›, UInt64.le_refl b⟩
  -- the order is turned around
  have hdown : ∀ {a b c : UInt64}, b ≤ a → c ≤ b → c ≤ a := fun hba hcb =>
    UInt64.le_trans hcb hba
  exact @foldl_pick_spec UInt64 (fun a b => b ≤ a) min UInt64.le_refl hdown hpick w ws

/-- How far words lie apart: from the lowest of them to the highest, as numbers. -/
def IsSpread (ws : List UInt64) (spread : UInt64) : Prop :=
  ∃ top ∈ ws, ∃ bottom ∈ ws,
    (∀ w ∈ ws, bottom ≤ w ∧ w ≤ top) ∧ spread.toNat + bottom.toNat = top.toNat

theorem isSpread_highest_sub_lowest (h : ws ≠ []) : IsSpread ws (highest ws - lowest ws) := by
  obtain ⟨htop, hbelow⟩ := highest_spec h
  obtain ⟨hbottom, habove⟩ := lowest_spec h
  refine ⟨_, htop, _, hbottom, fun w hw => ⟨habove w hw, hbelow w hw⟩, ?_⟩
  have hle : lowest ws ≤ highest ws := habove _ htop
  rw [UInt64.toNat_sub_of_le _ _ hle]
  exact Nat.sub_add_cancel (UInt64.le_iff_toNat_le.mp hle)

/-- The two ends decide for all pairs. -/
theorem IsSpread.lt_iff {spread : UInt64} (h : IsSpread ws spread) :
    spread < bound ↔ 0 < bound ∧ ∀ v ∈ ws, ∀ w ∈ ws, v.toNat < w.toNat + bound.toNat := by
  obtain ⟨top, htop, bottom, hbottom, hbetween, hspread⟩ := h
  simp only [UInt64.lt_iff_toNat_lt, UInt64.le_iff_toNat_le] at *
  constructor
  · intro hlt
    refine ⟨Nat.lt_of_le_of_lt (Nat.zero_le _) hlt, fun v hv w hw => ?_⟩
    have hv := (hbetween v hv).2
    have hw := (hbetween w hw).1
    omega
  · rintro ⟨-, hpairs⟩
    -- the ends are one of the pairs
    have hends := hpairs top htop bottom hbottom
    omega

theorem heads_ne_nil (l : NodeList) : l.heads ≠ [] :=
  fun h => l.nodes_ne_nil (List.map_eq_nil_iff.mp h)

end NodeList

/-! ### Calling the roll -/

/-- Urls are asked in their order, all of them or up to the first that fails. -/
inductive RollCall (answers : String → Except NodeFault ChainInfo) (urls : List String) :
    Except HeadsFault (List ChainInfo) → List String → Prop where
  | failed {before after : List String} {url : String} {fault : NodeFault}
    {infos : List ChainInfo} (hurls : urls = before ++ url :: after)
    (hbefore : before.map answers = infos.map .ok) (hfault : answers url = .error fault) :
    RollCall answers urls (.error ⟨url, fault⟩) (before ++ [url])
  | told {infos : List ChainInfo} (hall : urls.map answers = infos.map .ok) :
    RollCall answers urls (.ok infos) urls

variable {answers : String → Except NodeFault ChainInfo} {urls asked : List String} {url : String}
  {heard : Except HeadsFault (List ChainInfo)}

/-- One more url is asked first, and answers. -/
theorem RollCall.cons {info : ChainInfo} (hinfo : answers url = .ok info)
    (h : RollCall answers urls heard asked) :
    RollCall answers (url :: urls) (heard.map (info :: ·)) (url :: asked) := by
  cases h with
  | @failed before after _ _ infos hurls hbefore hfault =>
    have hmap : (url :: before).map answers = (info :: infos).map .ok := by
      rw [List.map_cons, List.map_cons, hinfo, hbefore]
    exact .failed (by rw [hurls, List.cons_append]) hmap hfault
  | told hall =>
    refine .told ?_
    rw [List.map_cons, List.map_cons, hinfo, hall]

theorem RollCall.isPrefix (h : RollCall answers urls heard asked) : asked <+: urls := by
  cases h with
  | failed hurls =>
    rw [hurls]
    exact ⟨_, List.append_assoc ..⟩
  | told => exact List.prefix_refl urls

theorem RollCall.length_eq {infos : List ChainInfo} (h : RollCall answers urls (.ok infos) asked) :
    infos.length = urls.length := by
  cases h with
  | told hall =>
    have hlength := congrArg List.length hall
    rwa [List.length_map, List.length_map, eq_comm] at hlength

namespace HeadSpread

/-- What urls and their heads measure. -/
def ofHeads (heads : List (String × UInt64)) : HeadSpread where
  heads := heads
  spread := NodeList.highest (heads.map Prod.snd) - NodeList.lowest (heads.map Prod.snd)

theorem ofNodes_eq (l : NodeList) : ofNodes l = ofHeads (l.nodes.map fun n => (n.url, n.head)) := by
  unfold ofNodes ofHeads NodeList.headSpread NodeList.heads
  rw [List.map_map]
  rfl

theorem isSpread_ofHeads_zip {infos : List ChainInfo} (hlength : infos.length = urls.length)
    (hsome : urls ≠ []) :
    NodeList.IsSpread (infos.map ChainInfo.head)
      (ofHeads (urls.zip (infos.map ChainInfo.head))).spread := by
  have hsize : (infos.map ChainInfo.head).length = urls.length := by
    rw [List.length_map, hlength]
  have hheads : (urls.zip (infos.map ChainInfo.head)).map Prod.snd = infos.map ChainInfo.head :=
    List.map_snd_zip (Nat.le_of_eq hsize)
  have hinfos : infos.map ChainInfo.head ≠ [] := by
    rw [← List.length_pos_iff, hsize]
    exact List.length_pos_iff.mpr hsome
  unfold ofHeads
  rw [hheads]
  exact NodeList.isSpread_highest_sub_lowest hinfos

/-- The nodes in front have been asked. Those behind are asked now, and what they answer takes the
place of what was known of them. -/
theorem rollCall_askFrom (answers : String → Except NodeFault ChainInfo) {done todo : List Node}
    {l : NodeList} (hl : l.nodes = done ++ todo) :
    ∃ heard asked, RollCall answers (todo.map Node.url) heard asked ∧
      (askFrom l ((todo.map Node.url).zipIdx done.length)).run answers
        = (heard.map fun infos => ofHeads (done.map (fun n => (n.url, n.head))
            ++ (todo.map Node.url).zip (infos.map ChainInfo.head)), asked) := by
  induction todo generalizing done l with
  | nil =>
    have hnobody : ([] : List String).map answers = ([] : List ChainInfo).map .ok := rfl
    refine ⟨.ok [], [], .told hnobody, ?_⟩
    rw [List.append_nil] at hl
    simp [askFrom, ofNodes_eq, hl, Except.map]
  | cons n todo ih =>
    rw [List.map_cons, List.zipIdx_cons, askFrom, Dialogue.run_ask]
    cases hanswer : answers n.url with
    | error fault =>
      have hnobody : ([] : List String).map answers = ([] : List ChainInfo).map .ok := rfl
      exact ⟨_, _, .failed (List.nil_append _).symm hnobody hanswer, rfl⟩
    | ok info =>
      -- the node joins those in front, with its new head
      have hheard : (l.hear done.length info).nodes
          = (done ++ [{ n with chain := some info }]) ++ todo := by
        change l.nodes.modify done.length (fun n => { n with chain := some info }) = _
        rw [hl, List.modify_eq_take_drop]
        simp
      obtain ⟨heard, asked, hroll, hrun⟩ := ih hheard
      rw [List.length_append, List.length_singleton] at hrun
      refine ⟨_, _, hroll.cons hanswer, ?_⟩
      dsimp only
      rw [hrun]
      cases heard <;> simp [Except.map, Node.head]

theorem mem_of_mem_asked_askFrom {l : NodeList} {todo : List (String × Nat)}
    (h : url ∈ ((askFrom l todo).run answers).2) : url ∈ todo.map Prod.fst := by
  induction todo generalizing l with
  | nil => cases h
  | cons target todo ih =>
    obtain ⟨first, node⟩ := target
    rw [askFrom, Dialogue.run_ask, List.mem_cons] at h
    rw [List.map_cons, List.mem_cons]
    refine h.imp id fun hrest => ?_
    cases hanswer : answers first with
    | error fault =>
      rw [hanswer] at hrest
      cases hrest
    | ok info =>
      rw [hanswer] at hrest
      exact ih hrest

/-- A service that changes while it is asked tells nothing that a function could not, for no node is
asked twice. -/
theorem exists_run_askFrom {Service : Type}
    (serve : String → StateM Service (Except NodeFault ChainInfo)) (service : Service)
    {l : NodeList} {todo : List (String × Nat)} (hnodup : (todo.map Prod.fst).Nodup) :
    ∃ answers, (((askFrom l todo).runM serve).run service).1 = ((askFrom l todo).run answers).1 := by
  induction todo generalizing l service with
  | nil => exact ⟨fun _ => .error .timedOut, rfl⟩
  | cons target todo ih =>
    obtain ⟨url, node⟩ := target
    obtain ⟨hnew, hnodup⟩ := List.nodup_cons.mp hnodup
    rw [askFrom, Dialogue.runM, StateT.run_bind]
    obtain ⟨answer, service'⟩ := (serve url).run service
    cases answer with
    | error fault => exact ⟨fun _ => .error fault, rfl⟩
    | ok info =>
      obtain ⟨answers, hanswers⟩ := ih service' hnodup
      -- the first url is not asked again
      have hrest : (askFrom (l.hear node info) todo).run answers
          = (askFrom (l.hear node info) todo).run (Function.update answers url (.ok info)) := by
        refine Dialogue.run_congr fun q hq => ?_
        have hne : q ≠ url := by
          rintro rfl
          exact hnew (mem_of_mem_asked_askFrom hq)
        rw [Function.update_of_ne hne]
      refine ⟨Function.update answers url (.ok info), ?_⟩
      rw [Dialogue.run_ask, Function.update_self]
      dsimp only
      rw [← hrest]
      exact hanswers

end HeadSpread

namespace NodeList

/-- To answer by a service while a list of nodes is kept beside it. -/
def serveBeside {Service : Type} (serve : String → StateM Service (Except NodeFault ChainInfo))
    (url : String) : StateM (Service × NodeList) (Except NodeFault ChainInfo) := fun world =>
  let (answer, service) := (serve url).run world.1
  (answer, service, world.2)

theorem rollCall_measureHeads (l : NodeList) (answers : String → Except NodeFault ChainInfo) :
    ∃ heard asked, RollCall answers l.urls heard asked ∧
      l.measureHeads.run answers
        = (heard.map fun infos => HeadSpread.ofHeads (l.urls.zip (infos.map ChainInfo.head)),
            asked) :=
  HeadSpread.rollCall_askFrom answers (List.nil_append l.nodes).symm

/-- **What is measured is what the nodes say.** The nodes are asked in their order and none of them
twice. The first that fails to answer ends it: it is told by its url and its fault, and nobody
behind it was asked. If all answer, each url stands beside the head that its node has just reported,
and the spread is below a bound exactly if the bound is not zero and any two of these heads differ
by less. Taking the lowest head from the highest never wraps. A service with a state of its own may
answer too: then there are answers with which the outcome is the same, and the caller's list is left
as it was. -/
theorem measured_as_answered (l : NodeList) (answers : String → Except NodeFault ChainInfo) :
    let outcome := (l.measureHeads.run answers).1
    let asked := (l.measureHeads.run answers).2
    ((∃ fault, RollCall answers l.urls (.error fault) asked ∧ outcome = .error fault) ∨
      ∃ (infos : List ChainInfo) (measured : HeadSpread),
        RollCall answers l.urls (.ok infos) asked ∧ outcome = .ok measured ∧
        measured.heads = l.urls.zip (infos.map ChainInfo.head) ∧
        IsSpread (infos.map ChainInfo.head) measured.spread ∧
        ∀ bound, measured.isWithin bound = true ↔
          0 < bound ∧ ∀ i ∈ infos, ∀ j ∈ infos, i.head.toNat < j.head.toNat + bound.toNat) ∧
    asked.Nodup ∧
    IsSpread l.heads l.headSpread ∧
    ∀ (Service : Type) (serve : String → StateM Service (Except NodeFault ChainInfo))
      (service : Service),
      let asking := l.measureHeads.runM (m := StateM (Service × NodeList)) (serveBeside serve)
      let (outcome, _, kept) := asking.run (service, l)
      kept = l ∧ ∃ answers, outcome = (l.measureHeads.run answers).1 := by
  obtain ⟨heard, asked, hroll, hrun⟩ := l.rollCall_measureHeads answers
  rw [hrun]
  dsimp only
  refine ⟨?_, hroll.isPrefix.sublist.nodup l.nodup_urls,
    isSpread_highest_sub_lowest l.heads_ne_nil, ?_⟩
  · cases heard with
    | error fault => exact Or.inl ⟨fault, hroll, rfl⟩
    | ok infos =>
      have hspread := HeadSpread.isSpread_ofHeads_zip hroll.length_eq l.urls_ne_nil
      refine Or.inr ⟨infos, _, hroll, rfl, rfl, hspread, fun bound => ?_⟩
      rw [HeadSpread.isWithin, decide_eq_true_iff]
      refine hspread.lt_iff.trans ?_
      simp only [List.forall_mem_map]
  · intro Service serve service
    constructor
    · -- an answer reaches the service only
      let Kept (world : Service × NodeList) : Prop := world.2 = l
      have hkept : Kept (service, l) := rfl
      refine Dialogue.runM_keeps (P := Kept) ?_ _ hkept
      intro url world h
      exact h
    · have hnodup : (l.urls.zipIdx.map Prod.fst).Nodup := by
        rw [List.zipIdx_map_fst]
        exact l.nodup_urls
      exact HeadSpread.exists_run_askFrom _ _ hnodup

end NodeList

end ChainWatch
