import ChainWatch.Proofs.Run.Course

/-!
# The order in which answers arrive

Nodes are asked at the same time and answer when they like. This file says how far the order of
their answers matters to a run, as long as nothing else comes between:

* not at all between transactions (`interleaving_irrelevant`): any two ways to interleave the
  answers about different transactions lead to the same verdict and, unless it is a fork, to the
  same run;
* nor within one round of questions (`round_order_irrelevant`), in which no node answers twice about
  a transaction and the nodes that answer held it in no block (`IsRound`): then the answers may come
  in any order whatever.

Both follow from `deliver_congr`: the courses of the watches are the same. For the first there is
little to show, since a course is that of the deliveries about its own transaction. For the second
the course has to be found without going along the deliveries. It is how the watch stands when it
was told all of them (`Round.course_eq`), since in a round nothing that a delivery decides is undone
by the next ones: a located block stays, and so does a fork; and a watch that is final has nobody
left to answer. The condition of a round is what this turns on. A node that takes a block back, or
accepts a transaction and then answers again, can make a fork or a final watch pass by in one order
that another order would have shown.
-/

namespace ChainWatch

namespace Sighting

/-- Only a transaction that the node holds is accepted. -/
def IsCoherent (s : Sighting) : Prop := s.accepted = true → ∃ b, s.status = .located b

theorem IsCoherent.after {s : Sighting} (h : s.IsCoherent) (a : Answer) (frontier : UInt64) :
    (s.after a frontier).IsCoherent := by
  intro haccepted
  rw [after_status]
  -- it has accepted before and the node still holds it, or it does so now
  rcases (after_accepted_iff s a frontier).mp haccepted with ⟨hkept, hstatus⟩ | hfinal
  · rw [← hstatus]
    exact h hkept
  · obtain ⟨b, rfl, -⟩ := Answer.isFinal_iff.mp hfinal
    exact ⟨b, rfl⟩

theorem IsCoherent.afterAll {s : Sighting} (h : s.IsCoherent) (heard : List (Answer × UInt64)) :
    (s.afterAll heard).IsCoherent := by
  induction heard generalizing s with
  | nil => exact h
  | cons a heard ih => exact ih (h.after a.1 a.2)

end Sighting

namespace Run

/-! ### Between transactions -/

/-- **Answers about different transactions do not interfere.** Two lists of deliveries that tell the
same of each transaction, in the same order, lead to the same verdict, and unless that is a fork, to
the same run. -/
theorem interleaving_irrelevant (nodes : NodeList) (target : UInt32) (deadlines : Deadlines)
    (es : List RunEvent) (ds ds' : List Delivery)
    (hr : ((start nodes target deadlines).after es).report = none)
    (hsame : ∀ id, (ds.filter fun d => d.id = id) = ds'.filter fun d => d.id = id) :
    let r := (start nodes target deadlines).after es
    (r.deliver ds).verdict? = (r.deliver ds').verdict? ∧
      ((r.deliver ds).verdict? ≠ some .forked → r.deliver ds = r.deliver ds') := by
  intro r
  have horderly : r.Orderly := orderly_after nodes target deadlines es
  refine deliver_congr horderly (balance_after nodes target deadlines es) hr fun w hw => ?_
  have hopen := horderly.allOpen w hw
  -- the deliveries about this one transaction are the same on both sides
  calc r.course ds w = r.course (ds.filter fun d => d.id = w.id) w := (course_filter hopen ds).symm
    _ = r.course (ds'.filter fun d => d.id = w.id) w := by rw [hsame w.id]
    _ = r.course ds' w := course_filter hopen ds'

/-- Two transactions are submitted to two nodes. -/
def twoInFlight : List RunEvent :=
  [.hear 0 { irreversible := 7 }, .hear 1 { irreversible := 7 },
    .submit .zero .start, .submit (.ofNat 1) .start]

/-- The second is located twice before it is final, and the answers about the first come between. -/
def interleaved : List Delivery :=
  [⟨.ofNat 1, 0, .located ⟨5, ⟨"y"⟩⟩, .start⟩, ⟨.zero, 0, .located ⟨5, ⟨"x"⟩⟩, .start⟩,
    ⟨.ofNat 1, 0, .rejected, .start⟩, ⟨.zero, 1, .located ⟨5, ⟨"x"⟩⟩, .start⟩,
    ⟨.ofNat 1, 1, .located ⟨6, ⟨"x"⟩⟩, .start⟩, ⟨.ofNat 1, 0, .located ⟨6, ⟨"x"⟩⟩, .start⟩]

/-- The same answers, those about the second transaction last. -/
def oneByOne : List Delivery :=
  [⟨.zero, 0, .located ⟨5, ⟨"x"⟩⟩, .start⟩, ⟨.zero, 1, .located ⟨5, ⟨"x"⟩⟩, .start⟩,
    ⟨.ofNat 1, 0, .located ⟨5, ⟨"y"⟩⟩, .start⟩, ⟨.ofNat 1, 0, .rejected, .start⟩,
    ⟨.ofNat 1, 1, .located ⟨6, ⟨"x"⟩⟩, .start⟩, ⟨.ofNat 1, 0, .located ⟨6, ⟨"x"⟩⟩, .start⟩]

theorem interleaving_irrelevant_pair :
    ((start .pair 2 {}).after twoInFlight).report = none ∧
      (∀ id, (interleaved.filter fun d => d.id = id) = oneByOne.filter fun d => d.id = id) ∧
      (((start .pair 2 {}).after twoInFlight).deliver interleaved).verdict? = some .success ∧
      ((start .pair 2 {}).after twoInFlight).deliver interleaved
        = ((start .pair 2 {}).after twoInFlight).deliver oneByOne := by
  have hr : ((start .pair 2 {}).after twoInFlight).report = none := by decide
  have hsame : ∀ id,
      (interleaved.filter fun d => d.id = id) = oneByOne.filter fun d => d.id = id := by
    intro id
    -- there are no deliveries about any other transaction
    by_cases hzero : CorrelationId.zero = id
    · subst hzero
      decide
    · by_cases hone : CorrelationId.ofNat 1 = id
      · subst hone
        decide
      · simp [interleaved, oneByOne, hzero, hone]
  have hv : (((start .pair 2 {}).after twoInFlight).deliver interleaved).verdict?
      = some .success := by
    decide
  refine ⟨hr, hsame, hv, ?_⟩
  obtain ⟨-, heq⟩ :=
    interleaving_irrelevant .pair 2 {} twoInFlight interleaved oneByOne hr hsame
  exact heq (by rw [hv]; decide)

/-! ### All that a watch is told -/

/-- A watch that was told some deliveries, whatever they decide. -/
def toldAll (r : Run) (ds : List Delivery) (w : Watch) : Watch :=
  ds.foldl (fun w d => r.told d.event w) w

/-- What some deliveries tell about a transaction on a node. -/
def tidings (r : Run) (id : CorrelationId) (node : Nat) (ds : List Delivery) :
    List (Answer × UInt64) :=
  ds.flatMap fun d => r.hearing id node d.event

section ToldAll

variable {r : Run} {id : CorrelationId} {node : Nat} {d : Delivery} {ds ds' : List Delivery}
  {w : Watch}

@[simp] theorem toldAll_nil : r.toldAll [] w = w := rfl

@[simp] theorem toldAll_cons : r.toldAll (d :: ds) w = r.toldAll ds (r.told d.event w) := rfl

@[simp] theorem toldAll_id : (r.toldAll ds w).id = w.id := by
  induction ds generalizing w with
  | nil => rfl
  | cons d ds ih => rw [toldAll_cons, ih, told_id]

@[simp] theorem toldAll_submittedAt : (r.toldAll ds w).submittedAt = w.submittedAt := by
  induction ds generalizing w with
  | nil => rfl
  | cons d ds ih => rw [toldAll_cons, ih, told_submittedAt]

theorem hearing_event :
    r.hearing id node d.event
      = if d.id = id ∧ d.node = node then [(d.answer, r.nodes.frontier node)] else [] := rfl

theorem tidings_cons :
    r.tidings id node (d :: ds) = r.hearing id node d.event ++ r.tidings id node ds :=
  List.flatMap_cons

theorem tidings_eq_nil (h : ∀ d ∈ ds, d.id = id → d.node ≠ node) : r.tidings id node ds = [] := by
  rw [tidings, List.flatMap_eq_nil_iff]
  intro d hd
  rw [hearing_event, if_neg fun hdn => h d hd hdn.1 hdn.2]

theorem length_tidings :
    (r.tidings id node ds).length = ds.countP fun d => d.id = id ∧ d.node = node := by
  induction ds with
  | nil => rfl
  | cons d ds ih =>
    rw [tidings_cons, List.length_append, ih, hearing_event, List.countP_cons]
    by_cases h : d.id = id ∧ d.node = node
    · simp [h, Nat.add_comm]
    · simp [h]

/-- On every node, a watch knows of the deliveries what they tell there. -/
theorem getElem?_toldAll (node : Nat) :
    (r.toldAll ds w).sightings[node]?
      = w.sightings[node]?.map fun s => s.afterAll (r.tidings w.id node ds) := by
  induction ds generalizing w with
  | nil =>
    rw [toldAll_nil]
    cases w.sightings[node]? <;> rfl
  | cons d ds ih =>
    rw [toldAll_cons, ih, getElem?_told, told_id, Option.map_map, tidings_cons]
    congr 1
    funext s
    exact (Sighting.afterAll_append s _ _).symm

/-- If every node answers once at most, the order of the answers is nothing to a watch. -/
theorem toldAll_perm (hperm : ds.Perm ds')
    (honce : ∀ node < w.sightings.length,
      (ds.countP fun d => d.id = w.id ∧ d.node = node) ≤ 1) :
    r.toldAll ds w = r.toldAll ds' w := by
  refine Watch.ext_sightings (by simp) (by simp) fun node => ?_
  rw [getElem?_toldAll, getElem?_toldAll]
  by_cases hnode : node < w.sightings.length
  · have htidings : (r.tidings w.id node ds).Perm (r.tidings w.id node ds') :=
      hperm.flatMap_right _
    -- a list of one entry or none is in order, whatever its order was
    have hlen : (r.tidings w.id node ds).length ≤ 1 := by
      rw [length_tidings]
      exact honce node hnode
    have heq : r.tidings w.id node ds = r.tidings w.id node ds' := by
      match htold : r.tidings w.id node ds, hlen with
      | [], _ =>
        rw [htold] at htidings
        exact htidings.nil_eq
      | [h], _ =>
        rw [htold] at htidings
        exact (List.perm_singleton.mp htidings.symm).symm
    rw [heq]
  · rw [List.getElem?_eq_none (Nat.le_of_not_lt hnode)]
    rfl

end ToldAll

/-! ### Within a round -/

/-- Some deliveries are a round of answers to a run: no node answers twice about a transaction in
flight, and every node that answers about one has not answered before or did not know it. -/
structure IsRound (r : Run) (ds : List Delivery) : Prop where
  once : ∀ w ∈ r.watches.watches, ∀ node < r.nodes.size,
    (ds.countP fun d => d.id = w.id ∧ d.node = node) ≤ 1
  unlocated : ∀ w ∈ r.watches.watches, ∀ d ∈ ds, d.id = w.id →
    (w.sighting d.node).status = .unknown ∨ (w.sighting d.node).status = .rejected

/-- Some deliveries are a round of answers to one watch. -/
structure Round (r : Run) (ds : List Delivery) (w : Watch) : Prop where
  coherent : ∀ s ∈ w.sightings, s.IsCoherent
  once : ∀ node < w.sightings.length, (ds.countP fun d => d.id = w.id ∧ d.node = node) ≤ 1
  unlocated : ∀ d ∈ ds, d.id = w.id → ∀ s, w.sightings[d.node]? = some s →
    ∀ b, s.status ≠ .located b

namespace Round

variable {r : Run} {d : Delivery} {ds : List Delivery} {w : Watch}

/-- In a round nobody answers about a location that was already there. -/
theorem getElem?_toldAll (h : r.Round ds w) {node : Nat} {s : Sighting}
    (hs : w.sightings[node]? = some s) {b : BlockRef} (hb : s.status = .located b) :
    (r.toldAll ds w).sightings[node]? = some s := by
  have hsilent : r.tidings w.id node ds = [] := by
    refine tidings_eq_nil fun d hd hid hnode => ?_
    subst hnode
    exact h.unlocated d hd hid s hs b hb
  rw [Run.getElem?_toldAll, hs, hsilent]
  rfl

/-- A fork stays. -/
theorem agrees_of_toldAll (h : r.Round ds w) (hagrees : (r.toldAll ds w).Agrees) : w.Agrees := by
  have hkept : ∀ b, .located b ∈ w.statuses → .located b ∈ (r.toldAll ds w).statuses := by
    intro b hb
    obtain ⟨s, hs, hstatus⟩ := List.mem_map.mp hb
    obtain ⟨node, hnode⟩ := List.mem_iff_getElem?.mp hs
    have htold := h.getElem?_toldAll hnode hstatus
    exact List.mem_map.mpr ⟨s, List.mem_of_getElem? htold, hstatus⟩
  intro b c hb hc
  exact hagrees b c (hkept b hb) (hkept c hc)

/-- Nobody is left to answer about a watch that is final. -/
theorem toldAll_of_isFinalized (h : r.Round ds w) (hfinal : w.isFinalized = true) :
    r.toldAll ds w = w := by
  obtain ⟨-, haccepted⟩ := Watch.isFinalized_iff.mp hfinal
  refine Watch.ext_sightings (by simp) (by simp) fun node => ?_
  cases hs : w.sightings[node]? with
  | none => rw [Run.getElem?_toldAll, hs, Option.map_none]
  | some s =>
    have hmem := List.mem_of_getElem? hs
    obtain ⟨b, hb⟩ := h.coherent s hmem (haccepted s hmem)
    exact h.getElem?_toldAll hs hb

/-- After the first delivery of a round the others are a round. -/
theorem tail (h : r.Round (d :: ds) w) : r.Round ds (r.told d.event w) where
  coherent := by
    intro s hs
    obtain ⟨node, hnode⟩ := List.mem_iff_getElem?.mp hs
    rw [getElem?_told] at hnode
    obtain ⟨u, hu, rfl⟩ := Option.map_eq_some_iff.mp hnode
    exact (h.coherent u (List.mem_of_getElem? hu)).afterAll _
  once := by
    intro node hnode
    rw [length_told] at hnode
    rw [told_id]
    have hcount := h.once node hnode
    rw [List.countP_cons] at hcount
    omega
  unlocated := by
    intro e he hid s hs b hb
    rw [told_id] at hid
    rw [getElem?_told] at hs
    obtain ⟨u, hu, rfl⟩ := Option.map_eq_some_iff.mp hs
    rw [hearing_event] at hb
    by_cases hsame : d.id = w.id ∧ d.node = e.node
    · -- the first delivery and this one would both come from this node
      have hlt : e.node < w.sightings.length := (List.getElem?_eq_some_iff.mp hu).1
      have hcount := h.once e.node hlt
      have hpos : 0 < ds.countP fun d => d.id = w.id ∧ d.node = e.node :=
        List.countP_pos_iff.mpr ⟨e, he, by simp [hid]⟩
      rw [List.countP_cons_of_pos (by simpa using hsame)] at hcount
      omega
    · rw [if_neg hsame] at hb
      exact h.unlocated e (List.mem_cons_of_mem _ he) hid u hu b hb

/-- **The course of a watch along a round** is how it stands when it was told the whole round. -/
theorem course_eq (h : r.Round ds w) (hw : w.IsOpen) :
    r.course ds w = (r.toldAll ds w).standing := by
  induction ds generalizing w with
  | nil => rw [course_nil, toldAll_nil, Watch.standing_of_isOpen hw]
  | cons d ds ih =>
    have htail := h.tail
    rw [toldAll_cons]
    rcases (r.told d.event w).standing_cases with hfork | ⟨hagrees, hfinal⟩ | hopen
    · rw [course_cons_of_not_agrees hfork,
        Watch.standing_of_not_agrees (mt htail.agrees_of_toldAll hfork)]
    · rw [course_cons_of_isFinalized hagrees hfinal, htail.toldAll_of_isFinalized hfinal,
        Watch.standing_of_isFinalized hagrees hfinal]
    · rw [course_cons_of_isOpen hopen, ih htail hopen]

end Round

/-- Whatever a run has heard, its watches are coherent. -/
theorem isCoherent_of_mem (nodes : NodeList) (target : UInt32) (deadlines : Deadlines)
    {es : List RunEvent} {w : Watch}
    (hw : w ∈ ((start nodes target deadlines).after es).watches.watches) :
    ∀ s ∈ w.sightings, s.IsCoherent := by
  induction es using List.reverseRecOn generalizing w with
  | nil => simp [start] at hw
  | append_singleton es e ih =>
    rw [after_concat] at hw
    intro s hs
    rcases (orderly_after nodes target deadlines es).origin hw with
      ⟨u, hu, rfl⟩ | ⟨now, -, -, hfresh⟩
    · obtain ⟨node, hnode⟩ := List.mem_iff_getElem?.mp hs
      rw [getElem?_told] at hnode
      obtain ⟨s₀, hs₀, rfl⟩ := Option.map_eq_some_iff.mp hnode
      exact (ih hu s₀ (List.mem_of_getElem? hs₀)).afterAll _
    · -- a fresh watch accepts nothing
      rw [hfresh] at hs
      rw [List.eq_of_mem_replicate hs]
      intro haccepted
      cases haccepted

/-- A round of answers to a run is one to each of its watches. -/
theorem IsRound.round {nodes : NodeList} {target : UInt32} {deadlines : Deadlines}
    {es : List RunEvent} {ds : List Delivery} {w : Watch}
    (h : ((start nodes target deadlines).after es).IsRound ds)
    (hw : w ∈ ((start nodes target deadlines).after es).watches.watches) :
    ((start nodes target deadlines).after es).Round ds w where
  coherent := isCoherent_of_mem nodes target deadlines hw
  once := by
    intro node hnode
    rw [(orderly_after nodes target deadlines es).length_sightings w hw] at hnode
    exact h.once w hw node hnode
  unlocated := by
    intro d hd hid s hs b hb
    -- what the condition calls the node's sighting is the one at its position
    have hsighting : w.sighting d.node = s := by rw [Watch.sighting, Watch.sighting?, hs]; rfl
    have hstatus := h.unlocated w hw d hd hid
    rw [hsighting, hb] at hstatus
    rcases hstatus with hstatus | hstatus <;> cases hstatus

/-- **The order of a round of answers is irrelevant.** In whatever order the answers of a round
come, they lead to the same verdict, and unless that is a fork, to the same run. -/
theorem round_order_irrelevant (nodes : NodeList) (target : UInt32) (deadlines : Deadlines)
    (es : List RunEvent) (ds ds' : List Delivery)
    (hr : ((start nodes target deadlines).after es).report = none)
    (hround : ((start nodes target deadlines).after es).IsRound ds) (hperm : ds.Perm ds') :
    let r := (start nodes target deadlines).after es
    (r.deliver ds).verdict? = (r.deliver ds').verdict? ∧
      ((r.deliver ds).verdict? ≠ some .forked → r.deliver ds = r.deliver ds') := by
  intro r
  have horderly : r.Orderly := orderly_after nodes target deadlines es
  -- the other order is a round as well
  have hround' : r.IsRound ds' := by
    refine ⟨fun w hw node hnode => ?_, fun w hw d hd => ?_⟩
    · rw [← hperm.countP_eq]
      exact hround.once w hw node hnode
    · exact hround.unlocated w hw d (hperm.mem_iff.mpr hd)
  refine deliver_congr horderly (balance_after nodes target deadlines es) hr fun w hw => ?_
  have hopen := horderly.allOpen w hw
  have hfollows := hround.round hw
  rw [hfollows.course_eq hopen, (hround'.round hw).course_eq hopen,
    toldAll_perm hperm hfollows.once]

/-- Both nodes answer about both transactions, and one of them does not know the second yet. -/
def mixedRound : List Delivery :=
  [⟨.zero, 0, .located ⟨5, ⟨"x"⟩⟩, .start⟩, ⟨.ofNat 1, 1, .rejected, .start⟩,
    ⟨.zero, 1, .located ⟨5, ⟨"x"⟩⟩, .start⟩, ⟨.ofNat 1, 0, .located ⟨6, ⟨"y"⟩⟩, .start⟩]

theorem round_order_irrelevant_reverse :
    ((start .pair 2 {}).after twoInFlight).report = none ∧
      ((start .pair 2 {}).after twoInFlight).IsRound mixedRound ∧
      mixedRound.Perm mixedRound.reverse ∧
      ((start .pair 2 {}).after twoInFlight).deliver mixedRound
        = ((start .pair 2 {}).after twoInFlight).deliver mixedRound.reverse := by
  have hr : ((start .pair 2 {}).after twoInFlight).report = none := by decide
  have hround : ((start .pair 2 {}).after twoInFlight).IsRound mixedRound :=
    ⟨by decide, by decide⟩
  have hperm : mixedRound.Perm mixedRound.reverse := (List.reverse_perm _).symm
  have hv : (((start .pair 2 {}).after twoInFlight).deliver mixedRound).verdict? = none := by
    decide
  refine ⟨hr, hround, hperm, ?_⟩
  obtain ⟨-, heq⟩ := round_order_irrelevant .pair 2 {} twoInFlight mixedRound _ hr hround hperm
  exact heq (by rw [hv]; decide)

end Run

end ChainWatch
