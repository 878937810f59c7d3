import ChainWatch.Run.Basic
import ChainWatch.Proofs.Watch.Table

/-!
# Runs along events

What a run hears is data here: a `RunEvent` is one of the four things that a run can be told, and
`Run.react` is the run's reaction to it, together with what it replies. A history is a list of
events, and

* `Run.after` is the run after a history, `Run.replies` what it replied to each of its events;
* `Run.registrations` counts the transactions that it took;
* `Run.heard` collects the answers of one node about one transaction along a history, each with the
  frontier that the run had for the node when the answer came.

The events of a history may come in any order and at any times, with ids that are not watched and
positions without a node. Both `Run.after` and `Run.heard` split along concatenation (`after_append`,
`heard_append`), which is how a fact about single reactions becomes one about histories.

`Run.told` is the part of a reaction that concerns one watch: the watch after the event has told it
what it has to tell. `getElem?_told` ties it to the sightings of `Sighting.afterAll`.
-/

namespace ChainWatch

namespace NodeList

variable (l : NodeList) (node : Nat) (info : ChainInfo)

/-- What a node says about its chain does not change its url. -/
@[simp] theorem urls_hear : (l.hear node info).urls = l.urls := by
  unfold urls
  -- position by position: the entry of one node changes, but not in its url
  apply List.ext_getElem?
  intro i
  simp only [hear, List.getElem?_map, List.getElem?_modify]
  split <;> simp [Function.comp_def]

@[simp] theorem size_hear : (l.hear node info).size = l.size := by
  unfold size
  exact List.length_modify _ _ _

/-- Two nodes that have said nothing yet. -/
def pair : NodeList where
  nodes := [{ url := "a" }, { url := "b" }]
  nodes_ne_nil := by decide
  nodup_urls := by decide

end NodeList

/-! ### Events and replies -/

/-- One thing that a run hears. -/
inductive RunEvent where
  /-- A transaction is submitted. -/
  | submit (id : CorrelationId) (now : Moment)
  /-- A node tells about its chain. -/
  | hear (node : Nat) (info : ChainInfo)
  /-- A node answers about a transaction. -/
  | observe (id : CorrelationId) (node : Nat) (answer : Answer) (now : Moment)
  /-- It is time to judge the watches. -/
  | evaluate (now : Moment)

/-- What a run replies to an event. -/
inductive RunReply where
  /-- Whether it took the transaction. -/
  | taken (yes : Bool)
  /-- There is nothing to reply. -/
  | nothing
  /-- The verdict, if the event has settled the run. -/
  | verdict (v : Option Verdict)
deriving DecidableEq

/-- The moment of an event, if it has one. -/
def RunEvent.moment? : RunEvent → Option Moment
  | .submit _ now => some now
  | .hear _ _ => none
  | .observe _ _ _ now => some now
  | .evaluate now => some now

/-- What a settled run replies. -/
def RunEvent.refusal : RunEvent → RunReply
  | .submit _ _ => .taken false
  | .hear _ _ => .nothing
  | .observe _ _ _ _ => .verdict none
  | .evaluate _ => .verdict none

namespace Run

/-- The run after an event, and what it replies. -/
def react (r : Run) : RunEvent → Run × RunReply
  | .submit id now => ((r.submit id now).1, .taken (r.submit id now).2)
  | .hear node info => (r.hear node info, .nothing)
  | .observe id node a now => ((r.observe id node a now).1, .verdict (r.observe id node a now).2)
  | .evaluate now => ((r.evaluate now).1, .verdict (r.evaluate now).2)

/-- The run after some events and what it replies to each, for any way to react. -/
def replay (step : Run → RunEvent → Run × RunReply) (r : Run) : List RunEvent → Run × List RunReply
  | [] => (r, [])
  | e :: es =>
    ((replay step (step r e).1 es).1, (step r e).2 :: (replay step (step r e).1 es).2)

/-- The run after some events. -/
def after (r : Run) (es : List RunEvent) : Run := (replay react r es).1

/-- What the run replies to each of some events. -/
def replies (r : Run) (es : List RunEvent) : List RunReply := (replay react r es).2

/-- The number of transactions that the run has taken along some events. -/
def registrations (r : Run) (es : List RunEvent) : Nat := (r.replies es).count (.taken true)

section Histories

variable (r : Run) (e : RunEvent) (es fs : List RunEvent)

@[simp] theorem after_nil : r.after [] = r := rfl

@[simp] theorem after_cons : r.after (e :: es) = (r.react e).1.after es := rfl

@[simp] theorem replies_nil : r.replies [] = [] := rfl

@[simp] theorem replies_cons : r.replies (e :: es) = (r.react e).2 :: (r.react e).1.replies es := rfl

/-- A history may be cut anywhere. -/
theorem after_append : r.after (es ++ fs) = (r.after es).after fs := by
  -- on the first history, for any run that it starts from
  induction es generalizing r with
  | nil => rfl
  | cons e es ih => rw [List.cons_append, after_cons, after_cons, ih]

theorem after_concat : r.after (es ++ [e]) = ((r.after es).react e).1 := by
  rw [after_append, after_cons, after_nil]

theorem length_replies : (r.replies es).length = es.length := by
  induction es generalizing r with
  | nil => rfl
  | cons e es ih => rw [replies_cons, List.length_cons, List.length_cons, ih]

theorem replies_append : r.replies (es ++ fs) = r.replies es ++ (r.after es).replies fs := by
  -- as before; the second history starts from where the first has led
  induction es generalizing r with
  | nil => rfl
  | cons e es ih => rw [List.cons_append, replies_cons, replies_cons, after_cons, ih, List.cons_append]

@[simp] theorem registrations_nil : r.registrations [] = 0 := rfl

/-- One event registers one transaction at most. -/
theorem registrations_concat :
    r.registrations (es ++ [e])
      = r.registrations es + if ((r.after es).react e).2 = .taken true then 1 else 0 := by
  unfold registrations
  -- only the last reply is new
  rw [replies_append, List.count_append, replies_cons, replies_nil, List.count_singleton]
  simp

end Histories

/-! ### What is heard of one transaction -/

/-- What an event tells about a transaction on a node, with the frontier of the node. -/
def hearing (r : Run) (id : CorrelationId) (node : Nat) : RunEvent → List (Answer × UInt64)
  | .observe id' node' a _ =>
    if id' = id ∧ node' = node then [(a, r.nodes.frontier node)] else []
  | _ => []

theorem hearing_observe (r : Run) (id id' : CorrelationId) (node node' : Nat) (a : Answer)
    (now : Moment) :
    r.hearing id node (.observe id' node' a now)
      = if id' = id ∧ node' = node then [(a, r.nodes.frontier node)] else [] := rfl

/-- What some events tell about a transaction on a node, in their order, each answer with the
frontier that the run has for the node when the answer comes. -/
def heard (r : Run) (id : CorrelationId) (node : Nat) : List RunEvent → List (Answer × UInt64)
  | [] => []
  | e :: es => r.hearing id node e ++ heard (r.react e).1 id node es

@[simp] theorem heard_nil (r : Run) (id : CorrelationId) (node : Nat) : r.heard id node [] = [] := rfl

/-- What is heard along a history may be cut where the history is. -/
theorem heard_append (r : Run) (id : CorrelationId) (node : Nat) (es fs : List RunEvent) :
    r.heard id node (es ++ fs) = r.heard id node es ++ (r.after es).heard id node fs := by
  -- each answer keeps the frontier of its own moment, so the run goes along
  induction es generalizing r with
  | nil => rfl
  | cons e es ih => simp only [List.cons_append, heard, after_cons, ih, List.append_assoc]

theorem heard_concat (r : Run) (id : CorrelationId) (node : Nat) (es : List RunEvent) (e : RunEvent) :
    r.heard id node (es ++ [e]) = r.heard id node es ++ (r.after es).hearing id node e := by
  rw [heard_append, heard, heard_nil, List.append_nil]

/-- A watch after an event has told it what it has to tell. -/
def told (r : Run) : RunEvent → Watch → Watch
  | .observe id node a _, w => if w.id = id then (w.observe node a (r.nodes.frontier node)).1 else w
  | _, w => w

/-- A watch is told the answers about its transaction, with the frontier of the node. -/
theorem told_observe (r : Run) (id : CorrelationId) (node : Nat) (a : Answer) (now : Moment)
    (w : Watch) :
    r.told (.observe id node a now) w
      = if w.id = id then (w.observe node a (r.nodes.frontier node)).1 else w := rfl

section Told

variable (r : Run) (e : RunEvent) (w : Watch)

@[simp] theorem told_id : (r.told e w).id = w.id := by
  cases e with
  | observe id node a now =>
    rw [told_observe]
    split
    · rw [Watch.observe_id]
    · rfl
  -- of the events only an answer tells a watch anything
  | _ => rfl

@[simp] theorem told_submittedAt : (r.told e w).submittedAt = w.submittedAt := by
  cases e with
  | observe id node a now =>
    rw [told_observe]
    split
    · rw [Watch.observe_submittedAt]
    · rfl
  | _ => rfl

/-- Whatever a watch is told, it follows as many nodes as before. -/
@[simp] theorem length_told : (r.told e w).sightings.length = w.sightings.length := by
  cases e with
  | observe id node a now =>
    rw [told_observe]
    split
    · rw [Watch.length_observe]
    · rfl
  | _ => rfl

/-- On every node, an event tells a watch what it tells about the transaction there. -/
theorem getElem?_told (node : Nat) :
    (r.told e w).sightings[node]?
      = w.sightings[node]?.map fun s => s.afterAll (r.hearing w.id node e) := by
  -- to be told nothing changes nothing
  have hsame : ∀ o : Option Sighting, (o.map fun s => s.afterAll []) = o := by
    intro o
    cases o <;> rfl
  cases e with
  | observe id node' a now =>
    rw [told_observe, hearing_observe]
    -- an answer has to be about this transaction, and from this node
    by_cases hid : w.id = id
    · rw [if_pos hid, Watch.getElem?_observe]
      by_cases hnode : node' = node
      · rw [if_pos hnode, if_pos ⟨hid.symm, hnode⟩, hnode]
        rfl
      · rw [if_neg hnode, if_neg fun h => hnode h.2, hsame]
    · rw [if_neg hid, if_neg fun h => hid h.1.symm, hsame]
  | _ => exact (hsame _).symm

end Told

end Run

end ChainWatch
