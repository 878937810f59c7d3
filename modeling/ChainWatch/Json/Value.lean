import ChainWatch.Json.Reader

/-!
# Free-form values

A `Value` is JSON data that the program passes on without looking into it. Every leaf denotes
something, and an object is a map: no name stands twice, and the members are in ascending order of
their names. `Value.ofTree?` reads a tree as such data; of members of one name the last counts.

One kind of object is no map but stands for the value of a text. Its first member has the name
`embeddedName`, and the value of this member is a string that holds a whole JSON text. Such an
object has no other member. The text is read afresh: it may nest as deep as any text may, and there
may be texts in it again.

The order is part of the value (`Value.IsOrdered`), so that equal data are equal values. `FreeForm`
is a value with the proof that it is in order, and reading always gives one.
-/

namespace ChainWatch.Json

/-- JSON data of any form. -/
inductive Value where
  | null
  | bool (b : Bool)
  | number (n : Number)
  | string (s : String)
  | array (items : List Value)
  | object (members : List (String × Value))

/-! ### Texts in texts -/

/-- The name of the member that holds a text. -/
def embeddedName : String := "$serde_json::private::RawValue"

/-- Do the members of an object begin with one that holds a text? -/
def beginsEmbedded : List Member → Bool
  | (name, _) :: _ => name == some embeddedName
  | [] => false

/-- The text that the one member of an object holds. -/
def embeddedText? : List Member → Option String
  | [(_, .string s)] => s
  | _ => none

/-! ### Reading and writing -/

namespace Value

/-- Put a member into members in order, in the place of one of its name if there is one. -/
def insertMember (name : String) (v : Value) : List (String × Value) → List (String × Value)
  | [] => [(name, v)]
  | (n, w) :: rest =>
    if name < n then (name, v) :: (n, w) :: rest
    else if name = n then (name, v) :: rest
    else (n, w) :: insertMember name v rest

section Embedded

variable (embedded : String → Option Value)

mutual

/-- Read a tree as data, if every leaf and name in it denotes something. A text in it is read by
`embedded`. -/
def ofTreeWith? : Tree → Option Value
  | .null => some .null
  | .bool b => some (.bool b)
  | .number n => n.map .number
  | .string s => s.map .string
  | .array ts => (ofItemsWith? ts).map .array
  | .object ms =>
    if beginsEmbedded ms then (embeddedText? ms).bind embedded
    else (ofMembersWith? [] ms).map .object

/-- Read the items of an array. -/
def ofItemsWith? : List Tree → Option (List Value)
  | [] => some []
  | t :: ts => do
    let v ← ofTreeWith? t
    let vs ← ofItemsWith? ts
    return v :: vs

/-- Read the members of an object into those that are read already. -/
def ofMembersWith? (read : List (String × Value)) :
    List (Option String × Tree) → Option (List (String × Value))
  | [] => some read
  | (name, t) :: ms => do
    let name ← name
    let v ← ofTreeWith? t
    ofMembersWith? (insertMember name v read) ms

end

end Embedded

/-- Read a text as data, where there are less than so many texts in one another. -/
def readWithin? : Nat → String → Option Value
  | 0, _ => none
  | levels + 1, s => do
    let t ← Tree.read? s
    if t.depth ≤ maxDepth then ofTreeWith? (readWithin? levels) t else none

/-- Read a whole text as data. A text is longer than the texts in it, so that there are not more of
these in one another than it has characters. -/
def read? (s : String) : Option Value :=
  readWithin? (s.length + 1) s

/-- Read a tree as data. -/
def ofTree? (t : Tree) : Option Value :=
  ofTreeWith? read? t

mutual

/-- The tree of data. -/
def toTree : Value → Tree
  | .null => .null
  | .bool b => .bool b
  | .number n => .number (some n)
  | .string s => .string (some s)
  | .array vs => .array (toItems vs)
  | .object ms => .object (toMembers ms)

/-- The trees of the items of an array. -/
def toItems : List Value → List Tree
  | [] => []
  | v :: vs => toTree v :: toItems vs

/-- The trees of the members of an object. -/
def toMembers : List (String × Value) → List (Option String × Tree)
  | [] => []
  | (name, v) :: ms => (some name, toTree v) :: toMembers ms

end

/-! ### Order of members -/

/-- Is every name of the members after `name`? -/
def namesAbove (name : String) (ms : List (String × Value)) : Prop :=
  ∀ m ∈ ms, name < m.1

mutual

/-- Are the members of every object in ascending order of their names? -/
def IsOrdered : Value → Prop
  | .array vs => AreOrderedItems vs
  | .object ms => AreOrderedMembers ms
  | _ => True

/-- Is every item in order? -/
def AreOrderedItems : List Value → Prop
  | [] => True
  | v :: vs => IsOrdered v ∧ AreOrderedItems vs

/-- Is every member in order, and its name before those of the rest? -/
def AreOrderedMembers : List (String × Value) → Prop
  | [] => True
  | (name, v) :: ms => IsOrdered v ∧ namesAbove name ms ∧ AreOrderedMembers ms

end

theorem mem_insertMember {name : String} {v : Value} {ms : List (String × Value)}
    {m : String × Value} (h : m ∈ insertMember name v ms) : m = (name, v) ∨ m ∈ ms := by
  induction ms with
  | nil => simpa [insertMember] using h
  | cons head rest ih =>
    obtain ⟨n, w⟩ := head
    simp only [insertMember] at h
    split at h
    · simpa using h
    · split at h
      · rcases List.mem_cons.1 h with h | h
        · exact .inl h
        · exact .inr (List.mem_cons_of_mem _ h)
      · rcases List.mem_cons.1 h with h | h
        · exact .inr (h ▸ List.mem_cons_self)
        · exact (ih h).imp id (List.mem_cons_of_mem _)

theorem areOrderedMembers_insertMember {name : String} {v : Value} {ms : List (String × Value)}
    (hv : v.IsOrdered) (hms : AreOrderedMembers ms) :
    AreOrderedMembers (insertMember name v ms) := by
  induction ms with
  | nil =>
    rw [insertMember, AreOrderedMembers]
    exact ⟨hv, by simp [namesAbove], by rw [AreOrderedMembers]; trivial⟩
  | cons head rest ih =>
    obtain ⟨n, w⟩ := head
    have hms' := hms
    rw [AreOrderedMembers] at hms'
    obtain ⟨hw, above, hrest⟩ := hms'
    rw [insertMember]
    split
    · next lt =>
      rw [AreOrderedMembers]
      refine ⟨hv, ?_, hms⟩
      intro m hm
      rcases List.mem_cons.1 hm with rfl | hm
      · exact lt
      · exact String.lt_trans lt (above m hm)
    · next not_lt =>
      split
      · next eq =>
        subst eq
        rw [AreOrderedMembers]
        exact ⟨hv, above, hrest⟩
      · next ne =>
        rw [AreOrderedMembers]
        refine ⟨hw, ?_, ih hrest⟩
        intro m hm
        rcases mem_insertMember hm with rfl | hm
        · exact Decidable.byContradiction fun not_gt =>
            ne (String.le_antisymm (String.not_lt.1 not_gt) (String.not_lt.1 not_lt))
        · exact above m hm

section Embedded

variable {embedded : String → Option Value}

mutual

/-- What is read is in order, if what is read off the texts is. -/
theorem isOrdered_of_ofTreeWith? (hembedded : ∀ {s : String} {v : Value},
    embedded s = some v → v.IsOrdered) :
    ∀ {t : Tree} {v : Value}, ofTreeWith? embedded t = some v → v.IsOrdered
  | .null, v, h => by
    rw [ofTreeWith?] at h; cases h; rw [IsOrdered] <;> simp
  | .bool b, v, h => by
    rw [ofTreeWith?] at h; cases h; rw [IsOrdered] <;> simp
  | .number n, v, h => by
    rw [ofTreeWith?] at h
    obtain ⟨_, _, rfl⟩ := Option.map_eq_some_iff.1 h
    rw [IsOrdered] <;> simp
  | .string s, v, h => by
    rw [ofTreeWith?] at h
    obtain ⟨_, _, rfl⟩ := Option.map_eq_some_iff.1 h
    rw [IsOrdered] <;> simp
  | .array ts, v, h => by
    rw [ofTreeWith?] at h
    obtain ⟨vs, hvs, rfl⟩ := Option.map_eq_some_iff.1 h
    rw [IsOrdered]
    exact areOrderedItems_of_ofItemsWith? hembedded hvs
  | .object ms, v, h => by
    rw [ofTreeWith?] at h
    split at h
    · obtain ⟨s, _, hs⟩ := Option.bind_eq_some_iff.1 h
      exact hembedded hs
    · obtain ⟨vs, hvs, rfl⟩ := Option.map_eq_some_iff.1 h
      rw [IsOrdered]
      exact areOrderedMembers_of_ofMembersWith? hembedded (by rw [AreOrderedMembers]; trivial) hvs

theorem areOrderedItems_of_ofItemsWith? (hembedded : ∀ {s : String} {v : Value},
    embedded s = some v → v.IsOrdered) :
    ∀ {ts : List Tree} {vs : List Value}, ofItemsWith? embedded ts = some vs → AreOrderedItems vs
  | [], vs, h => by
    rw [ofItemsWith?] at h; cases h; rw [AreOrderedItems]; trivial
  | t :: ts, vs, h => by
    rw [ofItemsWith?] at h
    simp only [bind, Option.bind_eq_some_iff, pure, Option.some.injEq] at h
    obtain ⟨v, hv, vs', hvs, rfl⟩ := h
    rw [AreOrderedItems]
    exact ⟨isOrdered_of_ofTreeWith? hembedded hv, areOrderedItems_of_ofItemsWith? hembedded hvs⟩

theorem areOrderedMembers_of_ofMembersWith? (hembedded : ∀ {s : String} {v : Value},
    embedded s = some v → v.IsOrdered) :
    ∀ {ms : List (Option String × Tree)} {read out : List (String × Value)},
      AreOrderedMembers read → ofMembersWith? embedded read ms = some out → AreOrderedMembers out
  | [], read, out, hr, h => by
    rw [ofMembersWith?] at h; cases h; exact hr
  | (name, t) :: ms, read, out, hr, h => by
    rw [ofMembersWith?] at h
    simp only [bind, Option.bind_eq_some_iff] at h
    obtain ⟨n, _, v, hv, h⟩ := h
    exact areOrderedMembers_of_ofMembersWith? hembedded
      (areOrderedMembers_insertMember (isOrdered_of_ofTreeWith? hembedded hv) hr) h

end

end Embedded

theorem isOrdered_of_readWithin? :
    ∀ {levels : Nat} {s : String} {v : Value}, readWithin? levels s = some v → v.IsOrdered
  | 0, s, v, h => nomatch h
  | levels + 1, s, v, h => by
    rw [readWithin?] at h
    obtain ⟨t, _, h⟩ := Option.bind_eq_some_iff.1 h
    split at h
    · exact isOrdered_of_ofTreeWith? isOrdered_of_readWithin? h
    · cases h

theorem isOrdered_of_read? {s : String} {v : Value} (h : read? s = some v) : v.IsOrdered :=
  isOrdered_of_readWithin? h

theorem isOrdered_of_ofTree? {t : Tree} {v : Value} (h : ofTree? t = some v) : v.IsOrdered :=
  isOrdered_of_ofTreeWith? isOrdered_of_read? h

end Value

/-- Free-form data whose objects are maps in order. -/
structure FreeForm where
  value : Value
  ordered : value.IsOrdered

namespace FreeForm

/-- Read a tree as free-form data. -/
def ofTree? (t : Tree) : Option FreeForm :=
  (Value.ofTree? t).pmap mk fun _ h => Value.isOrdered_of_ofTree? h

/-- Read a whole text as free-form data. -/
def read? (s : String) : Option FreeForm :=
  (Value.read? s).pmap mk fun _ h => Value.isOrdered_of_read? h

/-- The tree of free-form data. -/
def toTree (f : FreeForm) : Tree :=
  f.value.toTree

/-- The data that is nothing. -/
def null : FreeForm := ⟨.null, trivial⟩

/-- The data that is one string. -/
def string (s : String) : FreeForm := ⟨.string s, trivial⟩

end FreeForm

end ChainWatch.Json
