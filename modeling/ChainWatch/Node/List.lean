import ChainWatch.Chain
import ChainWatch.Text.Blank

/-!
# The watched nodes

A cluster is watched through a fixed list of nodes, each named by the base of its urls. The position
of a node in the list is its name everywhere else. `NodeList.ofUrls` reads such a list: every entry
is trimmed of blanks and of the slashes at its end (`normalizeUrl`), so that paths can be appended
to it. A list is refused if it is empty, if an entry is, or if two entries name one node; of two
faults the one that comes first in the list is told. That a list of nodes is not empty and names no
node twice is part of its type.

A node keeps what it last said about its chain. Its frontier is the number of the last irreversible
block, and zero before it said anything. A position outside the list has frontier zero and keeps
nothing.
-/

namespace ChainWatch

/-- The base of a node's urls: an entry of a list without blanks around it, and then without slashes
at its end. -/
def normalizeUrl (entry : String) : String :=
  trimEndChar '/' (trimBlank entry)

/-- A watched node. -/
structure Node where
  url : String
  /-- What the node last said about its chain, if it ever did. -/
  chain : Option ChainInfo := none
deriving DecidableEq, Repr

namespace Node

/-- The number of the last block that is irreversible for the node. -/
def irreversible (n : Node) : UInt64 :=
  (n.chain.map ChainInfo.irreversible).getD 0

/-- The number of the node's last block. -/
def head (n : Node) : UInt64 :=
  (n.chain.map ChainInfo.head).getD 0

/-- Did the node ever say anything about its chain? -/
def isRefreshed (n : Node) : Bool :=
  n.chain.isSome

end Node

/-- Why a list of urls is no list of nodes. -/
inductive NodeListFault where
  | emptyList
  | emptyUrl
  /-- Two entries name this node. -/
  | duplicate (url : String)
deriving DecidableEq, Repr

/-- The wording of a fault. -/
def NodeListFault.message : NodeListFault → String
  | .emptyList => "node list is empty"
  | .emptyUrl => "node url is empty"
  | .duplicate url => "duplicate node: " ++ url

/-- The watched nodes in their order: at least one, and no two with one url. -/
structure NodeList where
  nodes : List Node
  nodes_ne_nil : nodes ≠ []
  nodup_urls : (nodes.map Node.url).Nodup
deriving DecidableEq

namespace NodeList

/-! ### Reading a list -/

/-- The urls of the entries, each of them new to those before it and to `seen`. -/
def readUrls (seen : List String) : List String → Except NodeListFault (List String)
  | [] => .ok []
  | entry :: entries =>
    let url := normalizeUrl entry
    if url = "" then .error .emptyUrl
    else if url ∈ seen then .error (.duplicate url)
    else (readUrls (url :: seen) entries).map (url :: ·)

/-- The urls read are those of the entries, none of them empty, none seen before and none twice. -/
theorem eq_map_of_readUrls {seen entries urls : List String}
    (h : readUrls seen entries = .ok urls) :
    urls = entries.map normalizeUrl ∧ (∀ u ∈ urls, u ≠ "" ∧ u ∉ seen) ∧ urls.Nodup := by
  induction entries generalizing seen urls with
  | nil => cases h; simp
  | cons entry entries ih =>
    simp only [readUrls] at h
    split at h
    · cases h
    · split at h
      · cases h
      · rename_i hempty hseen
        cases hrest : readUrls (normalizeUrl entry :: seen) entries with
        | error fault => simp [hrest, Except.map] at h
        | ok rest =>
          simp only [hrest, Except.map, Except.ok.injEq] at h
          subst h
          obtain ⟨hmap, hnew, hnodup⟩ := ih hrest
          refine ⟨by simp [hmap], ?_, ?_⟩
          · intro u hu
            rcases List.mem_cons.1 hu with rfl | hu
            · exact ⟨hempty, hseen⟩
            · exact ⟨(hnew u hu).1, fun hmem => (hnew u hu).2 (List.mem_cons_of_mem _ hmem)⟩
          · refine List.nodup_cons.2 ⟨fun hmem => ?_, hnodup⟩
            exact (hnew _ hmem).2 (List.mem_cons_self ..)

/-- The nodes of a list of urls. -/
def ofUrls (entries : List String) : Except NodeListFault NodeList :=
  match h : readUrls [] entries with
  | .error fault => .error fault
  | .ok [] => .error .emptyList
  | .ok (url :: urls) =>
    .ok ⟨(url :: urls).map fun u => { url := u }, by simp, by
      have := (eq_map_of_readUrls h).2.2
      simpa [List.map_map, Function.comp_def] using this⟩

/-! ### Looking at the nodes -/

/-- The number of nodes. -/
def size (l : NodeList) : Nat := l.nodes.length

/-- The urls of the nodes. -/
def urls (l : NodeList) : List String := l.nodes.map Node.url

/-- The node at a position. -/
def get? (l : NodeList) (node : Nat) : Option Node := l.nodes[node]?

/-- The last irreversible block of the node at a position. -/
def frontier (l : NodeList) (node : Nat) : UInt64 :=
  ((l.get? node).map Node.irreversible).getD 0

/-- The heads of the nodes. -/
def heads (l : NodeList) : List UInt64 := l.nodes.map Node.head

/-- The greatest of some words, and zero if there are none. -/
def highest (ws : List UInt64) : UInt64 := ws.foldl max 0

/-- The least of some words, and zero if there are none. -/
def lowest : List UInt64 → UInt64
  | [] => 0
  | w :: ws => ws.foldl min w

/-- How far the heads of the nodes lie apart. -/
def headSpread (l : NodeList) : UInt64 := highest l.heads - lowest l.heads

/-! ### Hearing from a node -/

/-- Keep what a node says about its chain. A position outside the list changes nothing. -/
def hear (l : NodeList) (node : Nat) (info : ChainInfo) : NodeList where
  nodes := l.nodes.modify node fun n => { n with chain := some info }
  nodes_ne_nil := by
    intro h
    have hlen := congrArg List.length h
    rw [List.length_modify] at hlen
    exact l.nodes_ne_nil (List.eq_nil_of_length_eq_zero hlen)
  nodup_urls := by
    have h : (l.nodes.modify node fun n => { n with chain := some info }).map Node.url
        = l.nodes.map Node.url := by
      apply List.ext_getElem?
      intro i
      simp only [List.getElem?_map, List.getElem?_modify]
      split <;> simp [Function.comp_def]
    rw [h]
    exact l.nodup_urls

/-- Is there a node at a position? -/
def hasNode (l : NodeList) (node : Nat) : Bool := node < l.size

end NodeList

end ChainWatch
