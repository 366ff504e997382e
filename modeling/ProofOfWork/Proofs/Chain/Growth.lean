import Mathlib.Data.Nat.Notation
import ProofOfWork.Chain.Index

/-!
# Proofs/Chain/Growth — an index over all the calls that grow it

    empty ──root / child / append──▸ ⋯ ──▸ chain ──▸ histories of old nodes unchanged

A **call** inserts a root, a child of some id, or a node on top of the tip, and answers with the id
of the new node.  `Places` says which node it asks for: it is pushed, at the id that was next
(`Places.answer_eq`).  Only a child of an unknown id asks for none, and changes nothing
(`places_or_refused`).
So all that a call can do is one push of a node that fits on what is there (`grow_cases`), and what
every such push keeps is kept by every sequence of calls (`growAll_induction`): parents are older than
their children (`Linked.growAll`), and the history of a node never changes once the node is there
(`history_growAll`).
-/

namespace ProofOfWork

/-- **One call that grows an index.** -/
inductive Growth where
  /-- A node without a known predecessor. -/
  | root (header : Header)
  /-- A node on top of another, which may be unknown. -/
  | child (parent : NodeId) (time : Seconds) (bits : Compact)
  /-- A node on top of the tip. -/
  | append (time : Seconds) (bits : Compact)
  deriving DecidableEq

namespace ChainIndex

/-- **What a call answers**: the new node with the index around it, or why there is none. -/
def answer (chain : ChainIndex) : Growth → Except ChainError Placed
  | .root header => .ok (chain.insertRoot header)
  | .child parent time bits => chain.insertChild parent time bits
  | .append time bits => .ok (chain.append time bits)

/-- The index after one call. -/
def grow (chain : ChainIndex) (call : Growth) : ChainIndex :=
  match chain.answer call with
  | .ok placed => placed.chain
  | .error _ => chain

/-- **The index after a sequence of calls.** -/
def growAll (chain : ChainIndex) (calls : List Growth) : ChainIndex := calls.foldl grow chain

/-- An index that some sequence of calls builds from nothing. -/
def Reachable (chain : ChainIndex) : Prop := ∃ calls, chain = empty.growAll calls

/-- A node that fits on an index: it is a root, or stands one above a node that is there. -/
def Fits (chain : ChainIndex) (node : Node) : Prop :=
  ∀ parent ∈ node.parent, ∃ below, chain.header? parent = some below ∧
    node.header.height = below.height + 1

/-- **The node that a call asks for**: a root as it is given, a child one above its predecessor, and
on top of the tip, or at height zero where there is none, the next node of the chain. -/
inductive Places (chain : ChainIndex) : Growth → Node → Prop
  | root (header : Header) : chain.Places (.root header) ⟨header, none⟩
  | child {parent : NodeId} {below : Header} (time : Seconds) (bits : Compact)
      (present : chain.header? parent = some below) :
      chain.Places (.child parent time bits) ⟨⟨below.height + 1, time, bits⟩, some parent⟩
  | genesis (time : Seconds) (bits : Compact) (bare : chain.tipHeader? = none) :
      chain.Places (.append time bits) ⟨⟨0, time, bits⟩, none⟩
  | onTip {tip : NodeId} {below : Header} (time : Seconds) (bits : Compact)
      (top : chain.tipHeader? = some (tip, below)) :
      chain.Places (.append time bits) ⟨⟨below.height + 1, time, bits⟩, some tip⟩

theorem tipHeader?_eq_some_iff {chain : ChainIndex} {tip : NodeId} {below : Header} :
    chain.tipHeader? = some (tip, below) ↔
      chain.tip = some tip ∧ chain.header? tip = some below := by
  simp [tipHeader?, Option.bind_eq_some_iff]

/-- **A call pushes the node it asks for**, and answers with its id, the next one. -/
theorem Places.answer_eq {chain : ChainIndex} {call : Growth} {node : Node}
    (places : chain.Places call node) : chain.answer call = .ok ⟨chain.size, chain.push node⟩ := by
  cases places with
  | root header => rfl
  | child time bits present =>
    dsimp only [answer, insertChild, header]
    rw [present]
    rfl
  | genesis time bits bare =>
    dsimp only [answer, append]
    rw [bare]
    rfl
  | onTip time bits top =>
    dsimp only [answer, append]
    rw [top]
    rfl

theorem Places.grow_eq {chain : ChainIndex} {call : Growth} {node : Node}
    (places : chain.Places call node) : chain.grow call = chain.push node := by
  rw [grow, places.answer_eq]

theorem Places.fits {chain : ChainIndex} {call : Growth} {node : Node}
    (places : chain.Places call node) : chain.Fits node := by
  cases places with
  | root | genesis => rintro _ ⟨⟩
  | child _ _ present =>
    rintro _ ⟨⟩
    exact ⟨_, present, rfl⟩
  | onTip _ _ top =>
    rintro _ ⟨⟩
    exact ⟨_, (tipHeader?_eq_some_iff.1 top).2, rfl⟩

/-- **A child of an unknown id is refused**, and nothing changes. -/
theorem insertChild_of_size_le {chain : ChainIndex} {parent : NodeId}
    (unknown : chain.size ≤ parent) (time : Seconds) (bits : Compact) :
    chain.insertChild parent time bits = .error (.unknownNode parent) ∧
      chain.grow (.child parent time bits) = chain := by
  have absent : chain.header? parent = none := by
    rw [← Option.not_isSome_iff_eq_none, header?_isSome_iff]
    exact Nat.not_lt.2 unknown
  have refused : chain.insertChild parent time bits = .error (.unknownNode parent) := by
    rw [insertChild, header, absent]
    rfl
  refine ⟨refused, ?_⟩
  dsimp only [grow, answer]
  rw [refused]

/-- **Every other call places a node.** -/
theorem places_or_refused (chain : ChainIndex) (call : Growth) :
    (∃ node, chain.Places call node) ∨
      ∃ parent time bits, call = .child parent time bits ∧ chain.size ≤ parent := by
  cases call with
  | root header => exact Or.inl ⟨_, .root header⟩
  | child parent time bits =>
    rcases Nat.lt_or_ge parent chain.size with known | unknown
    · obtain ⟨below, present⟩ := Option.isSome_iff_exists.1 (header?_isSome_iff.2 known)
      exact Or.inl ⟨_, .child time bits present⟩
    · exact Or.inr ⟨parent, time, bits, rfl, unknown⟩
  | append time bits =>
    cases found : chain.tipHeader? with
    | none => exact Or.inl ⟨_, .genesis time bits found⟩
    | some top => exact Or.inl ⟨_, .onTip time bits found⟩

/-- **What a call can do**: nothing, or push one node that fits. -/
theorem grow_cases (chain : ChainIndex) (call : Growth) :
    chain.grow call = chain ∨ ∃ node, chain.Fits node ∧ chain.grow call = chain.push node := by
  rcases chain.places_or_refused call with ⟨node, places⟩ | ⟨parent, time, bits, rfl, unknown⟩
  · exact Or.inr ⟨node, places.fits, places.grow_eq⟩
  · exact Or.inl (insertChild_of_size_le unknown time bits).2

/-- **What every push of a fitting node keeps, every sequence of calls keeps.** -/
theorem growAll_induction {P : ChainIndex → Prop}
    (push : ∀ chain node, P chain → chain.Fits node → P (chain.push node)) {chain : ChainIndex}
    (start : P chain) (calls : List Growth) : P (chain.growAll calls) := by
  induction calls generalizing chain with
  | nil => exact start
  | cons call calls ih =>
    have once : P (chain.grow call) := by
      rcases chain.grow_cases call with same | ⟨node, fits, grown⟩
      · rwa [same]
      · exact grown ▸ push chain node start fits
    exact ih once

/-! ## Parents are older -/

/-- **Every parent is an older node.** -/
def Linked (chain : ChainIndex) : Prop :=
  ∀ (id : NodeId) (node : Node), chain.nodes[id]? = some node → ∀ parent ∈ node.parent, parent < id

theorem linked_empty : empty.Linked := by
  intro id node stands
  simp [empty] at stands

theorem Fits.lt_size {chain : ChainIndex} {node : Node} (fits : chain.Fits node)
    {parent : NodeId} (on : parent ∈ node.parent) : parent < chain.size := by
  obtain ⟨below, present, -⟩ := fits parent on
  exact header?_isSome_iff.1 (Option.isSome_of_eq_some present)

/-- A node of a grown index is the new one or an old one. -/
theorem getElem?_nodes_push {chain : ChainIndex} {node : Node} {id : NodeId} :
    (chain.push node).nodes[id]? = if id = chain.size then some node else chain.nodes[id]? :=
  Array.getElem?_push

theorem Linked.push {chain : ChainIndex} {node : Node} (linked : chain.Linked)
    (fits : chain.Fits node) : (chain.push node).Linked := by
  intro id found stands parent on
  rw [getElem?_nodes_push] at stands
  split at stands
  · rename_i new
    obtain rfl := Option.some.inj stands
    exact new ▸ fits.lt_size on
  · exact linked id found stands parent on

/-- **Whatever is called, parents stay older than their children.** -/
theorem Linked.growAll {chain : ChainIndex} (linked : chain.Linked) (calls : List Growth) :
    (chain.growAll calls).Linked :=
  growAll_induction (fun _ _ linked fits => linked.push fits) linked calls

theorem Reachable.linked {chain : ChainIndex} (reached : chain.Reachable) : chain.Linked := by
  obtain ⟨calls, rfl⟩ := reached
  exact linked_empty.growAll calls

/-! ## The history of a node -/

theorem history_of_none {chain : ChainIndex} {id : NodeId} (absent : chain.nodes[id]? = none) :
    chain.history id = [] := by
  rw [history, path, absent]
  rfl

theorem header?_of_getElem? {chain : ChainIndex} {id : NodeId} {node : Node}
    (stands : chain.nodes[id]? = some node) : chain.header? id = some node.header := by
  rw [header?, stands, Option.map_some]

/-- The path of a root is the root. -/
theorem path_of_root {chain : ChainIndex} {id : NodeId} {node : Node}
    (stands : chain.nodes[id]? = some node) (root : node.parent = none) : chain.path id = [id] := by
  rw [path, stands]
  dsimp only
  rw [root]

/-- **The path of a child goes on with the path of its parent.** -/
theorem path_of_child {chain : ChainIndex} (linked : chain.Linked) {id parent : NodeId}
    {node : Node} (stands : chain.nodes[id]? = some node) (child : node.parent = some parent) :
    chain.path id = id :: chain.path parent := by
  have older : parent < id := linked id node stands parent child
  rw [path, stands]
  dsimp only
  rw [child]
  dsimp only
  rw [if_pos older]

/-- The history of a root is the root. -/
theorem history_of_root {chain : ChainIndex} {id : NodeId} {node : Node}
    (stands : chain.nodes[id]? = some node) (root : node.parent = none) :
    chain.history id = [node.header] := by
  rw [history, path_of_root stands root, List.filterMap_cons_some (header?_of_getElem? stands),
    List.filterMap_nil]

/-- **The history of a child is its header and the history of its parent.** -/
theorem history_of_child {chain : ChainIndex} (linked : chain.Linked) {id parent : NodeId}
    {node : Node} (stands : chain.nodes[id]? = some node) (child : node.parent = some parent) :
    chain.history id = node.header :: chain.history parent := by
  rw [history, path_of_child linked stands child,
    List.filterMap_cons_some (header?_of_getElem? stands), history]

/-- A history begins with the node itself. -/
theorem head?_history {chain : ChainIndex} (linked : chain.Linked) (id : NodeId) :
    (chain.history id).head? = chain.header? id := by
  cases stands : chain.nodes[id]? with
  | none =>
    rw [history_of_none stands, header?, stands]
    rfl
  | some node =>
    rw [header?_of_getElem? stands]
    cases below : node.parent with
    | none => rw [history_of_root stands below, List.head?_cons]
    | some parent => rw [history_of_child linked stands below, List.head?_cons]

/-- One more node leaves the histories of the others alone. -/
theorem history_push {chain : ChainIndex} {node : Node} (linked : chain.Linked)
    (fits : chain.Fits node) {id : NodeId} (present : id < chain.size) :
    (chain.push node).history id = chain.history id := by
  induction id using Nat.strongRecOn with
  | _ id ih =>
    obtain ⟨old, stands⟩ : ∃ old, chain.nodes[id]? = some old :=
      ⟨_, Array.getElem?_eq_getElem present⟩
    have stays : (chain.push node).nodes[id]? = some old := by
      rw [getElem?_nodes_push, if_neg (Nat.ne_of_lt present), stands]
    cases below : old.parent with
    | none => rw [history_of_root stands below, history_of_root stays below]
    | some parent =>
      have older := linked id old stands parent below
      rw [history_of_child linked stands below, history_of_child (linked.push fits) stays below,
        ih parent older (Nat.lt_trans older present)]

/-- **No later call changes the history of a node.** -/
theorem history_growAll {chain : ChainIndex} (linked : chain.Linked) (calls : List Growth)
    {id : NodeId} (present : id < chain.size) :
    (chain.growAll calls).history id = chain.history id := by
  have kept : (chain.growAll calls).Linked ∧ id < (chain.growAll calls).size ∧
      (chain.growAll calls).history id = chain.history id := by
    refine growAll_induction (P := fun grown => grown.Linked ∧ id < grown.size ∧
      grown.history id = chain.history id) ?_ ⟨linked, present, rfl⟩ calls
    rintro grown node ⟨linked, present, same⟩ fits
    refine ⟨linked.push fits, ?_, (history_push linked fits present).trans same⟩
    rw [size_push]
    exact Nat.lt_succ_of_lt present
  exact kept.2.2

/-! ## The links of a history -/

/-- The predecessor of a node, if it is there and has one. -/
def parent? (chain : ChainIndex) (id : NodeId) : Option NodeId := chain.nodes[id]?.bind Node.parent

/-- **The node `k` links below a node**, the node itself at `k = 0`. -/
def ancestor? (chain : ChainIndex) (id : NodeId) : ℕ → Option NodeId
  | 0 => some id
  | k + 1 => (chain.ancestor? id k).bind chain.parent?

/-- The header `k` links below a node, where there is one. -/
def ancestorHeader? (chain : ChainIndex) (id : NodeId) (k : ℕ) : Option Header :=
  (chain.ancestor? id k).bind chain.header?

/-- The first link may be followed first. -/
theorem ancestor?_succ (chain : ChainIndex) (id : NodeId) (k : ℕ) :
    chain.ancestor? id (k + 1) = (chain.parent? id).bind fun parent => chain.ancestor? parent k := by
  induction k with
  | zero =>
    rw [ancestor?, ancestor?, Option.bind_some]
    exact (Option.bind_fun_some _).symm
  | succ k ih =>
    rw [ancestor?, ih, Option.bind_assoc]
    rfl

/-- **A history lists the headers along the links.** -/
theorem getElem?_history {chain : ChainIndex} (linked : chain.Linked) (id : NodeId) (k : ℕ) :
    (chain.history id)[k]? = chain.ancestorHeader? id k := by
  induction k generalizing id with
  | zero => rw [← List.head?_eq_getElem?, head?_history linked, ancestorHeader?, ancestor?,
      Option.bind_some]
  | succ k ih =>
    rw [ancestorHeader?, ancestor?_succ, parent?, Option.bind_assoc]
    cases stands : chain.nodes[id]? with
    | none => rw [history_of_none stands]; rfl
    | some node =>
      rw [Option.bind_some]
      cases below : node.parent with
      | none => rw [history_of_root stands below]; rfl
      | some parent =>
        rw [history_of_child linked stands below, List.getElem?_cons_succ, ih]
        rfl

end ChainIndex

end ProofOfWork
