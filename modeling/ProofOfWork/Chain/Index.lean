import ProofOfWork.Basic
import ProofOfWork.Target.Compact

/-!
# Chain/Index — block headers in a tree that only grows

The retargeting rules read three fields of a block: how many blocks lie below it, when it was made,
and the compact target it claims.  Nothing says that the claim is sound; a header may carry negative,
zero or oversized bits.

A `ChainIndex` keeps headers in the order in which they came; the place of a header is its **id**.
A node is either a root, whose predecessor is not known, or the child of an earlier node, one height
above it, so branches share their common ancestors.  The **tip** is the highest node, the earliest
of them on a tie: a new node takes over only if it is strictly higher (`ChainIndex.push`).  A call
that adds a node returns its id along with the grown index (`ChainIndex.Placed`).

What the rules see of all this is the **history** of a node: its own header, then that of its
predecessor, and so on down to the root (`ChainIndex.history`).
-/

namespace ProofOfWork

/-- **The header of a block**, as far as the retargeting rules read it. -/
structure Header where
  /-- The number of blocks below this one; the genesis block has height zero. -/
  height : Nat
  /-- When the block was made. -/
  time : Seconds
  /-- The compact target the block claims. -/
  bits : Compact
  deriving DecidableEq

/-- The target of the claimed bits, whatever its flags say. -/
def Header.target (h : Header) : Target := h.bits.decode.target

/-- The place of a node in the order of insertion. -/
abbrev NodeId := Nat

/-- A header together with the node it builds on. -/
structure Node where
  header : Header
  /-- The predecessor; a root has none. -/
  parent : Option NodeId
  deriving DecidableEq

/-- **Headers linked to their predecessors.** -/
structure ChainIndex where
  /-- The nodes, each at its own id. -/
  nodes : Array Node
  /-- The highest node, the first of them on a tie. -/
  tip : Option NodeId
  deriving DecidableEq

/-- Why a node could not be reached or placed. -/
inductive ChainError where
  /-- No node has this id. -/
  | unknownNode (id : NodeId)
  /-- A header does not stand one above the one before it. -/
  | heightGap (expected found : Nat)
  deriving DecidableEq

/-- What a chain error says. -/
def ChainError.message : ChainError → String
  | .unknownNode id => "unknown chain node " ++ toString id
  | .heightGap expected found =>
    "chain structure violation: expected height " ++ toString expected ++ ", found " ++
      toString found

namespace ChainIndex

/-- The index without nodes. -/
def empty : ChainIndex := ⟨#[], none⟩

/-- The number of nodes, which is also the id that the next one will have. -/
def size (chain : ChainIndex) : Nat := chain.nodes.size

/-- The header of a node. -/
def header? (chain : ChainIndex) (id : NodeId) : Option Header :=
  chain.nodes[id]?.map Node.header

/-- The header of a node, or the complaint that there is none. -/
def header (chain : ChainIndex) (id : NodeId) : Except ChainError Header :=
  match chain.header? id with
  | some header => .ok header
  | none => .error (.unknownNode id)

/-- The tip and its header. -/
def tipHeader? (chain : ChainIndex) : Option (NodeId × Header) :=
  chain.tip.bind fun id => (chain.header? id).map (id, ·)

/-! ## Growth -/

/-- Whether a height lies strictly above the tip. -/
def overtakes (chain : ChainIndex) (height : Nat) : Bool :=
  chain.tipHeader?.all fun (_, tip) => tip.height < height

/-- **One more node.**  It becomes the tip if it is strictly higher than the present one. -/
def push (chain : ChainIndex) (node : Node) : ChainIndex :=
  let tip := if chain.overtakes node.header.height then some chain.size else chain.tip
  { chain with nodes := chain.nodes.push node, tip }

/-- **What a call that adds a node returns**: the id of the new node, and the index with it. -/
structure Placed where
  id : NodeId
  chain : ChainIndex
  deriving DecidableEq

instance : Coe Placed ChainIndex := ⟨Placed.chain⟩

/-- One more node, at the id that was next. -/
def place (chain : ChainIndex) (node : Node) : Placed := ⟨chain.size, chain.push node⟩

/-- One more node without a known predecessor. -/
def insertRoot (chain : ChainIndex) (header : Header) : Placed :=
  chain.place ⟨header, none⟩

/-- One more node on top of `parent`. -/
def insertChild (chain : ChainIndex) (parent : NodeId) (time : Seconds) (bits : Compact) :
    Except ChainError Placed :=
  (chain.header parent).map fun below =>
    chain.place ⟨⟨below.height + 1, time, bits⟩, some parent⟩

/-- One more node on top of the tip, or the genesis node of an empty index. -/
def append (chain : ChainIndex) (time : Seconds) (bits : Compact) : Placed :=
  match chain.tipHeader? with
  | some (tip, below) => chain.place ⟨⟨below.height + 1, time, bits⟩, some tip⟩
  | none => chain.insertRoot ⟨0, time, bits⟩

/-- The index grown by headers that must follow the node placed last without a gap. -/
def Placed.extend (last : Placed) : List Header → Except ChainError ChainIndex
  | [] => .ok last.chain
  | next :: rest =>
    match last.chain.header last.id with
    | .error e => .error e
    | .ok below =>
      if next.height = below.height + 1 then
        match last.chain.insertChild last.id next.time next.bits with
        | .error e => .error e
        | .ok placed => placed.extend rest
      else .error (.heightGap (below.height + 1) next.height)

/-- **The index of one branch**, given from its root up.  The root may stand at any height; each
later header has to stand one above the one before it. -/
def ofHeaders : List Header → Except ChainError ChainIndex
  | [] => .ok empty
  | root :: rest => (empty.insertRoot root).extend rest

/-! ## Descent -/

/-- **The ids from a node down to its root.**  Every parent is older than its child, so a link that
did not lead to a smaller id would end the descent. -/
def path (chain : ChainIndex) (id : NodeId) : List NodeId :=
  match chain.nodes[id]? with
  | none => []
  | some node =>
    match node.parent with
    | none => [id]
    | some parent => if parent < id then id :: chain.path parent else [id]
termination_by id

/-- **The headers from a node down to its root**, which is all the retargeting rules look at. -/
def history (chain : ChainIndex) (id : NodeId) : List Header :=
  (chain.path id).filterMap chain.header?

/-- The history of the tip; an index without a tip has none. -/
def tipHistory (chain : ChainIndex) : List Header :=
  (chain.tip.map chain.history).getD []

/-! ## Views -/

@[simp] theorem size_push (chain : ChainIndex) (node : Node) :
    (chain.push node).size = chain.size + 1 := Array.size_push node

/-- A new node stands at the id that was next. -/
theorem header?_push_size (chain : ChainIndex) (node : Node) :
    (chain.push node).header? chain.size = some node.header := by
  simp only [header?, push, size, Array.getElem?_push_size, Option.map_some]

/-- **Older nodes keep their headers.** -/
theorem header?_push_of_lt {chain : ChainIndex} {id : NodeId} (older : id < chain.size)
    (node : Node) : (chain.push node).header? id = chain.header? id := by
  have apart : id ≠ chain.nodes.size := Nat.ne_of_lt older
  simp only [header?, push, Array.getElem?_push, apart, if_false]

theorem header?_isSome_iff {chain : ChainIndex} {id : NodeId} :
    (chain.header? id).isSome ↔ id < chain.size := by
  simp [header?, size]

end ChainIndex

end ProofOfWork
