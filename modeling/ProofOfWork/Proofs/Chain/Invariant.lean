import Mathlib.Order.Bounds.Basic
import ProofOfWork.Proofs.Chain.Growth

/-!
# Proofs/Chain/Invariant — the shape of an index, whatever built it

    id ──parent──▸ id' < id ──parent──▸ ⋯ ──▸ root        height falls by one along each link

Whatever roots, children and nodes on the tip have been inserted, in whatever order, an index is a
forest whose ids grow away from its roots, and its tip is the first of its highest nodes
(`WellFormed`).  One push of a fitting node keeps that: the new node is younger than all others, so
it takes over only if it is strictly higher.  Since heights fall by one along every link, a walk
from a node has no choice of where to end: at a root, after as many links as the node lies above it
(`WellFormed.exists_descends`).  No id that the index holds is without its node
(`WellFormed.closed`), so none of the look-ups by which it grows and is walked can fail.
-/

namespace ProofOfWork

namespace ChainIndex

/-- A node that no other lies above. -/
def Highest (chain : ChainIndex) (id : NodeId) : Prop :=
  ∃ header, chain.header? id = some header ∧
    ∀ (other : NodeId) (rival : Header), chain.header? other = some rival →
      rival.height ≤ header.height

/-- **The shape that every call keeps.** -/
structure WellFormed (chain : ChainIndex) : Prop where
  /-- Predecessors are older. -/
  linked : chain.Linked
  /-- A predecessor is there, one below its child. -/
  fits : ∀ (id : NodeId) (node : Node), chain.nodes[id]? = some node → chain.Fits node
  /-- Only an empty index is without a tip. -/
  tip_eq_none_iff : chain.tip = none ↔ chain.size = 0
  /-- The tip is the first of the highest nodes. -/
  isLeast_tip : ∀ id, chain.tip = some id → IsLeast {id | chain.Highest id} id

/-! ## One push -/

variable {chain : ChainIndex} {node : Node} {id : NodeId}

theorem header?_push : (chain.push node).header? id =
    if id = chain.size then some node.header else chain.header? id := by
  rw [header?, getElem?_nodes_push, header?, apply_ite (Option.map Node.header), Option.map_some]

theorem lt_size_of_header? {header : Header} (present : chain.header? id = some header) :
    id < chain.size :=
  header?_isSome_iff.1 (Option.isSome_of_eq_some present)

theorem Fits.push {new : Node} (fits : chain.Fits node) : (chain.push new).Fits node := by
  intro parent on
  obtain ⟨below, present, height⟩ := fits parent on
  exact ⟨below, by rw [header?_push_of_lt (lt_size_of_header? present), present], height⟩

/-- A new node above all others is the only highest one. -/
theorem isLeast_highest_push_of_above
    (above : ∀ other rival, chain.header? other = some rival → rival.height < node.header.height) :
    IsLeast {id | (chain.push node).Highest id} chain.size := by
  constructor
  · refine ⟨node.header, header?_push_size chain node, fun other rival present => ?_⟩
    rw [header?_push] at present
    split at present
    · exact (congrArg Header.height (Option.some.inj present)).ge
    · exact (above other rival present).le
  · rintro other ⟨header, present, highest⟩
    have reaches := highest chain.size node.header (header?_push_size chain node)
    rw [header?_push] at present
    split at present
    · rename_i new
      exact new.ge
    · exact absurd (above other header present) (Nat.not_lt.2 reaches)

/-- A new node that is not above the tip leaves the first highest node where it is. -/
theorem isLeast_highest_push_of_le {tip : Header} (present : chain.header? id = some tip)
    (least : IsLeast {id | chain.Highest id} id) (below : node.header.height ≤ tip.height) :
    IsLeast {id | (chain.push node).Highest id} id := by
  have older := lt_size_of_header? present
  obtain ⟨header, same, highest⟩ := least.1
  obtain rfl : tip = header := Option.some.inj (present.symm.trans same)
  constructor
  · refine ⟨tip, by rw [header?_push_of_lt older, present], fun other rival found => ?_⟩
    rw [header?_push] at found
    split at found
    · obtain rfl := Option.some.inj found
      exact below
    · exact highest other rival found
  · rintro other ⟨header, found, above⟩
    rw [header?_push] at found
    split at found
    · rename_i new
      exact new ▸ older.le
    · refine least.2 ⟨header, found, fun third rival standing => above third rival ?_⟩
      rw [header?_push_of_lt (lt_size_of_header? standing), standing]

theorem wellFormed_empty : empty.WellFormed where
  linked := linked_empty
  fits id node stands := by simp [empty] at stands
  tip_eq_none_iff := iff_of_true rfl rfl
  isLeast_tip id top := by cases top

/-- A new node becomes the tip where it overtakes it. -/
theorem tip_push_of_overtakes (higher : chain.overtakes node.header.height = true) :
    (chain.push node).tip = some chain.size := if_pos higher

theorem tip_push_of_not_overtakes (level : ¬ chain.overtakes node.header.height = true) :
    (chain.push node).tip = chain.tip := if_neg level

namespace WellFormed

variable (formed : chain.WellFormed)

include formed

/-- **The tip and its header**, or an index without either. -/
theorem tip_cases :
    (chain.size = 0 ∧ chain.tip = none ∧ chain.tipHeader? = none) ∨
    ∃ tip below, chain.tip = some tip ∧ chain.tipHeader? = some (tip, below) ∧
      ∀ other rival, chain.header? other = some rival → rival.height ≤ below.height := by
  cases top : chain.tip with
  | none =>
    refine Or.inl ⟨formed.tip_eq_none_iff.1 top, rfl, ?_⟩
    rw [tipHeader?, top]
    rfl
  | some tip =>
    obtain ⟨below, present, highest⟩ := (formed.isLeast_tip tip top).1
    exact Or.inr ⟨tip, below, rfl, tipHeader?_eq_some_iff.2 ⟨top, present⟩, highest⟩

/-- **A height overtakes the tip exactly when it lies above every node.** -/
theorem overtakes_iff {height : ℕ} :
    chain.overtakes height = true ↔
      ∀ other rival, chain.header? other = some rival → rival.height < height := by
  rcases formed.tip_cases with ⟨bare, -, none⟩ | ⟨tip, below, top, some, highest⟩
  · rw [overtakes, none, Option.all_none]
    refine iff_of_true rfl fun other rival present => ?_
    exact absurd (lt_size_of_header? present) (bare ▸ Nat.not_lt_zero other)
  · rw [overtakes, some, Option.all_some, decide_eq_true_iff]
    constructor
    · intro higher other rival present
      exact Nat.lt_of_le_of_lt (highest other rival present) higher
    · intro above
      exact above tip below (tipHeader?_eq_some_iff.1 some).2

/-- **After a push the tip is the first highest node**: the new node where it lies above all others,
the old tip where it does not. -/
theorem isLeast_tip_push {tip : NodeId} (top : (chain.push node).tip = some tip) :
    IsLeast {id | (chain.push node).Highest id} tip := by
  by_cases higher : chain.overtakes node.header.height = true
  · rw [tip_push_of_overtakes higher] at top
    obtain rfl := Option.some.inj top
    exact isLeast_highest_push_of_above (formed.overtakes_iff.1 higher)
  · rw [tip_push_of_not_overtakes higher] at top
    have least := formed.isLeast_tip tip top
    obtain ⟨below, present, highest⟩ := least.1
    rw [formed.overtakes_iff] at higher
    push Not at higher
    obtain ⟨other, rival, found, level⟩ := higher
    exact isLeast_highest_push_of_le present least (Nat.le_trans level (highest other rival found))

/-- A push leaves no index without a tip. -/
theorem tip_push_ne_none : (chain.push node).tip ≠ none := by
  intro bare
  by_cases higher : chain.overtakes node.header.height = true
  · rw [tip_push_of_overtakes higher] at bare
    cases bare
  · rw [tip_push_of_not_overtakes higher] at bare
    refine higher (formed.overtakes_iff.2 fun other rival present => ?_)
    exact absurd (lt_size_of_header? present)
      (formed.tip_eq_none_iff.1 bare ▸ Nat.not_lt_zero other)

/-- **A push of a fitting node keeps the shape.** -/
theorem push (fits : chain.Fits node) : (chain.push node).WellFormed where
  linked := formed.linked.push fits
  fits id found stands := by
    rw [getElem?_nodes_push] at stands
    split at stands
    · obtain rfl := Option.some.inj stands
      exact fits.push
    · exact (formed.fits id found stands).push
  tip_eq_none_iff := iff_of_false formed.tip_push_ne_none (by rw [size_push]; omega)
  isLeast_tip _ top := formed.isLeast_tip_push top

/-- **Every sequence of calls keeps the shape.** -/
theorem growAll (calls : List Growth) : (chain.growAll calls).WellFormed :=
  growAll_induction (fun _ _ formed fits => formed.push fits) formed calls

/-! ## Nodes on the tip -/

/-- **A node on the tip becomes the tip**, with the old one as its predecessor. -/
theorem append_eq_place (time : Seconds) (bits : Compact) :
    ∃ height, chain.append time bits = chain.place ⟨⟨height, time, bits⟩, chain.tip⟩ ∧
      chain.overtakes height = true := by
  rcases formed.tip_cases with ⟨-, top, none⟩ | ⟨tip, below, top, some, highest⟩
  · refine ⟨0, ?_, by rw [overtakes, none, Option.all_none]⟩
    rw [top]
    exact Except.ok.inj (Places.genesis time bits none).answer_eq
  · refine ⟨below.height + 1, ?_, formed.overtakes_iff.2 fun other rival present =>
      Nat.lt_succ_of_le (highest other rival present)⟩
    rw [top]
    exact Except.ok.inj (Places.onTip time bits some).answer_eq

/-! ## Walks -/

/-- A predecessor is a node of the index. -/
theorem exists_parent {parent : NodeId} (stands : chain.nodes[id]? = some node)
    (on : node.parent = some parent) :
    ∃ base, chain.nodes[parent]? = some base ∧ node.header.height = base.header.height + 1 := by
  obtain ⟨below, present, height⟩ := formed.fits id node stands parent on
  obtain ⟨base, found, rfl⟩ := Option.map_eq_some_iff.1 present
  exact ⟨base, found, height⟩

/-- **Heights fall by one along every link.** -/
theorem height_ancestor? {k : ℕ} {ancestor : NodeId} (stands : chain.nodes[id]? = some node)
    (reached : chain.ancestor? id k = some ancestor) :
    ∃ base, chain.nodes[ancestor]? = some base ∧
      node.header.height = base.header.height + k := by
  induction k generalizing ancestor with
  | zero =>
    obtain rfl := Option.some.inj reached
    exact ⟨node, stands, rfl⟩
  | succ k ih =>
    obtain ⟨middle, reachedMiddle, link⟩ := Option.bind_eq_some_iff.1 reached
    obtain ⟨between, standsMiddle, height⟩ := ih reachedMiddle
    obtain ⟨_, found, on⟩ := Option.bind_eq_some_iff.1 link
    obtain rfl := Option.some.inj (standsMiddle.symm.trans found)
    obtain ⟨base, standsBase, step⟩ := formed.exists_parent standsMiddle on
    exact ⟨base, standsBase, by omega⟩

/-- Every walk ends: the ids grow smaller along it. -/
theorem exists_root (stands : chain.nodes[id]? = some node) :
    ∃ k root base, chain.ancestor? id k = some root ∧ chain.nodes[root]? = some base ∧
      base.parent = none := by
  induction id using Nat.strongRecOn generalizing node with
  | _ id ih =>
    cases on : node.parent with
    | none => exact ⟨0, id, node, rfl, stands, on⟩
    | some parent =>
      obtain ⟨below, standsBelow, -⟩ := formed.exists_parent stands on
      obtain ⟨k, root, base, reached, standsRoot, bare⟩ :=
        ih parent (formed.linked id node stands parent on) standsBelow
      refine ⟨k + 1, root, base, ?_, standsRoot, bare⟩
      rw [ancestor?_succ, parent?, stands, Option.bind_some, on, Option.bind_some, reached]

/-- **A path lists the ids along the links.** -/
theorem getElem?_path (stands : chain.nodes[id]? = some node) (k : ℕ) :
    (chain.path id)[k]? = chain.ancestor? id k := by
  induction k generalizing id node with
  | zero =>
    cases on : node.parent with
    | none => rw [path_of_root stands on]; rfl
    | some parent => rw [path_of_child formed.linked stands on]; rfl
  | succ k ih =>
    rw [ancestor?_succ, parent?, stands, Option.bind_some]
    cases on : node.parent with
    | none => rw [path_of_root stands on]; rfl
    | some parent =>
      obtain ⟨below, standsBelow, -⟩ := formed.exists_parent stands on
      rw [path_of_child formed.linked stands on, List.getElem?_cons_succ, ih standsBelow,
        Option.bind_some]

end WellFormed

/-- **How a walk from a node ends**: at a root no higher than the node, after as many links as the
node lies above it, along the ids of its path. -/
structure Descends (chain : ChainIndex) (id : NodeId) (node : Node) (root : NodeId) (base : Node) :
    Prop where
  stands : chain.nodes[root]? = some base
  parentless : base.parent = none
  below : base.header.height ≤ node.header.height
  reached : chain.ancestor? id (node.header.height - base.header.height) = some root
  path : ∀ k, (chain.path id)[k]? = chain.ancestor? id k
  length : (chain.path id).length = node.header.height - base.header.height + 1

/-- **Every walk ends at a root**, and its length is the difference of the heights. -/
theorem WellFormed.exists_descends (formed : chain.WellFormed)
    (stands : chain.nodes[id]? = some node) :
    ∃ root base, chain.Descends id node root base := by
  obtain ⟨k, root, base, reached, standsRoot, bare⟩ := formed.exists_root stands
  obtain ⟨_, found, height⟩ := formed.height_ancestor? stands reached
  obtain rfl := Option.some.inj (standsRoot.symm.trans found)
  have links : node.header.height - base.header.height = k := by omega
  have path := formed.getElem?_path stands
  have last : (chain.path id)[k]? = some root := (path k).trans reached
  have beyond : (chain.path id)[k + 1]? = none := by
    rw [path, ancestor?, reached, Option.bind_some, parent?, standsRoot, Option.bind_some, bare]
  refine ⟨root, base, standsRoot, bare, by omega, links ▸ reached, path, ?_⟩
  have reaches := (List.getElem?_eq_some_iff.1 last).1
  have ends := List.getElem?_eq_none_iff.1 beyond
  omega

/-! ## Look-ups -/

/-- **No id dangles.**  Whatever an index holds as an id is the id of one of its nodes, so that every
look-up by it finds a header: at the tip, and at each step of a walk from a node. -/
structure Closed (chain : ChainIndex) : Prop where
  /-- The tip has a header. -/
  tip : ∀ id, chain.tip = some id →
    ∃ header, chain.header? id = some header ∧ chain.tipHeader? = some (id, header)
  /-- The links from a node lead to nodes. -/
  links : ∀ id < chain.size, ∀ k step, chain.ancestor? id k = some step → step < chain.size
  /-- A path goes on as long as there are links. -/
  path : ∀ id < chain.size, ∀ k, (chain.path id)[k]? = chain.ancestor? id k
  /-- A history misses no header of its path. -/
  history : ∀ id < chain.size, (chain.path id).map chain.header? = (chain.history id).map some

/-- What is found for every entry of a list is all of what is looked for. -/
theorem map_some_filterMap {α β : Type} {f : α → Option β} {xs : List α}
    (found : ∀ x ∈ xs, (f x).isSome) : (xs.filterMap f).map some = xs.map f := by
  induction xs with
  | nil => rfl
  | cons x xs ih =>
    obtain ⟨here, behind⟩ := List.forall_mem_cons.1 found
    obtain ⟨b, value⟩ := Option.isSome_iff_exists.1 here
    rw [List.filterMap_cons_some value, List.map_cons, List.map_cons, ih behind, value]

theorem WellFormed.closed (formed : chain.WellFormed) : chain.Closed := by
  have links : ∀ id < chain.size, ∀ k step, chain.ancestor? id k = some step →
      step < chain.size := by
    intro id present k step reached
    obtain ⟨base, stands, -⟩ := formed.height_ancestor? (Array.getElem?_eq_getElem present) reached
    exact lt_size_of_header? (header?_of_getElem? stands)
  have path : ∀ id < chain.size, ∀ k, (chain.path id)[k]? = chain.ancestor? id k :=
    fun id present => formed.getElem?_path (Array.getElem?_eq_getElem present)
  refine ⟨fun id top => ?_, links, path, fun id present => ?_⟩
  · obtain ⟨header, found, -⟩ := (formed.isLeast_tip id top).1
    exact ⟨header, found, tipHeader?_eq_some_iff.2 ⟨top, found⟩⟩
  · refine (map_some_filterMap fun step on => ?_).symm
    obtain ⟨k, entry⟩ := List.mem_iff_getElem?.1 on
    exact header?_isSome_iff.2 (links id present k step ((path id present k).symm.trans entry))

theorem Reachable.wellFormed (reached : chain.Reachable) : chain.WellFormed := by
  obtain ⟨calls, rfl⟩ := reached
  exact wellFormed_empty.growAll calls

/-- **No look-up fails in an index that calls build.** -/
theorem Reachable.closed (reached : chain.Reachable) : chain.Closed := reached.wellFormed.closed

/-! ## Old nodes -/

/-- **No call changes a node that is there.** -/
theorem getElem?_nodes_growAll (stands : chain.nodes[id]? = some node) (calls : List Growth) :
    (chain.growAll calls).nodes[id]? = some node := by
  refine growAll_induction (P := fun grown => grown.nodes[id]? = some node)
    (fun grown new stands _ => ?_) stands calls
  have older := lt_size_of_header? (header?_of_getElem? stands)
  rw [getElem?_nodes_push, if_neg (Nat.ne_of_lt older), stands]

/-! ## What every run keeps -/

/-- **All that a caller may rely on**, whatever calls have built an index. -/
structure Shape (chain : ChainIndex) : Prop where
  /-- Ids run from zero up to the size. -/
  ids : ∀ id, (chain.header? id).isSome ↔ id < chain.size
  /-- A call places its node at the next id, and answers with that id; only a child of an unknown id
  places none. -/
  placed : ∀ call,
    (∃ node, chain.Places call node ∧ (chain.grow call).nodes = chain.nodes.push node ∧
        chain.answer call = .ok ⟨chain.size, chain.grow call⟩) ∨
      ∃ parent time bits, call = .child parent time bits ∧ chain.size ≤ parent
  /-- No later call changes a node. -/
  kept : ∀ (calls : List Growth) (id : NodeId) (node : Node), chain.nodes[id]? = some node →
    (chain.growAll calls).nodes[id]? = some node
  /-- A predecessor is older, is there, and stands one lower. -/
  links : ∀ (id : NodeId) (node : Node), chain.nodes[id]? = some node → ∀ parent ∈ node.parent,
    parent < id ∧ ∃ base, chain.nodes[parent]? = some base ∧
      node.header.height = base.header.height + 1
  /-- Every walk ends at a root, after as many links as the heights differ. -/
  walks : ∀ (id : NodeId) (node : Node), chain.nodes[id]? = some node →
    ∃ root base, chain.Descends id node root base
  /-- Only an empty index is without a tip. -/
  bare : chain.tip = none ↔ chain.size = 0
  /-- The tip is the first of the highest nodes. -/
  tip : ∀ id, chain.tip = some id → IsLeast {id | chain.Highest id} id
  /-- No look-up by an id that the index holds fails. -/
  closed : chain.Closed
  /-- A node on the tip becomes the tip, and the old tip its predecessor. -/
  appended : ∀ time bits, (chain.append time bits).id = chain.size ∧
    (chain.append time bits).chain.tip = some chain.size ∧ ∃ height,
      (chain.append time bits).chain.nodes = chain.nodes.push ⟨⟨height, time, bits⟩, chain.tip⟩
  /-- A child of an unknown id is refused, and nodes and tip stay as they are. -/
  refused : ∀ parent time bits, chain.size ≤ parent →
    chain.insertChild parent time bits = .error (.unknownNode parent) ∧
      chain.grow (.child parent time bits) = chain

/-- **Every index that calls have built has this shape.** -/
theorem shape_of_reachable {chain : ChainIndex} (reached : chain.Reachable) : chain.Shape := by
  have formed := reached.wellFormed
  refine
    { ids := fun id => header?_isSome_iff
      placed := fun call => ?_
      kept := fun calls id node stands => getElem?_nodes_growAll stands calls
      links := fun id node stands parent on =>
        ⟨formed.linked id node stands parent on, formed.exists_parent stands on⟩
      walks := fun id node stands => formed.exists_descends stands
      bare := formed.tip_eq_none_iff
      tip := formed.isLeast_tip
      closed := formed.closed
      appended := fun time bits => ?_
      refused := fun parent time bits unknown => insertChild_of_size_le unknown time bits }
  · rcases chain.places_or_refused call with ⟨node, places⟩ | unknown
    · refine Or.inl ⟨node, places, congrArg nodes places.grow_eq, ?_⟩
      rw [places.answer_eq, places.grow_eq]
    · exact Or.inr unknown
  · obtain ⟨height, appended, higher⟩ := formed.append_eq_place time bits
    rw [appended]
    exact ⟨rfl, tip_push_of_overtakes higher, height, rfl⟩

/-- A fork, a child that is refused, a second root, and two nodes at height two. -/
def forked : ChainIndex :=
  empty.growAll [.append 0 ⟨1⟩, .child 0 10 ⟨2⟩, .child 0 11 ⟨3⟩, .child 9 12 ⟨4⟩,
    .root ⟨1, 5, ⟨5⟩⟩, .child 2 20 ⟨6⟩, .child 1 21 ⟨7⟩]

/-- The fork has the shape, and the earlier of its two highest nodes is the tip. -/
theorem forked_shape :
    forked.Reachable ∧ forked.Shape ∧ IsLeast {id | forked.Highest id} 4 :=
  have reached : forked.Reachable := ⟨_, rfl⟩
  ⟨reached, shape_of_reachable reached, (shape_of_reachable reached).tip 4 rfl⟩

end ChainIndex

end ProofOfWork
