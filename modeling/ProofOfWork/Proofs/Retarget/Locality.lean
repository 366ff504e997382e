import ProofOfWork.Proofs.Chain.Growth
import ProofOfWork.Proofs.Retarget.Walk
import ProofOfWork.Retarget.NextWork

/-!
# Proofs/Retarget/Locality — retargeting reads the window of its own branch

    chain₁, id₁ ──history──▸ x₁ x₂ … x_M …        height, target and lag alike for k ≤ M
    chain₂, id₂ ──history──▸ y₁ y₂ … y_M …   ⟹   equal reports

Two walks over branches of two indices proceed in lock step as long as their blocks look alike from
their tips (`Alike`); a full window ends both before either asks for block `M + 1`, so not even the
existence of that block matters (`walk_congr`).  Node ids, siblings, other roots, the order of
insertion and older history do not occur in the condition.  Later calls leave a history as it is, and
a shift of all times leaves every lag as it is, so neither changes a report.
-/

namespace ProofOfWork

/-! ## Two walks in lock step -/

/-- **Two blocks that look alike**, each from its own tip: nothing else about a block is read. -/
structure Alike (tip₁ tip₂ block₁ block₂ : Header) : Prop where
  height : block₁.height = block₂.height
  target : block₁.target = block₂.target
  lag : exactLag tip₁ block₁ = exactLag tip₂ block₂

variable {window : Window} {tip₁ tip₂ : Header}

theorem Alike.lag_eq {block₁ block₂ : Header} (alike : Alike tip₁ tip₂ block₁ block₂) :
    ProofOfWork.lag tip₁ block₁ = ProofOfWork.lag tip₂ block₂ := by
  rw [← Int64.toInt_inj, toInt_lag, toInt_lag, alike.lag]

theorem stopsAt_congr {block₁ block₂ : Header} (alike : Alike tip₁ tip₂ block₁ block₂)
    (gathered : Gathered) : stopsAt window gathered block₁ = stopsAt window gathered block₂ := by
  rw [stopsAt, stopsAt, alike.height]

theorem sample_congr {block₁ block₂ : Header} (alike : Alike tip₁ tip₂ block₁ block₂)
    (gathered : Gathered) :
    sample window tip₁ gathered block₁ = sample window tip₂ gathered block₂ := by
  rw [sample, sample, alike.target, alike.lag_eq]

/-- Whether a walk may ask for the block `k` links below its tip. -/
def Window.Reaches (window : Window) (k : ℕ) : Prop := window.atMost = 0 ∨ k < window.atMost

theorem Window.reaches_zero (window : Window) : window.Reaches 0 := Nat.eq_zero_or_pos _

/-- A walk whose window is full goes no further, whatever is left of its branch. -/
theorem walk_of_not_reaches {tip : Header} {gathered : Gathered}
    (full : ¬ window.Reaches gathered.samples) (rest : List Header) :
    walk window tip gathered rest = .ok gathered := by
  rcases rest with _ | ⟨next, rest⟩
  · rfl
  · have stops : stopsAt window gathered next = true := by
      obtain ⟨bounded, filled⟩ := not_or.1 full
      simp [stopsAt, Nat.pos_of_ne_zero bounded, Nat.le_of_not_lt filled]
    rw [walk, if_pos stops]

/-- **The lock step**: walks whose blocks look alike as far as the window reaches end alike. -/
theorem walk_congr {gathered : Gathered} {rest₁ rest₂ : List Header}
    (alike : ∀ k, window.Reaches (gathered.samples + k) →
      Option.Rel (Alike tip₁ tip₂) rest₁[k]? rest₂[k]?) :
    walk window tip₁ gathered rest₁ = walk window tip₂ gathered rest₂ := by
  by_cases room : window.Reaches gathered.samples
  · induction rest₁ generalizing gathered rest₂ with
    | nil =>
      rcases rest₂ with _ | ⟨block₂, rest₂⟩
      · rfl
      · exact nomatch alike 0 room
    | cons block₁ rest₁ ih =>
      rcases rest₂ with _ | ⟨block₂, rest₂⟩
      · exact nomatch alike 0 room
      · obtain ⟨same⟩ : Option.Rel (Alike tip₁ tip₂) (some block₁) (some block₂) := alike 0 room
        rw [walk, walk, stopsAt_congr same, sample_congr same]
        split
        · rfl
        · rcases sampled : sample window tip₂ gathered block₂ with fault | more
          · rfl
          · have count := (of_sample_eq_ok sampled).2
            have next : walk window tip₁ more rest₁ = walk window tip₂ more rest₂ := by
              by_cases further : window.Reaches more.samples
              · refine ih (fun k reached => alike (k + 1) ?_) further
                rwa [count, Nat.add_right_comm, Nat.add_assoc] at reached
              · rw [walk_of_not_reaches further, walk_of_not_reaches further]
            dsimp only
            rw [next]
  · rw [walk_of_not_reaches room, walk_of_not_reaches room]

/-! ## The report and the required bits of a branch -/

/-- The bits required on top of a branch, its tip first; an empty one has no answer. -/
def requiredBits (params : Params) : List Header → Option (Except Fault Compact)
  | [] => none
  | tip :: older => some (nextWork params tip older)

/-- **Reports agree where the branches do**, as far as the window reaches. -/
theorem gravityWell_congr {params₁ params₂ : Params} (limit : params₁.limit = params₂.limit)
    {older₁ older₂ : List Header}
    (alike : ∀ k, window.Reaches k →
      Option.Rel (Alike tip₁ tip₂) (tip₁ :: older₁)[k]? (tip₂ :: older₂)[k]?) :
    gravityWell window params₁ (tip₁ :: older₁) = gravityWell window params₂ (tip₂ :: older₂) := by
  obtain ⟨tips⟩ : Option.Rel (Alike tip₁ tip₂) (some tip₁) (some tip₂) :=
    alike 0 window.reaches_zero
  have start : Gathered.start tip₁ = Gathered.start tip₂ := by
    rw [Gathered.start, tips.target]
    rfl
  have walked : walk window tip₁ (Gathered.start tip₁) (tip₁ :: older₁) =
      walk window tip₂ (Gathered.start tip₂) (tip₂ :: older₂) := by
    rw [start]
    refine walk_congr fun k reached => alike k ?_
    rwa [Gathered.start, Nat.zero_add] at reached
  rw [gravityWell, gravityWell, tips.height, limit, walked]

theorem requiredBits_congr {params₁ params₂ : Params} (limit : params₁.limit = params₂.limit)
    {older₁ older₂ : List Header}
    (alike : ∀ k, Window.deployed.Reaches k →
      Option.Rel (Alike tip₁ tip₂) (tip₁ :: older₁)[k]? (tip₂ :: older₂)[k]?) :
    requiredBits params₁ (tip₁ :: older₁) = requiredBits params₂ (tip₂ :: older₂) := by
  obtain ⟨tips⟩ : Option.Rel (Alike tip₁ tip₂) (some tip₁) (some tip₂) :=
    alike 0 Window.deployed.reaches_zero
  rw [requiredBits, requiredBits, nextWork, nextWork, tips.height, gravityWell_congr limit alike]

/-! ## A shift of all times -/

section Shift

variable (δ : ℤ)

/-- A header whose time is moved; the move is exact where `Header.MayShift` holds. -/
def Header.shift (header : Header) : Header :=
  { header with time := Int64.ofInt (header.time.toInt + δ) }

/-- The moved time is a time again. -/
def Header.MayShift (header : Header) : Prop :=
  -2 ^ 63 ≤ header.time.toInt + δ ∧ header.time.toInt + δ < 2 ^ 63

def Node.shift (node : Node) : Node := { node with header := node.header.shift δ }

def ChainIndex.shift (chain : ChainIndex) : ChainIndex :=
  { chain with nodes := chain.nodes.map (Node.shift δ) }

/-- The same call with its time moved. -/
def Growth.shift : Growth → Growth
  | .root header => .root (header.shift δ)
  | .child parent time bits => .child parent (Int64.ofInt (time.toInt + δ)) bits
  | .append time bits => .append (Int64.ofInt (time.toInt + δ)) bits

variable {δ}

/-- **A block looks the same after all times have moved.** -/
theorem alike_shift {tip block : Header} (tipMay : tip.MayShift δ) (blockMay : block.MayShift δ) :
    Alike (tip.shift δ) tip (block.shift δ) block where
  height := rfl
  target := rfl
  lag := by
    have tipTime : (tip.shift δ).time.toInt = tip.time.toInt + δ :=
      Int64.toInt_ofInt_of_le tipMay.1 tipMay.2
    have blockTime : (block.shift δ).time.toInt = block.time.toInt + δ :=
      Int64.toInt_ofInt_of_le blockMay.1 blockMay.2
    rw [exactLag, exactLag, tipTime, blockTime, Int.add_sub_add_right]

/-- Branches look alike everywhere when one is the other with its times moved. -/
theorem alike_map_shift {tip : Header} {older : List Header}
    (may : ∀ header ∈ tip :: older, header.MayShift δ) (k : ℕ) :
    Option.Rel (Alike (tip.shift δ) tip) (tip.shift δ :: older.map (Header.shift δ))[k]?
      (tip :: older)[k]? := by
  rw [← List.map_cons, List.getElem?_map]
  rcases stands : (tip :: older)[k]? with _ | block
  · exact .none
  · exact .some
      (alike_shift (may tip (List.mem_cons_self ..)) (may block (List.mem_of_getElem? stands)))

namespace ChainIndex

/-! Growth reads heights only, so the index of the moved calls is the moved index, with the same
ids and links; its histories are the moved histories. -/

theorem header?_shift (chain : ChainIndex) (id : NodeId) :
    (chain.shift δ).header? id = (chain.header? id).map (Header.shift δ) := by
  rw [header?, header?, shift, Array.getElem?_map, Option.map_map, Option.map_map]
  rfl

theorem tipHeader?_shift (chain : ChainIndex) :
    (chain.shift δ).tipHeader? = chain.tipHeader?.map fun (id, tip) => (id, tip.shift δ) := by
  have tip : (chain.shift δ).tip = chain.tip := rfl
  rw [tipHeader?, tipHeader?, tip, Option.map_bind]
  refine congrArg _ (funext fun id => ?_)
  rw [header?_shift, Option.map_map, Function.comp_apply, Option.map_map]
  rfl

theorem push_shift (chain : ChainIndex) (node : Node) :
    (chain.shift δ).push (node.shift δ) = (chain.push node).shift δ := by
  have size : (chain.shift δ).size = chain.size := Array.size_map
  have overtakes : (chain.shift δ).overtakes (node.shift δ).header.height =
      chain.overtakes node.header.height := by
    rw [ChainIndex.overtakes, ChainIndex.overtakes, tipHeader?_shift, Option.all_map]
    rfl
  rw [push, push, overtakes, size, shift, shift, Array.map_push]

/-- The moved call asks for the moved node. -/
theorem Places.shift {chain : ChainIndex} {call : Growth} {node : Node}
    (places : chain.Places call node) :
    (chain.shift δ).Places (call.shift δ) (node.shift δ) := by
  cases places with
  | root header => exact .root (header.shift δ)
  | @child parent below time bits present =>
    have moved : (chain.shift δ).header? parent = some (below.shift δ) := by
      rw [header?_shift, present, Option.map_some]
    have asks := Places.child (Int64.ofInt (time.toInt + δ)) bits moved
    exact asks
  | genesis time bits bare =>
    have moved : (chain.shift δ).tipHeader? = none := by
      rw [tipHeader?_shift, bare, Option.map_none]
    exact .genesis _ bits moved
  | @onTip tip below time bits top =>
    have moved : (chain.shift δ).tipHeader? = some (tip, below.shift δ) := by
      rw [tipHeader?_shift, top, Option.map_some]
    have asks := Places.onTip (Int64.ofInt (time.toInt + δ)) bits moved
    exact asks

theorem grow_shift (chain : ChainIndex) (call : Growth) :
    (chain.shift δ).grow (call.shift δ) = (chain.grow call).shift δ := by
  rcases chain.places_or_refused call with ⟨node, places⟩ | ⟨parent, time, bits, rfl, unknown⟩
  · rw [places.shift.grow_eq, places.grow_eq, push_shift]
  · have unknownMoved : (chain.shift δ).size ≤ parent := Array.size_map.trans_le unknown
    rw [(insertChild_of_size_le unknown time bits).2]
    exact (insertChild_of_size_le unknownMoved _ bits).2

theorem growAll_shift (chain : ChainIndex) (calls : List Growth) :
    (chain.shift δ).growAll (calls.map (Growth.shift δ)) = (chain.growAll calls).shift δ := by
  induction calls generalizing chain with
  | nil => rfl
  | cons call calls ih =>
    change ((chain.shift δ).grow (call.shift δ)).growAll _ = ((chain.grow call).growAll calls).shift δ
    rw [grow_shift, ih]

theorem shift_empty : empty.shift δ = empty := by
  rw [shift, empty, Array.map_empty]

theorem path_shift (chain : ChainIndex) (id : NodeId) : (chain.shift δ).path id = chain.path id := by
  induction id using Nat.strongRecOn with
  | _ id ih =>
    have node : (chain.shift δ).nodes[id]? = chain.nodes[id]?.map (Node.shift δ) :=
      Array.getElem?_map
    rw [path, path, node]
    rcases chain.nodes[id]? with _ | ⟨header, _ | parent⟩
    · rfl
    · rfl
    · dsimp only [Option.map_some, Node.shift]
      split
      · rename_i older
        rw [ih parent older]
      · rfl

theorem history_shift (chain : ChainIndex) (id : NodeId) :
    (chain.shift δ).history id = (chain.history id).map (Header.shift δ) := by
  rw [history, history, path_shift, List.map_filterMap]
  exact congrArg (List.filterMap · _) (funext fun id => header?_shift chain id)

end ChainIndex

end Shift

/-! ## Nodes of an index -/

namespace ChainIndex

variable (chain : ChainIndex) (window : Window) (params : Params) (id : NodeId)

/-- The report on the branch of a node. -/
def report : Except Fault Report := gravityWell window params (chain.history id)

/-- The bits required on top of a node; an unknown node has no answer. -/
def required : Option (Except Fault Compact) := requiredBits params (chain.history id)

/-- **The same window below two nodes** of two indices: along the links, as far as `reach` blocks,
both have a block or both have none, and their blocks look alike. -/
def SameWindow (reach : ℕ) (chain₁ : ChainIndex) (id₁ : NodeId) (chain₂ : ChainIndex)
    (id₂ : NodeId) : Prop :=
  ∃ tip₁ tip₂, chain₁.header? id₁ = some tip₁ ∧ chain₂.header? id₂ = some tip₂ ∧
    ∀ k < reach, Option.Rel (Alike tip₁ tip₂) (chain₁.ancestorHeader? id₁ k)
      (chain₂.ancestorHeader? id₂ k)

variable {chain window params id}

theorem history_eq_cons (linked : chain.Linked) {tip : Header}
    (present : chain.header? id = some tip) : ∃ older, chain.history id = tip :: older := by
  rw [← head?_history linked] at present
  exact List.head?_eq_some_iff.1 present

/-- Nodes with the same window have branches that look alike as far as it reaches. -/
theorem SameWindow.alike {reach : ℕ} {chain₁ chain₂ : ChainIndex} {id₁ id₂ : NodeId}
    (linked₁ : chain₁.Linked) (linked₂ : chain₂.Linked)
    (same : SameWindow reach chain₁ id₁ chain₂ id₂) :
    ∃ tip₁ older₁ tip₂ older₂, chain₁.history id₁ = tip₁ :: older₁ ∧
      chain₂.history id₂ = tip₂ :: older₂ ∧
      ∀ k < reach, Option.Rel (Alike tip₁ tip₂) (tip₁ :: older₁)[k]? (tip₂ :: older₂)[k]? := by
  obtain ⟨tip₁, tip₂, present₁, present₂, alike⟩ := same
  obtain ⟨older₁, branch₁⟩ := history_eq_cons linked₁ present₁
  obtain ⟨older₂, branch₂⟩ := history_eq_cons linked₂ present₂
  refine ⟨tip₁, older₁, tip₂, older₂, branch₁, branch₂, fun k inside => ?_⟩
  rw [← branch₁, ← branch₂, getElem?_history linked₁, getElem?_history linked₂]
  exact alike k inside

/-- A node and the same node after a shift have branches that look alike everywhere. -/
theorem history_shift_cases (chain : ChainIndex) (id : NodeId) {δ : ℤ}
    (may : ∀ header ∈ chain.history id, header.MayShift δ) :
    (chain.history id = [] ∧ (chain.shift δ).history id = []) ∨
    ∃ (tip : Header) (older : List Header), chain.history id = tip :: older ∧
      (chain.shift δ).history id = tip.shift δ :: older.map (Header.shift δ) ∧
      ∀ k : ℕ, Option.Rel (Alike (tip.shift δ) tip)
        (tip.shift δ :: older.map (Header.shift δ))[k]? (tip :: older)[k]? := by
  rw [history_shift]
  rcases branch : chain.history id with _ | ⟨tip, older⟩
  · exact Or.inl ⟨rfl, rfl⟩
  · rw [branch] at may
    exact Or.inr ⟨tip, older, rfl, rfl, alike_map_shift may⟩

/-- **The same window, the same report.** -/
theorem SameWindow.report_eq {chain₁ chain₂ : ChainIndex} {id₁ id₂ : NodeId}
    {params₁ params₂ : Params} (linked₁ : chain₁.Linked) (linked₂ : chain₂.Linked)
    (limit : params₁.limit = params₂.limit) (bounded : 0 < window.atMost)
    (same : SameWindow window.atMost chain₁ id₁ chain₂ id₂) :
    chain₁.report window params₁ id₁ = chain₂.report window params₂ id₂ := by
  obtain ⟨tip₁, older₁, tip₂, older₂, branch₁, branch₂, alike⟩ := same.alike linked₁ linked₂
  rw [report, report, branch₁, branch₂]
  exact gravityWell_congr limit fun k reached => alike k (reached.resolve_left bounded.ne')

/-- **The same window at the deployed reach, the same required bits.** -/
theorem SameWindow.required_eq {chain₁ chain₂ : ChainIndex} {id₁ id₂ : NodeId}
    {params₁ params₂ : Params} (linked₁ : chain₁.Linked) (linked₂ : chain₂.Linked)
    (limit : params₁.limit = params₂.limit) (same : SameWindow 4032 chain₁ id₁ chain₂ id₂) :
    chain₁.required params₁ id₁ = chain₂.required params₂ id₂ := by
  obtain ⟨tip₁, older₁, tip₂, older₂, branch₁, branch₂, alike⟩ := same.alike linked₁ linked₂
  rw [required, required, branch₁, branch₂]
  exact requiredBits_congr limit fun k reached => alike k (reached.resolve_left (by decide))

/-- **Later calls change neither the report nor the required bits** of a node that is there. -/
theorem report_growAll (linked : chain.Linked) (calls : List Growth) (present : id < chain.size)
    (window : Window) (params : Params) :
    (chain.growAll calls).report window params id = chain.report window params id ∧
      (chain.growAll calls).required params id = chain.required params id := by
  rw [report, required, history_growAll linked calls present]
  exact ⟨rfl, rfl⟩

/-- **A shift of all times changes neither the report nor the required bits.** -/
theorem report_shift (chain : ChainIndex) (window : Window) (params : Params) (id : NodeId) {δ : ℤ}
    (may : ∀ header ∈ chain.history id, header.MayShift δ) :
    (chain.shift δ).report window params id = chain.report window params id ∧
      (chain.shift δ).required params id = chain.required params id := by
  rw [report, report, required, required]
  rcases history_shift_cases chain id may with ⟨none, noneMoved⟩ | ⟨tip, older, own, moved, alike⟩
  · rw [none, noneMoved]
    exact ⟨rfl, rfl⟩
  · rw [own, moved]
    exact ⟨gravityWell_congr rfl fun k _ => alike k, requiredBits_congr rfl fun k _ => alike k⟩

end ChainIndex

open ChainIndex in
/-- **Retargeting reads nothing but the bounded window of its own branch.**  Nodes of any two indices
with the same window have the same report and, at the deployed reach, the same required bits; no
later call changes either for a node that is there, and moving all times by one constant changes
neither. -/
theorem retarget_reads_own_window :
    (∀ (chain₁ chain₂ : ChainIndex) (id₁ id₂ : NodeId) (window : Window) (params₁ params₂ : Params),
      chain₁.Reachable → chain₂.Reachable → params₁.limit = params₂.limit → 0 < window.atMost →
      SameWindow window.atMost chain₁ id₁ chain₂ id₂ →
      chain₁.report window params₁ id₁ = chain₂.report window params₂ id₂) ∧
    (∀ (chain₁ chain₂ : ChainIndex) (id₁ id₂ : NodeId) (params₁ params₂ : Params),
      chain₁.Reachable → chain₂.Reachable → params₁.limit = params₂.limit →
      SameWindow 4032 chain₁ id₁ chain₂ id₂ →
      chain₁.required params₁ id₁ = chain₂.required params₂ id₂) ∧
    (∀ (chain : ChainIndex) (calls : List Growth) (id : NodeId) (window : Window)
      (params : Params), chain.Reachable → id < chain.size →
      (chain.growAll calls).report window params id = chain.report window params id ∧
      (chain.growAll calls).required params id = chain.required params id) ∧
    ∀ (calls : List Growth) (δ : ℤ) (id : NodeId) (window : Window) (params : Params),
      (∀ header ∈ (empty.growAll calls).history id, header.MayShift δ) →
      (empty.growAll (calls.map (Growth.shift δ))).report window params id =
        (empty.growAll calls).report window params id ∧
      (empty.growAll (calls.map (Growth.shift δ))).required params id =
        (empty.growAll calls).required params id := by
  refine ⟨?_, ?_, ?_, ?_⟩
  · intro chain₁ chain₂ id₁ id₂ window params₁ params₂ reached₁ reached₂ limit bounded same
    exact same.report_eq reached₁.linked reached₂.linked limit bounded
  · intro chain₁ chain₂ id₁ id₂ params₁ params₂ reached₁ reached₂ limit same
    exact same.required_eq reached₁.linked reached₂.linked limit
  · intro chain calls id window params reached present
    exact report_growAll reached.linked calls present window params
  · intro calls δ id window params may
    have moved : empty.growAll (calls.map (Growth.shift δ)) = (empty.growAll calls).shift δ := by
      rw [← growAll_shift, shift_empty]
    rw [moved]
    exact report_shift _ window params id may

end ProofOfWork
