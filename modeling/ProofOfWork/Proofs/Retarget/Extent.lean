import ProofOfWork.Proofs.Chain.Invariant
import ProofOfWork.Proofs.Retarget.Locality

/-!
# Proofs/Retarget/Extent — how far a walk goes

    id ──sample──▸ parent ──sample──▸ ⋯        n samples, 1 ≤ n ≤ h − max r 1 + 1

As a loop a walk follows the links of an index and has no bound of its own: a window need not set
one.  `ChainIndex.Walks` is that loop, one constructor for each way a round can go, so a derivation
of it is a run that has come to an end.  In an index that calls have built there is exactly one, and
it samples the front of the path (`WellFormed.walkEnds`), since ids fall along the links.  How many
nodes it samples is read off the heights, which fall by one along each link, from `h` at the node to
`r` at the root (`FallsTo.extent`).
-/

namespace ProofOfWork

/-! ## One branch whose heights fall by one -/

section Branch

variable {window : Window} {tip : Header} {older : List Header} {floor n : ℕ}

theorem tooShort_cons_iff :
    TooShort window (tip :: older) ↔ tip.height = 0 ∨ tip.height < window.atLeast := by
  simp [TooShort]

/-- **A branch whose heights fall by one**, from its tip to its last block at a floor. -/
structure FallsTo (floor : ℕ) (tip : Header) (older : List Header) : Prop where
  height : ∀ (k : ℕ) (block : Header), (tip :: older)[k]? = some block →
    tip.height = block.height + k
  length : (tip :: older).length + floor = tip.height + 1

/-- **The branch ends every walk by the time it is used up**, and one block earlier where its last
block is the genesis block. -/
theorem FallsTo.endsAt (falls : FallsTo floor tip older) :
    EndsAt window tip older (tip.height + 1 - max floor 1) := by
  have length := falls.length
  have started : 0 < (tip :: older).length := Nat.succ_pos _
  rcases Nat.eq_zero_or_pos floor with ground | above
  · -- the block after as many samples as the height of the tip is the genesis block
    obtain ⟨last, stands⟩ : ∃ last, (tip :: older)[tip.height]? = some last :=
      ⟨_, List.getElem?_eq_getElem (by omega)⟩
    have height := falls.height _ _ stands
    have index : tip.height + 1 - max floor 1 = tip.height := by omega
    rw [index]
    exact Or.inr (Or.inr (Or.inl ⟨last, stands, by omega⟩))
  · exact Or.inr (Or.inl (by omega))

/-- **How many samples a walk takes**, over heights alone. -/
structure Extent (window : Window) (height floor samples : ℕ) : Prop where
  /-- The tip is sampled. -/
  started : 1 ≤ samples
  /-- Nothing below the floor is sampled, nor the genesis block. -/
  inside : samples + max floor 1 ≤ height + 1
  /-- A bound of the window is kept. -/
  bounded : 0 < window.atMost → samples ≤ window.atMost
  /-- Where the branch reaches the ground, only the bound of the window cuts the walk short. -/
  enough : floor ≤ 1 →
    window.atLeast ≤ samples ∨ (0 < window.atMost ∧ samples = window.atMost)

/-- **The least count that ends a walk has this extent.** -/
theorem FallsTo.extent (falls : FallsTo floor tip older) (long : ¬ TooShort window (tip :: older))
    (least : IsLeast {n | 1 ≤ n ∧ EndsAt window tip older n} n) :
    Extent window tip.height floor n := by
  rw [tooShort_cons_iff, not_or, Nat.not_lt] at long
  obtain ⟨high, reaches⟩ := long
  have length := falls.length
  have above : 1 ≤ tip.height + 1 - max floor 1 := by
    rw [List.length_cons] at length
    omega
  have ends := least.2 ⟨above, falls.endsAt⟩
  refine ⟨least.1.1, by omega,
    fun bounded => least.2 ⟨bounded, Or.inr (Or.inr (Or.inr ⟨bounded, rfl⟩))⟩, fun ground => ?_⟩
  rcases least.1.2 with leaves | used | ⟨genesis, stands, low⟩ | full
  · exact Or.inl leaves.1
  · exact Or.inl (by omega)
  · have height := falls.height _ _ stands
    exact Or.inl (by omega)
  · exact Or.inr full

end Branch

/-! ## The loop along the links -/

theorem exists_sample (window : Window) (tip : Header) (gathered : Gathered) (next : Header) :
    ∃ more, sample window tip gathered next = .ok more := by
  have moved : ∃ mean, nextMean gathered next.target = .ok mean := by
    rw [nextMean]
    split
    · exact ⟨_, rfl⟩
    · obtain ⟨mean, moved, -⟩ := meanStep_eq_ok gathered.mean next.target (Nat.succ_pos _)
      exact ⟨mean, moved⟩
  obtain ⟨mean, moved⟩ := moved
  rw [sample, moved]
  exact ⟨_, rfl⟩

/-- The report on a walk counts its samples. -/
theorem samples_of_report {gathered : Gathered} {limit : Target} {report : Report}
    (reported : gathered.report limit = .ok report) : report.samples = gathered.samples := by
  obtain ⟨scaled, scaling, -⟩ := scaled_eq_ok gathered
  rw [Gathered.report, scaling] at reported
  obtain rfl := Except.ok.inj reported
  rfl

namespace ChainIndex

/-- **A walk that has come to an end**, as a loop that follows the links of an index: from a cursor
and what has been gathered there, over the nodes it samples, to what it has gathered in the end.  An
id that the index does not know has no walk. -/
inductive Walks (chain : ChainIndex) (window : Window) (tip : Header) :
    Option NodeId → Gathered → List NodeId → Gathered → Prop
  /-- The last block had no predecessor. -/
  | past (gathered : Gathered) : Walks chain window tip none gathered [] gathered
  /-- The block is not sampled: it is the genesis block, or the window is full. -/
  | stops {id : NodeId} {block : Header} {gathered : Gathered}
      (present : chain.header? id = some block)
      (stopped : stopsAt window gathered block = true) :
      Walks chain window tip (some id) gathered [] gathered
  /-- With this sample the walk leaves the horizon. -/
  | leaves {id : NodeId} {block : Header} {gathered more : Gathered}
      (present : chain.header? id = some block)
      (going : ¬ stopsAt window gathered block = true)
      (sampled : sample window tip gathered block = .ok more)
      (early : more.earlyExit = true) :
      Walks chain window tip (some id) gathered [id] more
  /-- The walk samples the block and goes on to its predecessor. -/
  | goesOn {id : NodeId} {block : Header} {gathered more final : Gathered} {ids : List NodeId}
      (present : chain.header? id = some block)
      (going : ¬ stopsAt window gathered block = true)
      (sampled : sample window tip gathered block = .ok more)
      (late : ¬ more.earlyExit = true)
      (onwards : Walks chain window tip (chain.parent? id) more ids final) :
      Walks chain window tip (some id) gathered (id :: ids) final

/-- **The loop has one course**: whichever way a round goes, its conditions rule out the others. -/
theorem Walks.unique {chain : ChainIndex} {window : Window} {tip : Header} {cursor : Option NodeId}
    {gathered final₁ final₂ : Gathered} {ids₁ ids₂ : List NodeId}
    (first : chain.Walks window tip cursor gathered ids₁ final₁)
    (second : chain.Walks window tip cursor gathered ids₂ final₂) :
    ids₁ = ids₂ ∧ final₁ = final₂ := by
  induction first generalizing ids₂ final₂ with
  | past =>
    cases second
    exact ⟨rfl, rfl⟩
  | stops present stopped =>
    cases second with
    | stops => exact ⟨rfl, rfl⟩
    | leaves found going | goesOn found going =>
      obtain rfl := Option.some.inj (present.symm.trans found)
      exact absurd stopped going
  | leaves present going sampled early =>
    cases second with
    | stops found stopped =>
      obtain rfl := Option.some.inj (present.symm.trans found)
      exact absurd stopped going
    | leaves found _ same =>
      obtain rfl := Option.some.inj (present.symm.trans found)
      exact ⟨rfl, Except.ok.inj (sampled.symm.trans same)⟩
    | goesOn found _ same late =>
      obtain rfl := Option.some.inj (present.symm.trans found)
      obtain rfl := Except.ok.inj (sampled.symm.trans same)
      exact absurd early late
  | goesOn present going sampled late _ ih =>
    cases second with
    | stops found stopped =>
      obtain rfl := Option.some.inj (present.symm.trans found)
      exact absurd stopped going
    | leaves found _ same early =>
      obtain rfl := Option.some.inj (present.symm.trans found)
      obtain rfl := Except.ok.inj (sampled.symm.trans same)
      exact absurd early late
    | goesOn found _ same _ onwards =>
      obtain rfl := Option.some.inj (present.symm.trans found)
      obtain rfl := Except.ok.inj (sampled.symm.trans same)
      obtain ⟨rfl, rfl⟩ := ih onwards
      exact ⟨rfl, rfl⟩

/-- **The loop along the links comes to an end** from a cursor: with the outcome of the walk over
the branch from there, after sampling the front of its path. -/
def WalkEnds (chain : ChainIndex) (window : Window) (tip : Header) (cursor : Option NodeId)
    (gathered : Gathered) (branch : List Header) (path : List NodeId) : Prop :=
  ∃ ids final, chain.Walks window tip cursor gathered ids final ∧
    walk window tip gathered branch = .ok final ∧ ids <+: path ∧
    final.samples = gathered.samples + ids.length

variable {chain : ChainIndex} {window : Window} {tip : Header} {id : NodeId} {node : Node}

/-- **One round**: where the loop comes to an end from the predecessor, it does so from the node. -/
theorem walkEnds_cons {block : Header} {branch : List Header} {path : List NodeId}
    (present : chain.header? id = some block)
    (below : ∀ more, chain.WalkEnds window tip (chain.parent? id) more branch path)
    (gathered : Gathered) :
    chain.WalkEnds window tip (some id) gathered (block :: branch) (id :: path) := by
  obtain ⟨more, sampled⟩ := exists_sample window tip gathered block
  have count := (of_sample_eq_ok sampled).2
  rw [WalkEnds, walk, sampled]
  split
  · rename_i stopped
    exact ⟨[], gathered, .stops present stopped, rfl, List.nil_prefix, rfl⟩
  · rename_i going
    dsimp only
    split
    · rename_i early
      exact ⟨[id], more, .leaves present going sampled early, rfl, ⟨path, rfl⟩, count⟩
    · rename_i late
      obtain ⟨ids, final, onwards, walked, front, further⟩ := below more
      refine ⟨id :: ids, final, .goesOn present going sampled late onwards, walked,
        List.cons_prefix_cons.2 ⟨rfl, front⟩, ?_⟩
      rw [List.length_cons, further, count]
      omega

/-- **Every walk along the links comes to an end**; the induction is on the id, which falls along
each of them. -/
theorem WellFormed.walkEnds (formed : chain.WellFormed) (stands : chain.nodes[id]? = some node)
    (gathered : Gathered) :
    chain.WalkEnds window tip (some id) gathered (chain.history id) (chain.path id) := by
  induction id using Nat.strongRecOn generalizing node gathered with
  | _ id ih =>
    have present := header?_of_getElem? stands
    have link : chain.parent? id = node.parent := by rw [parent?, stands, Option.bind_some]
    cases on : node.parent with
    | none =>
      rw [history_of_root stands on, path_of_root stands on]
      refine walkEnds_cons present (fun more => ?_) gathered
      rw [link, on]
      exact ⟨[], more, .past more, rfl, List.nil_prefix, rfl⟩
    | some parent =>
      obtain ⟨base, standsBase, -⟩ := formed.exists_parent stands on
      have older := formed.linked id node stands parent on
      rw [history_of_child formed.linked stands on, path_of_child formed.linked stands on]
      refine walkEnds_cons present (fun more => ?_) gathered
      rw [link, on]
      exact ih parent older standsBase more

/-! ## Heights and lengths along a path -/

theorem WellFormed.height_history (formed : chain.WellFormed)
    (stands : chain.nodes[id]? = some node) {k : ℕ} {block : Header}
    (reached : (chain.history id)[k]? = some block) : node.header.height = block.height + k := by
  rw [getElem?_history formed.linked] at reached
  obtain ⟨ancestor, links, present⟩ := Option.bind_eq_some_iff.1 reached
  obtain ⟨base, standsBase, height⟩ := formed.height_ancestor? stands links
  obtain rfl := Option.some.inj ((header?_of_getElem? standsBase).symm.trans present)
  exact height

/-- Every id of a path has its header in the history. -/
theorem WellFormed.length_history (formed : chain.WellFormed)
    (stands : chain.nodes[id]? = some node) :
    (chain.history id).length = (chain.path id).length := by
  refine List.filterMap_length_eq_length.2 fun ancestor on => ?_
  obtain ⟨k, listed⟩ := List.mem_iff_getElem?.1 on
  rw [formed.getElem?_path stands] at listed
  obtain ⟨base, standsBase, -⟩ := formed.height_ancestor? stands listed
  exact Option.isSome_of_eq_some (header?_of_getElem? standsBase)

/-- A path holds no more ids than there are up to its own. -/
theorem WellFormed.length_path_le (formed : chain.WellFormed)
    (stands : chain.nodes[id]? = some node) : (chain.path id).length ≤ id + 1 := by
  induction id using Nat.strongRecOn generalizing node with
  | _ id ih =>
    cases on : node.parent with
    | none =>
      rw [path_of_root stands on, List.length_singleton]
      omega
    | some parent =>
      obtain ⟨base, standsBase, -⟩ := formed.exists_parent stands on
      have older := formed.linked id node stands parent on
      have shorter := ih parent older standsBase
      rw [path_of_child formed.linked stands on, List.length_cons]
      exact Nat.succ_le_succ (Nat.le_trans shorter older)

/-- **The history of a node falls to the height of its root.** -/
theorem Descends.fallsTo (formed : chain.WellFormed) (stands : chain.nodes[id]? = some node)
    {root : NodeId} {base : Node} (descends : chain.Descends id node root base)
    {older : List Header} (history : chain.history id = node.header :: older) :
    FallsTo base.header.height node.header older := by
  have length := formed.length_history stands
  have below := descends.below
  rw [descends.length, history] at length
  refine ⟨fun k block reached => formed.height_history stands (history ▸ reached), by omega⟩

/-- **What a report on a walked node says**, with the ids that were sampled and the height of the
root below them. -/
structure Surveys (chain : ChainIndex) (window : Window) (id : NodeId) (node : Node) (floor : ℕ)
    (ids : List NodeId) (report : Report) : Prop where
  /-- The number of samples keeps to the heights and to the window. -/
  extent : Extent window node.header.height floor report.samples
  /-- The samples are the front of the path. -/
  front : ids = (chain.path id).take report.samples
  /-- Each id is one sample. -/
  count : ids.length = report.samples
  /-- There are no more samples than nodes. -/
  counted : report.samples ≤ chain.size
  /-- The genesis block is not sampled. -/
  noGenesis : ∀ sampled ∈ ids, ∃ block, chain.header? sampled = some block ∧ block.height ≠ 0
  /-- The observed duration is that from the last sample to the tip, held to its range. -/
  observed : ∃ last, chain.ancestorHeader? id (report.samples - 1) = some last ∧
    report.observed.toInt = exactLag node.header last
  /-- The designed duration is that of so many blocks, held to its range. -/
  designed : report.designed.toInt = exactSpan window report.samples

section Survey

variable (formed : chain.WellFormed) (stands : chain.nodes[id]? = some node)

include formed stands

/-- A sample that stands above the floor of its path is not the genesis block. -/
theorem height_ne_zero_of_extent {floor samples k : ℕ}
    (extent : Extent window node.header.height floor samples) (inside : k < samples)
    {sampled : NodeId} (listed : (chain.path id)[k]? = some sampled) :
    ∃ block, chain.header? sampled = some block ∧ block.height ≠ 0 := by
  rw [formed.getElem?_path stands] at listed
  obtain ⟨base, standsBase, height⟩ := formed.height_ancestor? stands listed
  have least := extent.inside
  exact ⟨base.header, header?_of_getElem? standsBase, by omega⟩

/-- **The declared report of a branch says all this of its walk.** -/
theorem surveys_of_answers {root : NodeId} {base : Node} {older : List Header} {limit : Target}
    {report : Report} {ids : List NodeId} (descends : chain.Descends id node root base)
    (history : chain.history id = node.header :: older)
    (long : ¬ TooShort window (node.header :: older))
    (answers : Answers window node.header older limit report) (front : ids <+: chain.path id)
    (count : ids.length = report.samples) :
    chain.Surveys window id node base.header.height ids report := by
  have extent := (descends.fallsTo formed stands history).extent long answers.samples
  have started := extent.started
  have within := front.length_le
  have listed := formed.length_path_le stands
  have present := lt_size_of_header? (header?_of_getElem? stands)
  have length := formed.length_history stands
  obtain ⟨last, reached⟩ : ∃ last, (node.header :: older)[report.samples - 1]? = some last := by
    rw [← history]
    exact ⟨_, List.getElem?_eq_getElem (by omega)⟩
  refine
    { extent := extent
      front := count ▸ List.prefix_iff_eq_take.1 front
      count := count
      counted := by rw [← count]; exact within.trans (listed.trans present)
      noGenesis := fun sampled on => ?_
      observed := ⟨last, ?_, ?_⟩
      designed := answers.designed }
  · obtain ⟨k, found⟩ := List.mem_iff_getElem?.1 on
    have inside := (List.getElem?_eq_some_iff.1 found).1
    obtain ⟨rest, path⟩ := front
    rw [← List.getElem?_append_left inside, path] at found
    exact height_ne_zero_of_extent formed stands extent (count ▸ inside) found
  · rw [← getElem?_history formed.linked, history, reached]
  · have block := nthBlock_succ reached
    rw [Nat.sub_add_cancel started] at block
    rw [answers.observed, block]

end Survey

end ChainIndex

open ChainIndex in
/-- **Every walk ends, without a fault, after the number of samples it promises.**  Whatever the
window and the parameters, a node of an index that calls have built has a report.  It is a bootstrap
exactly where the node is the genesis block or lies below the least number of samples; every other
report is that of a walk along the links, which has one course and comes to an end. -/
theorem walk_extent {chain : ChainIndex} (reached : chain.Reachable) {id : NodeId} {node : Node}
    (stands : chain.nodes[id]? = some node) (window : Window) (params : Params) :
    ∃ report, chain.report window params id = .ok report ∧
      (report.bootstrap = true ↔
        node.header.height = 0 ∨ node.header.height < window.atLeast) ∧
      (report.bootstrap = false → ∃ root base ids gathered, chain.Descends id node root base ∧
        chain.Walks window node.header (some id) (Gathered.start node.header) ids gathered ∧
        (∀ ids' other, chain.Walks window node.header (some id) (Gathered.start node.header) ids'
          other → ids' = ids ∧ other = gathered) ∧
        gathered.report params.limit = .ok report ∧
        chain.Surveys window id node base.header.height ids report) := by
  have formed := reached.wellFormed
  obtain ⟨older, history⟩ := history_eq_cons formed.linked (header?_of_getElem? stands)
  rw [ChainIndex.report, history]
  by_cases short : TooShort window (node.header :: older)
  · refine ⟨_, gravityWell_of_tooShort params short, ?_, fun walked => ?_⟩
    · exact iff_of_true rfl (tooShort_cons_iff.1 short)
    · cases walked
  · obtain ⟨report, reported, answers⟩ := gravityWell_of_not_tooShort params short
    have walks := not_tooShort_cons short
    obtain ⟨root, base, descends⟩ := formed.exists_descends stands
    obtain ⟨ids, gathered, run, walked, front, count⟩ :=
      formed.walkEnds stands (Gathered.start node.header)
    have finished : gathered.report params.limit = .ok report := by
      rw [history] at walked
      rw [gravityWell, if_neg walks, walked] at reported
      exact reported
    have samples : ids.length = report.samples := by
      rw [samples_of_report finished, count, Gathered.start, Nat.zero_add]
    exact ⟨report, reported, iff_of_false (by simp [answers.bootstrap]) walks, fun _ =>
      ⟨root, base, ids, gathered, descends, run, fun _ _ again => again.unique run, finished,
        surveys_of_answers formed stands descends history short answers front samples⟩⟩

open ChainIndex in
/-- Without a bound, under parameters that are not sound and a negative spacing, a walk over the
fork samples its tip and the block below, and not the genesis block. -/
theorem forked_samples_two :
    forked.Reachable ∧ forked.nodes[4]? = some ⟨⟨2, 20, ⟨6⟩⟩, some 2⟩ ∧
    ∃ report,
      forked.report ⟨Int64.minValue, 2, 0⟩ ⟨Target.zero, -1, 0, false, true⟩ 4 = .ok report ∧
      report.bootstrap = false ∧ report.samples = 2 := by
  have reached : forked.Reachable := ⟨_, rfl⟩
  have stands : forked.nodes[4]? = some ⟨⟨2, 20, ⟨6⟩⟩, some 2⟩ := by decide
  have roots : ∀ node ∈ forked.nodes, node.parent = none → node.header.height ≤ 1 := by decide
  obtain ⟨report, reported, bootstrap, walked⟩ := walk_extent reached stands
    ⟨Int64.minValue, 2, 0⟩ ⟨Target.zero, -1, 0, false, true⟩
  have long : report.bootstrap = false := by
    rw [Bool.eq_false_iff, Ne, bootstrap]
    decide
  obtain ⟨root, base, ids, gathered, descends, -, -, -, surveys⟩ := walked long
  have ground := roots base (Array.mem_of_getElem? descends.stands) descends.parentless
  have inside : report.samples + max base.header.height 1 ≤ 2 + 1 := surveys.extent.inside
  have enough : 2 ≤ report.samples ∨ (0 < 0 ∧ _) := surveys.extent.enough ground
  exact ⟨reached, stands, report, reported, long, by omega⟩

end ProofOfWork
