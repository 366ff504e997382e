import Mathlib.Data.List.Chain
import ProofOfWork.Proofs.Chain.Invariant

/-!
# Proofs/Chain/Branch — an index of one branch

    root, h₁, …, hₙ  ──one above the other──▸ index  ──history of the tip──▸ hₙ, …, h₁, root

Headers make an index exactly when their heights are consecutive, and the index then holds what was
put in: it is the one that a root and nodes on the tip build (`stacked`), and the history of its tip
is the headers read backwards.  The invariant is that the node placed last is the tip
(`Placed.EndsIn`); each further header becomes its child, one above it, so it overtakes it.  Other headers are refused at their
first gap, whatever comes behind it (`ofHeaders_linear`).
-/

namespace ProofOfWork

/-- **Heights that rise by one from each to the next.** -/
def Consecutive (heights : List ℕ) : Prop := heights.IsChain fun lower upper => upper = lower + 1

instance (heights : List ℕ) : Decidable (Consecutive heights) :=
  inferInstanceAs (Decidable (List.IsChain _ heights))

theorem consecutive_cons_cons {lower upper : ℕ} {heights : List ℕ} :
    Consecutive (lower :: upper :: heights) ↔
      upper = lower + 1 ∧ Consecutive (upper :: heights) := List.isChain_cons_cons

/-- **The first place where heights do not rise by one**: they do so up to one height, and behind it
`found` stands where `expected` was due.  Nothing is said of what follows. -/
def FirstGap (heights : List ℕ) (expected found : ℕ) : Prop :=
  ∃ before below behind, heights = before ++ below :: found :: behind ∧
    Consecutive (before ++ [below]) ∧ expected = below + 1 ∧ found ≠ expected

section Gaps

variable {lower upper expected found : ℕ} {heights : List ℕ}

theorem FirstGap.ne_nil (gap : FirstGap heights expected found) : heights ≠ [] := by
  obtain ⟨before, below, behind, rfl, -⟩ := gap
  simp

theorem not_firstGap_singleton : ¬ FirstGap [lower] expected found := by
  rintro ⟨before, below, behind, shape, -⟩
  have := congrArg List.length shape
  simp only [List.length_append, List.length_cons, List.length_nil] at this
  omega

/-- **The first gap is behind the first height, or else it is the first gap of the rest.** -/
theorem firstGap_cons_cons_iff :
    FirstGap (lower :: upper :: heights) expected found ↔
      (upper ≠ lower + 1 ∧ expected = lower + 1 ∧ found = upper) ∨
        (upper = lower + 1 ∧ FirstGap (upper :: heights) expected found) := by
  constructor
  · rintro ⟨before, below, behind, shape, rises, rfl, gap⟩
    match before with
    | [] =>
      obtain ⟨rfl, rfl, rfl⟩ : lower = below ∧ upper = found ∧ heights = behind := by
        simpa using shape
      exact Or.inl ⟨gap, rfl, rfl⟩
    | [first] =>
      obtain ⟨rfl, rfl, rfl⟩ : lower = first ∧ upper = below ∧ heights = found :: behind := by
        simpa using shape
      exact Or.inr ⟨(consecutive_cons_cons.1 rises).1,
        [], upper, behind, rfl, List.IsChain.singleton _, rfl, gap⟩
    | first :: second :: before =>
      obtain ⟨rfl, rfl, rfl⟩ :
          lower = first ∧ upper = second ∧ heights = before ++ below :: found :: behind := by
        simpa using shape
      obtain ⟨step, rises⟩ := consecutive_cons_cons.1 rises
      exact Or.inr ⟨step, upper :: before, below, behind, rfl, rises, rfl, gap⟩
  · rintro (⟨gap, rfl, rfl⟩ | ⟨rises, before, below, behind, shape, rest, rfl, gap⟩)
    · exact ⟨[], lower, heights, rfl, List.IsChain.singleton _, rfl, gap⟩
    · refine ⟨lower :: before, below, behind, by rw [shape]; rfl, ?_, rfl, gap⟩
      cases before with
      | nil =>
        obtain rfl : upper = below := (List.cons.inj shape).1
        exact consecutive_cons_cons.2 ⟨rises, rest⟩
      | cons first before =>
        obtain rfl : upper = first := (List.cons.inj shape).1
        exact consecutive_cons_cons.2 ⟨rises, rest⟩

/-- **Heights rise by one throughout, or there is a first gap.** -/
theorem consecutive_or_firstGap (heights : List ℕ) :
    Consecutive heights ∨ ∃ expected found, FirstGap heights expected found := by
  induction heights with
  | nil => exact Or.inl List.IsChain.nil
  | cons lower heights ih =>
    cases heights with
    | nil => exact Or.inl (List.IsChain.singleton _)
    | cons upper heights =>
      by_cases step : upper = lower + 1
      · rcases ih with rises | ⟨expected, found, gap⟩
        · exact Or.inl (consecutive_cons_cons.2 ⟨step, rises⟩)
        · exact Or.inr ⟨expected, found, firstGap_cons_cons_iff.2 (Or.inr ⟨step, gap⟩)⟩
      · exact Or.inr ⟨_, _, firstGap_cons_cons_iff.2 (Or.inl ⟨step, rfl, rfl⟩)⟩

end Gaps

/-- The call that puts a header on the tip, without its height. -/
def Header.onTip (header : Header) : Growth := .append header.time header.bits

namespace ChainIndex

/-- **A branch stacked up call by call**: a root, and every later header on top of the tip. -/
def stacked : List Header → ChainIndex
  | [] => empty
  | root :: rest => (empty.insertRoot root).chain.growAll (rest.map Header.onTip)

/-- Stacking up a branch is a sequence of calls. -/
theorem stacked_reachable (branch : List Header) : (stacked branch).Reachable := by
  cases branch with
  | nil => exact ⟨[], rfl⟩
  | cons root rest => exact ⟨.root root :: rest.map Header.onTip, rfl⟩

/-- **An index whose last node is its tip and ends a branch**, given from its root up. -/
structure Placed.EndsIn (last : Placed) (branch : List Header) : Prop where
  formed : last.chain.WellFormed
  tip : last.chain.tip = some last.id
  /-- The tip is the youngest node. -/
  youngest : last.id + 1 = last.chain.size
  /-- There are no nodes beside the branch. -/
  size : last.chain.size = branch.length
  history : last.chain.history last.id = branch.reverse

namespace Placed

variable {last : Placed} {branch : List Header} {below next : Header}

/-- The branch of a single root. -/
theorem endsIn_insertRoot (root : Header) : (empty.insertRoot root).EndsIn [root] where
  formed := wellFormed_empty.push (Places.root root).fits
  tip := rfl
  youngest := rfl
  size := rfl
  history := by
    have stands : (empty.insertRoot root).chain.nodes[0]? = some ⟨root, none⟩ := rfl
    exact history_of_root stands rfl

theorem EndsIn.tipHistory (ends : last.EndsIn branch) :
    last.chain.tipHistory = branch.reverse := by
  rw [ChainIndex.tipHistory, ends.tip, ← ends.history]
  rfl

theorem EndsIn.header?_last (ends : last.EndsIn (branch ++ [below])) :
    last.chain.header? last.id = some below := by
  rw [← head?_history ends.formed.linked, ends.history, List.reverse_append]
  rfl

/-- **A header one above the tip carries the branch on.** -/
theorem EndsIn.place (ends : last.EndsIn (branch ++ [below]))
    (rises : next.height = below.height + 1) :
    (last.chain.place ⟨next, some last.id⟩).EndsIn (branch ++ [below] ++ [next]) := by
  have present := ends.header?_last
  have fits : last.chain.Fits ⟨next, some last.id⟩ := by
    rintro _ ⟨⟩
    exact ⟨below, present, rises⟩
  have higher : last.chain.overtakes next.height = true := by
    rw [overtakes, tipHeader?_eq_some_iff.2 ⟨ends.tip, present⟩, Option.all_some,
      decide_eq_true_iff, rises]
    exact Nat.lt_succ_self _
  have stands : (last.chain.push ⟨next, some last.id⟩).nodes[last.chain.size]? =
      some ⟨next, some last.id⟩ := by
    rw [getElem?_nodes_push, if_pos rfl]
  refine ⟨ends.formed.push fits, tip_push_of_overtakes higher, (size_push ..).symm, ?_, ?_⟩
  · simp only [ChainIndex.place, size_push, ends.size, List.length_append, List.length_singleton]
  · rw [ChainIndex.place, history_of_child (ends.formed.push fits).linked stands rfl,
      history_push ends.formed.linked fits (lt_size_of_header? present), ends.history]
    exact List.reverse_concat.symm

/-- A header one above the tip is the one that a call on the tip makes. -/
theorem EndsIn.grow_onTip (ends : last.EndsIn (branch ++ [below]))
    (rises : next.height = below.height + 1) :
    last.chain.grow next.onTip = (last.chain.place ⟨next, some last.id⟩).chain := by
  have top := tipHeader?_eq_some_iff.2 ⟨ends.tip, ends.header?_last⟩
  rw [Header.onTip, (Places.onTip next.time next.bits top).grow_eq, ← rises]
  rfl

/-- The next header becomes a child of the tip, or it does not stand one above it. -/
theorem EndsIn.extend_cons (ends : last.EndsIn (branch ++ [below])) (rest : List Header) :
    last.extend (next :: rest) =
      if next.height = below.height + 1 then
        (last.chain.place ⟨next, some last.id⟩).extend rest
      else .error (.heightGap (below.height + 1) next.height) := by
  have found : last.chain.header last.id = .ok below := by rw [header, ends.header?_last]
  rw [extend, insertChild, found]
  dsimp only [Except.map]
  refine ite_congr rfl (fun rises => ?_) fun _ => rfl
  rw [← rises]

/-- **Headers without a gap carry a branch on** as calls on the tip do; the induction is on what is
still to come. -/
theorem EndsIn.extend_of_consecutive (ends : last.EndsIn (branch ++ [below]))
    {rest : List Header} (rises : Consecutive (below.height :: rest.map Header.height)) :
    ∃ final, last.extend rest = .ok (last.chain.growAll (rest.map Header.onTip)) ∧
      Placed.EndsIn ⟨final, last.chain.growAll (rest.map Header.onTip)⟩
        (branch ++ [below] ++ rest) := by
  induction rest generalizing last branch below with
  | nil => exact ⟨last.id, rfl, by rwa [List.append_nil]⟩
  | cons next rest ih =>
    obtain ⟨step, rises⟩ := consecutive_cons_cons.1 rises
    have grown : last.chain.growAll ((next :: rest).map Header.onTip) =
        (last.chain.place ⟨next, some last.id⟩).chain.growAll (rest.map Header.onTip) :=
      congrArg (growAll · _) (ends.grow_onTip step)
    rw [ends.extend_cons, if_pos step, grown, List.append_cons]
    exact ih (ends.place step) rises

/-- **Headers with a gap are refused at the first one**, whatever comes behind it. -/
theorem EndsIn.extend_of_firstGap (ends : last.EndsIn (branch ++ [below]))
    {rest : List Header} {expected found : ℕ}
    (gap : FirstGap (below.height :: rest.map Header.height) expected found) :
    last.extend rest = .error (.heightGap expected found) := by
  induction rest generalizing last branch below with
  | nil => exact absurd gap not_firstGap_singleton
  | cons next rest ih =>
    rw [ends.extend_cons]
    rcases firstGap_cons_cons_iff.1 gap with ⟨differs, rfl, rfl⟩ | ⟨step, gap⟩
    · rw [if_neg differs]
    · rw [if_pos step]
      exact ih (ends.place step) gap

end Placed

variable {branch : List Header}

/-- **What an index keeps of the branch it was made from**: one node for each header, the last one at
the tip, and behind it, link by link, all the others. -/
structure Keeps (chain : ChainIndex) (branch : List Header) : Prop where
  size : chain.size = branch.length
  tip : ∀ tip ∈ chain.tip, tip + 1 = chain.size
  tipHeader : chain.tipHeader?.map Prod.snd = branch.getLast?
  links : ∀ tip ∈ chain.tip, ∀ k, chain.ancestorHeader? tip k = branch.reverse[k]?
  history : chain.tipHistory.reverse = branch

theorem keeps_empty : empty.Keeps [] where
  size := rfl
  tip := by rintro _ ⟨⟩
  tipHeader := rfl
  links := by rintro _ ⟨⟩
  history := rfl

theorem Placed.EndsIn.keeps {last : Placed} (ends : last.EndsIn branch) :
    last.chain.Keeps branch where
  size := ends.size
  tip tip top := by
    obtain rfl := Option.some.inj (ends.tip.symm.trans top)
    exact ends.youngest
  tipHeader := by
    rw [tipHeader?, ends.tip, Option.bind_some, ← head?_history ends.formed.linked, ends.history,
      List.head?_reverse, Option.map_map]
    exact Option.map_id'
  links tip top k := by
    obtain rfl := Option.some.inj (ends.tip.symm.trans top)
    rw [← getElem?_history ends.formed.linked, ends.history]
  history := by rw [ends.tipHistory, List.reverse_reverse]

section Headers

variable {headers : List Header}

/-- **Headers at consecutive heights make the index of their branch**, which keeps all of it. -/
theorem ofHeaders_of_consecutive (rises : Consecutive (headers.map Header.height)) :
    ofHeaders headers = .ok (stacked headers) ∧ (stacked headers).Keeps headers := by
  cases headers with
  | nil => exact ⟨rfl, keeps_empty⟩
  | cons root rest =>
    have start : (empty.insertRoot root).EndsIn ([] ++ [root]) := Placed.endsIn_insertRoot root
    obtain ⟨final, made, ends⟩ := start.extend_of_consecutive rises
    exact ⟨made, ends.keeps⟩

/-- **Headers with a gap are refused with the two heights at the first one.** -/
theorem ofHeaders_of_firstGap {expected found : ℕ}
    (gap : FirstGap (headers.map Header.height) expected found) :
    ofHeaders headers = .error (.heightGap expected found) := by
  cases headers with
  | nil => exact absurd rfl gap.ne_nil
  | cons root rest =>
    have start : (empty.insertRoot root).EndsIn ([] ++ [root]) := Placed.endsIn_insertRoot root
    exact start.extend_of_firstGap gap

end Headers

end ChainIndex

end ProofOfWork
