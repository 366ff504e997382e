import Mathlib.Data.Int.Order.Basic
import Mathlib.Order.Bounds.Basic
import ProofOfWork.Proofs.Retarget.RunningMean

/-!
# Proofs/Retarget/Walk — what the Gravity Well reports, without a loop

    x₁ (tip), x₂, …, x_L ──least n ≥ 1 that ends the walk──▸ samples, lag, span, mean ──▸ bits

The rule is a loop over a branch with four exits.  Its outcome is one line: the walk takes the least
number of samples at which one of four conditions holds (`EndsAt`), and every field of the report is
a closed expression in that number (`Answers`).  The envelope test `outsideHorizon` is floating
point; it stands in these statements as it is, a predicate of the count and the two durations.

`Holds` is the invariant of the loop, `sample_holds` the step and `walk_holds` the run.
-/

namespace ProofOfWork

/-! ## Durations over the integers -/

/-- **How long before the tip a block was made**: not below zero, and held at the longest duration
there is. -/
def exactLag (tip block : Header) : ℤ :=
  min (max (tip.time.toInt - block.time.toInt) 0) (2 ^ 63 - 1)

/-- **How long `n` blocks are meant to take**, held to the range of a duration. -/
def exactSpan (window : Window) (n : ℕ) : ℤ :=
  max (-2 ^ 63) (min (window.spacing.toInt * n) (2 ^ 63 - 1))

theorem toInt_lag (tip block : Header) : (lag tip block).toInt = exactLag tip block := by
  have since : (tip.time.since block.time).toInt =
      max (-2 ^ 63) (min (tip.time.toInt - block.time.toInt) (2 ^ 63 - 1)) :=
    Seconds.toInt_saturate _
  rw [lag, exactLag]
  split
  · rw [Int64.toInt_zero]
    omega
  · omega

theorem toInt_designedSpan (window : Window) (n : ℕ) :
    (designedSpan window n).toInt = exactSpan window n := Seconds.toInt_saturate _

/-! ## The declared outcome -/

/-- A history that the rule does not walk: it has no tip, or its tip is the genesis block or lies
below the least number of samples. -/
def TooShort (window : Window) (history : List Header) : Prop :=
  ∀ tip ∈ history.head?, tip.height = 0 ∨ tip.height < window.atLeast

/-- **A mean scaled by observed over designed seconds**, where both have passed, and held at the
largest target. -/
def scaledMean (mean : ℕ) (observed designed : ℤ) : ℕ :=
  if 0 < observed ∧ 0 < designed then min (mean * observed.toNat / designed.toNat) (2 ^ 256 - 1)
  else mean

section Branch

variable (window : Window) (tip : Header) (older : List Header)

/-- The `n`-th block of a branch; the tip is the first. -/
def nthBlock (n : ℕ) : Header := (tip :: older).getD (n - 1) tip

/-- The target that the `n`-th block claims. -/
def nthTarget (n : ℕ) : ℕ := (nthBlock tip older n).target.toNat

/-- **After `n` samples the walk may stop early**: they are enough, and the rate lies outside the
envelope. -/
def LeavesHorizon (n : ℕ) : Prop :=
  window.atLeast ≤ n ∧
    outsideHorizon n (Int64.ofInt (exactLag tip (nthBlock tip older n)))
      (Int64.ofInt (exactSpan window n)) = true

/-- **What ends a walk after `n` samples**: it leaves the horizon, the branch is used up, the next
block is the genesis block, or the window is full. -/
def EndsAt (n : ℕ) : Prop :=
  LeavesHorizon window tip older n ∨ n = (tip :: older).length ∨
    (∃ next, (tip :: older)[n]? = some next ∧ next.height = 0) ∨
    (0 < window.atMost ∧ n = window.atMost)

/-- **The report that a branch long enough calls for.** -/
structure Answers (limit : Target) (report : Report) : Prop where
  samples : IsLeast {n | 1 ≤ n ∧ EndsAt window tip older n} report.samples
  earlyExit : report.earlyExit = true ↔ LeavesHorizon window tip older report.samples
  observed : report.observed.toInt = exactLag tip (nthBlock tip older report.samples)
  designed : report.designed.toInt = exactSpan window report.samples
  ratio : report.ratio = rateRatio report.observed report.designed
  bits : ∃ target : Target, report.bits = target.encode ∧
    target.toNat = min limit.toNat
      (scaledMean (runningMean (nthTarget tip older) report.samples)
        (exactLag tip (nthBlock tip older report.samples)) (exactSpan window report.samples))
  bootstrap : report.bootstrap = false

/-! ## The loop -/

/-- **The invariant of the walk**: what it has gathered after `n` samples.  Before the first sample
only the count means anything. -/
structure Holds (n : ℕ) (gathered : Gathered) : Prop where
  samples : gathered.samples = n
  mean : n ≠ 0 → gathered.mean.toNat = runningMean (nthTarget tip older) n
  observed : n ≠ 0 → gathered.observed = lag tip (nthBlock tip older n)
  designed : n ≠ 0 → gathered.designed = designedSpan window n
  earlyExit : n ≠ 0 → (gathered.earlyExit = true ↔ LeavesHorizon window tip older n)

end Branch

variable {window : Window} {tip : Header} {older : List Header}

theorem holds_start : Holds window tip older 0 (Gathered.start tip) :=
  ⟨rfl, absurd rfl, absurd rfl, absurd rfl, absurd rfl⟩

theorem nthBlock_succ {n : ℕ} {next : Header} (stands : (tip :: older)[n]? = some next) :
    nthBlock tip older (n + 1) = next := by
  rw [nthBlock, Nat.add_sub_cancel, List.getD_eq_getElem?_getD, stands, Option.getD_some]

/-- The next mean is the running mean of one sample more. -/
theorem nextMean_holds {n : ℕ} {gathered : Gathered} {next : Header}
    (held : Holds window tip older n gathered) (stands : (tip :: older)[n]? = some next) :
    ∃ mean : Target, nextMean gathered next.target = .ok mean ∧
      mean.toNat = runningMean (nthTarget tip older) (n + 1) := by
  have target : nthTarget tip older (n + 1) = next.target.toNat := by
    rw [nthTarget, nthBlock_succ stands]
  rw [nextMean, held.samples]
  split
  · rename_i first
    subst first
    exact ⟨next.target, rfl, by rw [runningMean_one, target]⟩
  · rename_i later
    obtain ⟨mean, moved, value⟩ :=
      meanStep_eq_ok gathered.mean next.target (Nat.succ_pos n)
    exact ⟨mean, moved, by rw [value, runningMean, target, held.mean later]⟩

/-- **One sample more keeps the invariant**, and never fails. -/
theorem sample_holds {n : ℕ} {gathered : Gathered} {next : Header}
    (held : Holds window tip older n gathered) (stands : (tip :: older)[n]? = some next) :
    ∃ more, sample window tip gathered next = .ok more ∧ Holds window tip older (n + 1) more := by
  obtain ⟨mean, moved, value⟩ := nextMean_holds held stands
  have block := nthBlock_succ stands
  have leaves : (decide (window.atLeast ≤ n + 1) &&
        outsideHorizon (n + 1) (lag tip next) (designedSpan window (n + 1))) = true ↔
      LeavesHorizon window tip older (n + 1) := by
    rw [LeavesHorizon, block, ← toInt_lag, ← toInt_designedSpan, Int64.ofInt_toInt,
      Int64.ofInt_toInt, Bool.and_eq_true, decide_eq_true_iff]
  rw [sample, moved, held.samples]
  exact ⟨_, rfl, rfl, fun _ => value, fun _ => by rw [block], fun _ => rfl, fun _ => leaves⟩

/-- **What a sample does to the mean and to the count.** -/
theorem of_sample_eq_ok {gathered more : Gathered} {next : Header}
    (sampled : sample window tip gathered next = .ok more) :
    nextMean gathered next.target = .ok more.mean ∧ more.samples = gathered.samples + 1 := by
  unfold sample at sampled
  cases moved : nextMean gathered next.target with
  | error fault =>
    rw [moved] at sampled
    cases sampled
  | ok mean =>
    rw [moved] at sampled
    cases sampled
    exact ⟨rfl, rfl⟩

/-- **What one step of a walk leads to**: it ends as it stands, or after one more sample, or goes on
from there. -/
theorem walk_cons_cases {gathered final : Gathered} {next : Header} {rest : List Header}
    (walked : walk window tip gathered (next :: rest) = .ok final) :
    gathered = final ∨ ∃ more, sample window tip gathered next = .ok more ∧
      (more = final ∨ walk window tip more rest = .ok final) := by
  rw [walk] at walked
  split at walked
  · exact Or.inl (Except.ok.inj walked)
  · cases sampled : sample window tip gathered next with
    | error fault =>
      rw [sampled] at walked
      cases walked
    | ok more =>
      rw [sampled] at walked
      dsimp only at walked
      refine Or.inr ⟨more, rfl, ?_⟩
      split at walked
      · exact Or.inl (Except.ok.inj walked)
      · exact Or.inr walked

/-- What the walk checks before a sample, read on the branch. -/
theorem stopsAt_iff {n : ℕ} {gathered : Gathered} (held : Holds window tip older n gathered)
    (next : Header) :
    stopsAt window gathered next = true ↔
      next.height = 0 ∨ (0 < window.atMost ∧ window.atMost ≤ n) := by
  simp [stopsAt, held.samples]

/-- A count at which the walk neither left early nor stops is not one that ends it. -/
theorem not_endsAt {n : ℕ} {gathered : Gathered} {next : Header}
    (held : Holds window tip older n gathered) (stands : (tip :: older)[n]? = some next)
    (stays : ¬ LeavesHorizon window tip older n) (going : ¬ stopsAt window gathered next = true) :
    ¬ EndsAt window tip older n := by
  rw [stopsAt_iff held] at going
  rintro (leaves | used | ⟨genesis, found, low⟩ | ⟨bounded, full⟩)
  · exact stays leaves
  · exact absurd (List.getElem?_eq_some_iff.1 stands).1 (by omega)
  · obtain rfl : next = genesis := Option.some.inj (stands.symm.trans found)
    exact going (Or.inl low)
  · exact going (Or.inr ⟨bounded, by omega⟩)

/-- **A count at which the walk stops is one that ends it**, and not the first: the tip is not the
genesis block, and a window that is bounded has room for it. -/
theorem endsAt_of_stopsAt (high : tip.height ≠ 0) {n : ℕ} {gathered : Gathered} {next : Header}
    (held : Holds window tip older n gathered) (stands : (tip :: older)[n]? = some next)
    (room : 0 < window.atMost → n ≤ window.atMost) (stopped : stopsAt window gathered next = true) :
    1 ≤ n ∧ EndsAt window tip older n := by
  rw [stopsAt_iff held] at stopped
  rcases stopped with genesis | ⟨bounded, full⟩
  · refine ⟨Nat.one_le_iff_ne_zero.2 ?_, Or.inr (Or.inr (Or.inl ⟨next, stands, genesis⟩))⟩
    rintro rfl
    obtain rfl : tip = next := Option.some.inj stands
    exact high genesis
  · exact ⟨Nat.le_trans bounded full,
      Or.inr (Or.inr (Or.inr ⟨bounded, Nat.le_antisymm (room bounded) full⟩))⟩

/-- **The whole walk**: from `n` samples on, it stops at the least count that ends it, with the
invariant at that count.  The induction is on what is left of the branch. -/
theorem walk_holds (high : tip.height ≠ 0) {rest : List Header} {n : ℕ} {gathered : Gathered}
    (left : rest = (tip :: older).drop n) (inside : n ≤ (tip :: older).length)
    (room : 0 < window.atMost → n ≤ window.atMost)
    (stays : n ≠ 0 → ¬ LeavesHorizon window tip older n)
    (held : Holds window tip older n gathered) :
    ∃ m more, walk window tip gathered rest = .ok more ∧ Holds window tip older m more ∧
      IsLeast {k | (n ≤ k ∧ 1 ≤ k) ∧ EndsAt window tip older k} m := by
  induction rest generalizing n gathered with
  | nil =>
    have used : (tip :: older).length ≤ n := List.drop_eq_nil_iff.1 left.symm
    have started : 1 ≤ n := Nat.le_trans (Nat.succ_pos _) used
    exact ⟨n, gathered, rfl, held,
      ⟨⟨le_rfl, started⟩, Or.inr (Or.inl (Nat.le_antisymm inside used))⟩, fun k ends => ends.1.1⟩
  | cons next rest ih =>
    have stands : (tip :: older)[n]? = some next := by
      rw [← List.head?_drop, ← left, List.head?_cons]
    have leftAfter : rest = (tip :: older).drop (n + 1) := by
      rw [← List.tail_drop, ← left, List.tail_cons]
    rw [walk]
    split
    · rename_i stopped
      obtain ⟨started, ends⟩ := endsAt_of_stopsAt high held stands room stopped
      exact ⟨n, gathered, rfl, held, ⟨⟨le_rfl, started⟩, ends⟩, fun k ends => ends.1.1⟩
    · rename_i going
      obtain ⟨more, sampled, kept⟩ := sample_holds held stands
      have passed : ∀ k, (n ≤ k ∧ 1 ≤ k) ∧ EndsAt window tip older k → n + 1 ≤ k := by
        rintro k ⟨⟨onwards, counted⟩, ends⟩
        refine Nat.lt_of_le_of_ne onwards ?_
        rintro rfl
        exact not_endsAt held stands (stays (by omega)) going ends
      rw [sampled]
      dsimp only
      split
      · rename_i early
        have leaves := (kept.earlyExit n.succ_ne_zero).1 early
        exact ⟨n + 1, more, rfl, kept, ⟨⟨Nat.le_succ n, Nat.succ_pos n⟩, Or.inl leaves⟩, passed⟩
      · rename_i late
        rw [stopsAt_iff held] at going
        obtain ⟨m, final, walked, stillHeld, ends, least⟩ :=
          ih leftAfter (List.getElem?_eq_some_iff.1 stands).1 (by omega)
            (fun started leaves => late ((kept.earlyExit started).2 leaves)) kept
        exact ⟨m, final, walked, stillHeld, ⟨⟨Nat.le_of_succ_le ends.1.1, ends.1.2⟩, ends.2⟩,
          fun k ends => least ⟨⟨passed k ends, ends.1.2⟩, ends.2⟩⟩

/-- **A walk from its tip** takes the least number of samples that ends it. -/
theorem walk_start_holds (window : Window) (older : List Header) (high : tip.height ≠ 0) :
    ∃ n gathered, walk window tip (Gathered.start tip) (tip :: older) = .ok gathered ∧
      Holds window tip older n gathered ∧
      IsLeast {k | 1 ≤ k ∧ EndsAt window tip older k} n := by
  have held : Holds window tip older 0 (Gathered.start tip) := holds_start
  obtain ⟨n, gathered, walked, kept, ends, least⟩ :=
    walk_holds high rfl (Nat.zero_le _) (fun _ => Nat.zero_le _) (fun none => absurd rfl none) held
  exact ⟨n, gathered, walked, kept, ⟨ends.1.2, ends.2⟩,
    fun k counted => least ⟨⟨Nat.zero_le k, counted.1⟩, counted.2⟩⟩

/-! ## The report -/

/-- **Scaling always succeeds**: it divides only by a span that has passed. -/
theorem scaled_eq_ok (gathered : Gathered) :
    ∃ scaled : Target, gathered.scaled = .ok scaled ∧
      scaled.toNat =
        scaledMean gathered.mean.toNat gathered.observed.toInt gathered.designed.toInt := by
  rw [Gathered.scaled, scaledMean]
  split
  · rename_i passed
    have observed := Seconds.toNat_of_nonneg (Int.le_of_lt passed.1)
    have designed := Seconds.toNat_of_nonneg (Int.le_of_lt passed.2)
    have divisor : 0 < gathered.designed.toInt.toNat := Int.pos_iff_toNat_pos.1 passed.2
    rw [observed, designed]
    exact ⟨_, Target.mulDiv_of_pos _ _ divisor, rfl⟩
  · exact ⟨gathered.mean, rfl, rfl⟩

/-- What is gathered at the least count that ends a walk makes up the declared report. -/
theorem report_answers {n : ℕ} {gathered : Gathered} (limit : Target)
    (held : Holds window tip older n gathered)
    (least : IsLeast {k | 1 ≤ k ∧ EndsAt window tip older k} n) :
    ∃ report, gathered.report limit = .ok report ∧ Answers window tip older limit report := by
  obtain rfl := held.samples
  have counted : gathered.samples ≠ 0 := Nat.one_le_iff_ne_zero.1 least.1.1
  have observed : gathered.observed.toInt = exactLag tip (nthBlock tip older gathered.samples) := by
    rw [held.observed counted, toInt_lag]
  have designed : gathered.designed.toInt = exactSpan window gathered.samples := by
    rw [held.designed counted, toInt_designedSpan]
  obtain ⟨scaled, scaling, value⟩ := scaled_eq_ok gathered
  rw [held.mean counted, observed, designed] at value
  have reported : gathered.report limit = .ok
      { bits := (min scaled limit).encode
        samples := gathered.samples
        ratio := rateRatio gathered.observed gathered.designed
        observed := gathered.observed
        designed := gathered.designed
        earlyExit := gathered.earlyExit
        bootstrap := false } := by
    rw [Gathered.report, scaling]
    rfl
  exact ⟨_, reported, least, held.earlyExit counted, observed, designed, rfl,
    ⟨min scaled limit, rfl, by rw [Target.toNat_min, value, Nat.min_comm]⟩, rfl⟩

theorem gravityWell_of_tooShort {history : List Header} (params : Params)
    (short : TooShort window history) :
    gravityWell window params history = .ok (Report.ofLimit params.limit) := by
  cases history with
  | nil => rfl
  | cons tip older => exact if_pos (short tip rfl)

theorem not_tooShort_cons (long : ¬ TooShort window (tip :: older)) :
    ¬ (tip.height = 0 ∨ tip.height < window.atLeast) := by
  intro low
  refine long ?_
  rintro _ ⟨⟩
  exact low

/-- **A branch long enough gets the report it calls for.** -/
theorem gravityWell_of_not_tooShort (params : Params) (long : ¬ TooShort window (tip :: older)) :
    ∃ report, gravityWell window params (tip :: older) = .ok report ∧
      Answers window tip older params.limit report := by
  have walks := not_tooShort_cons long
  obtain ⟨n, gathered, walked, held, least⟩ :=
    walk_start_holds window older fun genesis => walks (Or.inl genesis)
  rw [gravityWell, if_neg walks, walked]
  exact report_answers params.limit held least

/-- **The Gravity Well is its declaration.**  The limit is reported, without a sample and marked as
such, exactly for a history that is too short; any other history gets the report of its branch, at
the least number of samples that ends the walk. -/
theorem gravityWell_spec (window : Window) (params : Params) (history : List Header) :
    (gravityWell window params history = .ok
        { bits := params.limit.encode, samples := 0, ratio := 1.0, observed := 0, designed := 0,
          earlyExit := false, bootstrap := true } ↔
      TooShort window history) ∧
    ∀ tip older, history = tip :: older → ¬ TooShort window history →
      ∃ report, gravityWell window params history = .ok report ∧
        Answers window tip older params.limit report := by
  refine ⟨⟨?_, gravityWell_of_tooShort params⟩, ?_⟩
  · intro bootstrapped
    by_contra long
    cases history with
    | nil => exact long fun tip absent => absurd absent (by simp)
    | cons tip older =>
      obtain ⟨report, reported, answers⟩ := gravityWell_of_not_tooShort params long
      obtain rfl := Except.ok.inj (bootstrapped.symm.trans reported)
      exact Bool.noConfusion answers.bootstrap
  · rintro tip older rfl long
    exact gravityWell_of_not_tooShort params long

end ProofOfWork
