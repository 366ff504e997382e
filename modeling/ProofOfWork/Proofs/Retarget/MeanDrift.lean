import Mathlib.Algebra.Order.Field.Basic
import Mathlib.Data.Rat.Cast.Order
import Mathlib.Tactic.FieldSimp
import Mathlib.Tactic.Linarith
import Mathlib.Tactic.Ring
import ProofOfWork.Proofs.Retarget.Walk

/-!
# Proofs/Retarget/MeanDrift — how far the running mean strays from the true one

    d₁ ──d₂──▸ ⋯ ──dₙ──▸ mean        |n · mean − (d₁ + ⋯ + dₙ)| ≤ 1 + 2 + ⋯ + (n − 1)

The mean is kept as a whole number, so each sample leaves a remainder behind, now on one side and
now on the other.  What makes these harmless is the scale on which they are counted: `count · mean`
is off the exact sum by an **excess** that the next sample carries on unchanged, adding its own
remainder and nothing else (`meanMove_remainder`).  The remainder of the `n`-th sample is less than
`n`, so the excess after `n` of them is at most the sum of the numbers below `n`, and the mean is
within `(n − 1) / 2` of the true one.
-/

namespace ProofOfWork

/-! ## The fold of the walk, on targets alone -/

/-- **The mean of `count` targets carried on over further ones**, each of which moves it once. -/
def meanFrom (mean : Target) (count : ℕ) : List Target → Except Fault Target
  | [] => .ok mean
  | next :: rest =>
    match meanStep mean next (count + 1) with
    | .error fault => .error fault
    | .ok moved => meanFrom moved (count + 1) rest

/-- **The mean of a run of targets**: the first is its own mean, and the `n`-th moves it by the
`n`-th part of the gap. -/
def meanOf (first : Target) (rest : List Target) : Except Fault Target := meanFrom first 1 rest

theorem meanFrom_cons {mean moved next : Target} {count : ℕ} (rest : List Target)
    (stepped : meanStep mean next (count + 1) = .ok moved) :
    meanFrom mean count (next :: rest) = meanFrom moved (count + 1) rest := by
  rw [meanFrom, stepped]

/-- **A walk that has started carries its mean on over the targets it samples.** -/
theorem walk_meanFrom {window : Window} {tip : Header} {rest : List Header}
    {gathered final : Gathered} (walked : walk window tip gathered rest = .ok final)
    (started : gathered.samples ≠ 0) :
    ∃ taken, final.samples = gathered.samples + taken ∧
      meanFrom gathered.mean gathered.samples ((rest.take taken).map Header.target) =
        .ok final.mean := by
  induction rest generalizing gathered with
  | nil =>
    obtain rfl := Except.ok.inj walked
    exact ⟨0, rfl, rfl⟩
  | cons next rest ih =>
    rcases walk_cons_cases walked with rfl | ⟨more, sampled, ends⟩
    · exact ⟨0, rfl, rfl⟩
    · obtain ⟨stepped, count⟩ := of_sample_eq_ok sampled
      rw [nextMean, if_neg started] at stepped
      rcases ends with rfl | onwards
      · exact ⟨1, count, meanFrom_cons [] stepped⟩
      · obtain ⟨taken, samples, carried⟩ := ih onwards (by omega)
        refine ⟨taken + 1, by omega, ?_⟩
        rw [List.take_succ_cons, List.map_cons, meanFrom_cons _ stepped, ← count]
        exact carried

/-- **A walk from its tip holds the mean of the targets it has sampled**; one that has sampled none
holds the target of the tip. -/
theorem meanOf_walk {window : Window} {tip : Header} {older : List Header} {gathered : Gathered}
    (walked : walk window tip (Gathered.start tip) (tip :: older) = .ok gathered) :
    meanOf tip.target ((older.take (gathered.samples - 1)).map Header.target) =
      .ok gathered.mean := by
  rcases walk_cons_cases walked with rfl | ⟨more, sampled, ends⟩
  · rfl
  · obtain ⟨first, count⟩ := of_sample_eq_ok sampled
    obtain mean : tip.target = more.mean := Except.ok.inj first
    rw [Gathered.start, Nat.zero_add] at count
    rcases ends with rfl | onwards
    · rw [count, mean]
      rfl
    · obtain ⟨taken, samples, carried⟩ := walk_meanFrom onwards (by omega)
      rw [samples, count, Nat.add_sub_cancel_left, mean]
      rwa [count] at carried

/-! ## One step -/

/-- A step ends between the mean and the sample. -/
theorem meanMove_between (mean sample count : ℕ) :
    min mean sample ≤ meanMove mean sample count ∧
      meanMove mean sample count ≤ max mean sample := by
  unfold meanMove
  split <;> rename_i side
  · have part := Nat.div_le_self (sample - mean) count
    rw [min_eq_left side, max_eq_right side]
    exact ⟨Nat.le_add_right _ _, by omega⟩
  · have part := Nat.div_le_self (mean - sample) count
    rw [min_eq_right (Nat.le_of_not_le side), max_eq_left (Nat.le_of_not_le side)]
    exact ⟨by omega, Nat.sub_le _ _⟩

/-- **What a step leaves over is less than its count**: on the scale of the sum, the new mean is the
old one and the sample, but for a remainder on the side the mean comes from. -/
theorem meanMove_remainder (mean sample count : ℕ) :
    ∃ spare ≤ count,
      (count + 1) * meanMove mean sample (count + 1) + spare = count * mean + sample ∨
        (count + 1) * meanMove mean sample (count + 1) = count * mean + sample + spare := by
  have left (gap : ℕ) : gap % (count + 1) ≤ count :=
    Nat.le_of_lt_succ (Nat.mod_lt gap count.succ_pos)
  have one : (count + 1) * mean = count * mean + mean := Nat.succ_mul count mean
  unfold meanMove
  split
  · have parts := Nat.div_add_mod (sample - mean) (count + 1)
    refine ⟨(sample - mean) % (count + 1), left _, Or.inl ?_⟩
    rw [Nat.mul_add]
    omega
  · have parts := Nat.div_add_mod (mean - sample) (count + 1)
    refine ⟨(mean - sample) % (count + 1), left _, Or.inr ?_⟩
    rw [Nat.mul_sub]
    omega

/-! ## The whole run -/

/-- **By how much a mean, counted once for each target, exceeds their exact sum.** -/
def excess (targets : List Target) (mean : Target) : ℤ :=
  targets.length * mean.toNat - (targets.map Target.toNat).sum

/-- **One target more carries the excess on, and adds the remainder of its step.** -/
theorem excess_append_singleton (targets : List Target) {mean next moved : Target}
    (value : moved.toNat = meanMove mean.toNat next.toNat (targets.length + 1)) :
    ∃ spare : ℤ, |spare| ≤ targets.length ∧
      excess (targets ++ [next]) moved = excess targets mean + spare := by
  obtain ⟨spare, small, side⟩ := meanMove_remainder mean.toNat next.toNat targets.length
  have within : |(spare : ℤ)| ≤ targets.length := by
    rw [Nat.abs_cast]
    exact_mod_cast small
  rw [← value] at side
  simp only [excess, List.length_append, List.length_singleton, List.map_append, List.sum_append,
    List.map_singleton, List.sum_singleton]
  push_cast
  rcases side with short | long
  · refine ⟨-spare, (abs_neg _).trans_le within, ?_⟩
    have short : ((targets.length : ℤ) + 1) * moved.toNat + spare =
        targets.length * mean.toNat + next.toNat := by exact_mod_cast short
    linarith
  · refine ⟨spare, within, ?_⟩
    have long : ((targets.length : ℤ) + 1) * moved.toNat =
        targets.length * mean.toNat + next.toNat + spare := by exact_mod_cast long
    linarith

/-- **The invariant of the fold**: the mean of what has been seen lies between the least and the
greatest of it, and its excess is at most the sum of the numbers below their count. -/
structure Tracks (first : Target) (seen : List Target) (mean : Target) : Prop where
  above : seen.foldl min first ≤ mean
  below : mean ≤ seen.foldl max first
  drift : 2 * |excess (first :: seen) mean| ≤ (seen.length + 1) * seen.length

theorem tracks_first (first : Target) : Tracks first [] first where
  above := Nat.le_refl _
  below := Nat.le_refl _
  drift := by simp [excess]

/-- **One target more keeps the invariant**, and its step never fails. -/
theorem Tracks.step {first mean : Target} {seen : List Target} (tracks : Tracks first seen mean)
    (next : Target) :
    ∃ moved, meanStep mean next (seen.length + 1 + 1) = .ok moved ∧
      Tracks first (seen ++ [next]) moved := by
  obtain ⟨moved, stepped, value⟩ := meanStep_eq_ok mean next (seen.length + 1).succ_pos
  have between := meanMove_between mean.toNat next.toNat (seen.length + 1 + 1)
  rw [← value] at between
  have above : (seen.foldl min first).toNat ≤ mean.toNat := tracks.above
  have below : mean.toNat ≤ (seen.foldl max first).toNat := tracks.below
  refine ⟨moved, stepped, ?_, ?_, ?_⟩
  · rw [List.foldl_append, List.foldl_cons, List.foldl_nil, Target.le_def, Target.toNat_min]
    omega
  · rw [List.foldl_append, List.foldl_cons, List.foldl_nil, Target.le_def, Target.toNat_max]
    omega
  · obtain ⟨spare, small, carried⟩ := excess_append_singleton (first :: seen) value
    have drift := tracks.drift
    have apart := abs_add_le (excess (first :: seen) mean) spare
    rw [List.length_cons] at small
    push_cast at small
    rw [← List.cons_append, carried, List.length_append, List.length_singleton]
    calc 2 * |excess (first :: seen) mean + spare|
        ≤ (seen.length + 1) * seen.length + 2 * (seen.length + 1) := by linarith
      _ = ((seen.length + 1 : ℕ) + 1) * (seen.length + 1 : ℕ) := by push_cast; ring

/-- **The whole fold keeps the invariant**; the induction is on the targets still to come. -/
theorem Tracks.run {first mean : Target} {seen : List Target} (tracks : Tracks first seen mean)
    (rest : List Target) :
    ∃ final, meanFrom mean (seen.length + 1) rest = .ok final ∧
      Tracks first (seen ++ rest) final := by
  induction rest generalizing seen mean with
  | nil => exact ⟨mean, rfl, by rwa [List.append_nil]⟩
  | cons next rest ih =>
    obtain ⟨moved, stepped, tracksNext⟩ := tracks.step next
    obtain ⟨final, carried, tracksAll⟩ := ih tracksNext
    refine ⟨final, ?_, by rwa [List.append_cons]⟩
    rw [meanFrom_cons rest stepped]
    rwa [List.length_append, List.length_singleton] at carried

/-! ## The mean of the walk -/

/-- **Every walk from a tip comes to an end**, at the least number of samples that ends it, or at
once on the genesis block. -/
theorem exists_walk (window : Window) (tip : Header) (older : List Header) :
    ∃ gathered, walk window tip (Gathered.start tip) (tip :: older) = .ok gathered ∧
      (tip.height = 0 → gathered.samples = 0) ∧
      (tip.height ≠ 0 → IsLeast {n | 1 ≤ n ∧ EndsAt window tip older n} gathered.samples) := by
  by_cases genesis : tip.height = 0
  · exact ⟨Gathered.start tip, by simp [walk, stopsAt, genesis], fun _ => rfl, absurd genesis⟩
  · obtain ⟨n, gathered, walked, held, least⟩ := walk_start_holds window older genesis
    exact ⟨gathered, walked, fun zero => absurd zero genesis, fun _ => held.samples.symm ▸ least⟩

/-- An excess read off the mean itself. -/
theorem abs_sub_average_le {targets : List Target} {mean : Target} {bound : ℚ}
    (counted : targets ≠ []) (drift : |(excess targets mean : ℚ)| ≤ targets.length * bound) :
    |(mean.toNat : ℚ) - (targets.map Target.toNat).sum / targets.length| ≤ bound := by
  have count : (0 : ℚ) < targets.length := by
    exact_mod_cast List.length_pos_of_ne_nil counted
  have scaled : (excess targets mean : ℚ) =
      targets.length * ((mean.toNat : ℚ) - (targets.map Target.toNat).sum / targets.length) := by
    rw [excess, mul_sub, mul_div_cancel₀ _ count.ne']
    simp only [Int.cast_sub, Int.cast_mul, Int.cast_natCast]
  rw [scaled, abs_mul, abs_of_pos count] at drift
  exact le_of_mul_le_mul_left drift count

/-- **The running mean is a true mean up to a bounded drift.**  Over any targets, `rest.length + 1`
of them, no step fails; the mean lies between the least and the greatest, and is off their average
by half of `rest.length` at most.  It is this mean that a walk holds of the targets it has sampled,
and it samples the least number of blocks that ends it, of which there is none at the genesis
block. -/
theorem meanOf_drift :
    (∀ (first : Target) (rest : List Target), ∃ mean, meanOf first rest = .ok mean ∧
      rest.foldl min first ≤ mean ∧ mean ≤ rest.foldl max first ∧
      |((rest.length + 1) * mean.toNat - ((first :: rest).map Target.toNat).sum : ℤ)| ≤
        (rest.length + 1) * rest.length / 2 ∧
      |(mean.toNat : ℚ) - ((first :: rest).map Target.toNat).sum / (rest.length + 1)| ≤
        rest.length / 2) ∧
    ∀ window tip older, ∃ gathered,
      walk window tip (Gathered.start tip) (tip :: older) = .ok gathered ∧
      (tip.height = 0 → gathered.samples = 0) ∧
      (tip.height ≠ 0 → IsLeast {n | 1 ≤ n ∧ EndsAt window tip older n} gathered.samples) ∧
      meanOf tip.target ((older.take (gathered.samples - 1)).map Header.target) =
        .ok gathered.mean := by
  refine ⟨fun first rest => ?_, fun window tip older => ?_⟩
  · obtain ⟨mean, folded, tracks⟩ := (tracks_first first).run rest
    have drift := tracks.drift
    rw [List.nil_append] at tracks drift
    refine ⟨mean, folded, tracks.above, tracks.below, ?_, ?_⟩
    · rw [excess, List.length_cons, Nat.cast_succ] at drift
      rwa [Int.le_ediv_iff_mul_le two_pos, mul_comm]
    · have half : |(excess (first :: rest) mean : ℚ)| ≤
          (first :: rest).length * ((rest.length : ℚ) / 2) := by
        have drift : 2 * |(excess (first :: rest) mean : ℚ)| ≤ (rest.length + 1) * rest.length := by
          exact_mod_cast drift
        rw [List.length_cons]
        push_cast
        linarith
      have average := abs_sub_average_le (List.cons_ne_nil first rest) half
      rw [List.length_cons] at average
      exact_mod_cast average
  · obtain ⟨gathered, walked, bare, least⟩ := exists_walk window tip older
    exact ⟨gathered, walked, bare, least, meanOf_walk walked⟩

end ProofOfWork
