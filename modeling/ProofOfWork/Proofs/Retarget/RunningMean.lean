import Mathlib.Data.Nat.Notation
import ProofOfWork.Retarget.GravityWell

/-!
# Proofs/Retarget/RunningMean — the mean of the samples, over the naturals

The walk keeps its mean as a `Target` and moves it by checked operations.  Over the naturals the
same mean is one recursion (`runningMean`), in which nothing can fail.  That the checked operations
never do is `meanStep_eq_ok`: the step is a part of the gap between mean and sample, so the outcome
lies between the two.
-/

namespace ProofOfWork

/-- **Where the `count`-th sample moves the mean**: towards the sample, by that part of the gap
between the two, without a fraction. -/
def meanMove (mean sample count : ℕ) : ℕ :=
  if mean ≤ sample then mean + (sample - mean) / count else mean - (mean - sample) / count

/-- **The mean of the samples `1` to `n`**; that of none is zero, from which the first sample moves
it all the way. -/
def runningMean (samples : ℕ → ℕ) : ℕ → ℕ
  | 0 => 0
  | n + 1 => meanMove (runningMean samples n) (samples (n + 1)) (n + 1)

@[simp] theorem runningMean_one (samples : ℕ → ℕ) : runningMean samples 1 = samples 1 := by
  simp [runningMean, meanMove]

/-! ## Order

A larger sample and a larger old mean both make the new mean larger, although the quotient rounds up
on the way down and down on the way up. -/

/-- What is added to a dividend adds at most itself to the quotient. -/
theorem add_div_le_add (a b : ℕ) {count : ℕ} (counted : 0 < count) :
    (a + b) / count ≤ a / count + b :=
  calc (a + b) / count
      ≤ (a + count * b) / count :=
        Nat.div_le_div_right (Nat.add_le_add_left (Nat.le_mul_of_pos_left b counted) a)
    _ = a / count + b := Nat.add_mul_div_left a b counted

/-- **A mean moves the further up, the larger the sample and the mean before.**  Where the two means
move in different directions, their old values or the samples lie between them; where they move in
the same one, the gaps differ by no more than the means or the samples do. -/
theorem meanMove_mono {mean₁ mean₂ sample₁ sample₂ count : ℕ} (counted : 0 < count)
    (means : mean₁ ≤ mean₂) (samples : sample₁ ≤ sample₂) :
    meanMove mean₁ sample₁ count ≤ meanMove mean₂ sample₂ count := by
  unfold meanMove
  split <;> rename_i toSample₁ <;> split <;> rename_i toSample₂
  · have gaps : (sample₁ - mean₁) / count ≤ (sample₂ - mean₂ + (mean₂ - mean₁)) / count :=
      Nat.div_le_div_right (by omega)
    have quotient := add_div_le_add (sample₂ - mean₂) (mean₂ - mean₁) counted
    omega
  · have part₁ := Nat.div_le_self (sample₁ - mean₁) count
    have part₂ := Nat.div_le_self (mean₂ - sample₂) count
    omega
  · exact Nat.le_trans (Nat.sub_le _ _) (Nat.le_trans means (Nat.le_add_right _ _))
  · have gaps : (mean₂ - sample₂) / count ≤ (mean₁ - sample₁ + (mean₂ - mean₁)) / count :=
      Nat.div_le_div_right (by omega)
    have quotient := add_div_le_add (mean₁ - sample₁) (mean₂ - mean₁) counted
    have part₁ := Nat.div_le_self (mean₁ - sample₁) count
    omega

/-- **Larger samples have a larger mean.** -/
theorem runningMean_mono {samples₁ samples₂ : ℕ → ℕ} (le : ∀ k, samples₁ k ≤ samples₂ k) (n : ℕ) :
    runningMean samples₁ n ≤ runningMean samples₂ n := by
  induction n with
  | zero => exact Nat.le_refl 0
  | succ n ih => exact meanMove_mono n.succ_pos ih (le (n + 1))

/-! ## The checked step -/

/-- **A step of the mean always succeeds**, with the exact outcome. -/
theorem meanStep_eq_ok (mean sample : Target) {count : ℕ} (counted : 0 < count) :
    ∃ moved : Target, meanStep mean sample count = .ok moved ∧
      moved.toNat = meanMove mean.toNat sample.toNat count := by
  unfold meanStep meanMove
  simp only [Target.le_def]
  split
  · rename_i below
    obtain ⟨gap, subtracted, gapValue⟩ := Target.sub_of_le below
    obtain ⟨part, divided, partValue⟩ := Target.divSmall_of_pos gap counted
    have shrinks := Nat.div_le_self gap.toNat count
    obtain ⟨moved, added, movedValue⟩ : ∃ c : Target, part.add mean = .ok c ∧
        c.toNat = part.toNat + mean.toNat := Target.add_of_lt (by have := sample.toNat_lt; omega)
    refine ⟨moved, ?_, by rw [movedValue, partValue, gapValue, Nat.add_comm]⟩
    rw [subtracted]
    change (gap.divSmall count >>= fun step => step.add mean) = _
    rw [divided]
    exact added
  · rename_i above
    obtain ⟨gap, subtracted, gapValue⟩ := Target.sub_of_le (Nat.le_of_not_le above)
    obtain ⟨part, divided, partValue⟩ := Target.divSmall_of_pos gap counted
    have shrinks := Nat.div_le_self gap.toNat count
    obtain ⟨moved, left, movedValue⟩ : ∃ c : Target, mean.sub part = .ok c ∧
        c.toNat = mean.toNat - part.toNat := Target.sub_of_le (by rw [Target.le_def]; omega)
    refine ⟨moved, ?_, by rw [movedValue, partValue, gapValue]⟩
    rw [subtracted]
    change (gap.divSmall count >>= fun step => mean.sub step) = _
    rw [divided]
    exact left

end ProofOfWork
