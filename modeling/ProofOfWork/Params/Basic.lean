import ProofOfWork.Arithmetic
import ProofOfWork.Basic

/-!
# Params/Basic — the proof-of-work parameters of a network

A rule never looks at the network itself, only at its `Params`.  `Params.violation?` names the first
of three conditions that a set of parameters breaks, in the order limit, timespan, spacing;
parameters without a violation are **sound** (`Params.Sound`, `violation?_eq_none_iff`).  The rules
are total on unsound parameters too, so nothing below assumes soundness.
-/

namespace ProofOfWork

/-- **The proof-of-work parameters of one network.** -/
structure Params where
  /-- The highest permitted target, which is the lowest difficulty. -/
  limit : Target
  /-- The seconds that one full retarget window covers. -/
  timespan : Seconds
  /-- The seconds by which blocks are meant to be apart. -/
  spacing : Seconds
  /-- Whether blocks of minimal difficulty are allowed; the retargeting rules do not read it. -/
  minDifficultyBlocks : Bool
  /-- Whether the fixed-window rule keeps the bits of the tip. -/
  noRetargeting : Bool
  deriving DecidableEq

namespace Params

/-- A condition that parameters may break. -/
inductive Violation where
  | limitZero
  | timespanNotPositive
  | spacingNotPositive
  deriving DecidableEq

/-- What a violation says. -/
def Violation.message : Violation → String
  | .limitZero => "invalid consensus parameters: pow_limit must be nonzero"
  | .timespanNotPositive => "invalid consensus parameters: pow_target_timespan must be positive"
  | .spacingNotPositive => "invalid consensus parameters: pow_target_spacing must be positive"

/-- **The first condition that the parameters break.** -/
def violation? (params : Params) : Option Violation :=
  if params.limit = Target.zero then some .limitZero
  else if params.timespan.toInt ≤ 0 then some .timespanNotPositive
  else if params.spacing.toInt ≤ 0 then some .spacingNotPositive
  else none

/-- Parameters that break no condition. -/
def Sound (params : Params) : Prop :=
  0 < params.limit.toNat ∧ 0 < params.timespan.toInt ∧ 0 < params.spacing.toInt

instance (params : Params) : Decidable params.Sound := inferInstanceAs (Decidable (_ ∧ _ ∧ _))

/-- **No violation is found exactly in sound parameters.** -/
theorem violation?_eq_none_iff {params : Params} : params.violation? = none ↔ params.Sound := by
  have limit : params.limit = Target.zero ↔ params.limit.toNat = 0 := Target.ext_iff
  unfold violation? Sound
  simp only [limit]
  split
  · simp only [reduceCtorEq, false_iff]
    omega
  · split
    · simp only [reduceCtorEq, false_iff]
      omega
    · split
      · simp only [reduceCtorEq, false_iff]
        omega
      · simp only [true_iff]
        omega

/-- **How many blocks one retarget window holds**: the timespan over the spacing, without a
fraction. -/
def interval (params : Params) : Except Fault Seconds := params.timespan.div params.spacing

end Params

end ProofOfWork
