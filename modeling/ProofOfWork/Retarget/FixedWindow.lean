import ProofOfWork.Arithmetic
import ProofOfWork.Chain.Index
import ProofOfWork.Params.Basic

/-!
# Retarget/FixedWindow — one adjustment for a whole window

    tip, start ──since──▸ observed ──held to [t/4, 4t]──▸ scaled target ──min limit──▸ bits

The older rule looks at a window of blocks from outside: how long it really took against how long it
should have taken.  The target of the tip is scaled by that ratio, of which neither side may exceed
the other more than four-fold (`boundedTimespan`), and is then held at the network's limit.

A clamp between crossed bounds and a division by zero are the two faults that the rule could run
into, and a timespan that is not positive leads to either.  The rule keeps the bits of the tip there
(`Params.KeepsBits`), so whatever the parameters, the times and the claimed target, it answers: with
the bits of the tip or with the encoding of a target within the limit.
-/

namespace ProofOfWork

/-- **The observed duration held between a quarter of the timespan and four timespans.**  A negative
timespan leaves no room between the two. -/
def boundedTimespan (params : Params) (observed : Seconds) : Except Fault Seconds :=
  let least := params.timespan.toInt.tdiv 4
  let most := (Seconds.saturate (4 * params.timespan.toInt)).toInt
  if most < least then .error .emptyRange
  else if observed.toInt < least then .ok (Int64.ofInt least)
  else if most < observed.toInt then .ok (Int64.ofInt most)
  else .ok observed

/-- **The bits after a window that began at `windowStart` and ended with `tip`.**  They stay as they
are where retargeting is switched off or the timespan is not positive. -/
def fixedWindowBits (params : Params) (tip : Header) (windowStart : Seconds) :
    Except Fault Compact :=
  if params.noRetargeting ∨ params.timespan.toInt ≤ 0 then .ok tip.bits
  else do
    let observed ← boundedTimespan params (tip.time.since windowStart)
    let scaled ← tip.target.mulDiv observed.toNat params.timespan.toNat
    return (min scaled params.limit).encode

/-! ## Answers -/

/-- **Parameters under which the fixed-window rule keeps the bits of the tip.** -/
def Params.KeepsBits (params : Params) : Prop :=
  params.noRetargeting = true ∨ params.timespan.toInt ≤ 0

theorem fixedWindowBits_of_keepsBits {params : Params} (keeps : params.KeepsBits) (tip : Header)
    (windowStart : Seconds) : fixedWindowBits params tip windowStart = .ok tip.bits := if_pos keeps

/-- **A positive timespan leaves room between the bounds**, and the duration is held there. -/
theorem boundedTimespan_of_pos {params : Params} (positive : 0 < params.timespan.toInt)
    (observed : Seconds) :
    ∃ held : Seconds, boundedTimespan params observed = .ok held ∧
      held.toInt = max (params.timespan.toInt / 4)
        (min observed.toInt (min (4 * params.timespan.toInt) (2 ^ 63 - 1))) := by
  have wide := params.timespan.toInt_lt
  have least : params.timespan.toInt.tdiv 4 = params.timespan.toInt / 4 :=
    Int.tdiv_eq_ediv_of_nonneg (Int.le_of_lt positive)
  have most : (Seconds.saturate (4 * params.timespan.toInt)).toInt =
      min (4 * params.timespan.toInt) (2 ^ 63 - 1) := by
    rw [Seconds.toInt_saturate]
    omega
  unfold boundedTimespan
  rw [least, most]
  dsimp only
  rw [if_neg (by omega)]
  split
  · refine ⟨_, rfl, ?_⟩
    rw [Int64.toInt_ofInt_of_le (by omega) (by omega)]
    omega
  · split
    · refine ⟨_, rfl, ?_⟩
      rw [Int64.toInt_ofInt_of_le (by omega) (by omega)]
      omega
    · exact ⟨_, rfl, by omega⟩

/-- **Where the bits are not kept, the rule answers with an encoding**: that of the target of the
tip, scaled by the held duration over the timespan and held at the limit. -/
theorem fixedWindowBits_of_not_keepsBits {params : Params} (moves : ¬ params.KeepsBits)
    (tip : Header) (windowStart : Seconds) :
    ∃ (held : Seconds) (target : Target),
      boundedTimespan params (tip.time.since windowStart) = .ok held ∧
      fixedWindowBits params tip windowStart = .ok target.encode ∧
      target.toNat = min (min (tip.target.toNat * held.toNat / params.timespan.toNat)
        (2 ^ 256 - 1)) params.limit.toNat := by
  have positive : 0 < params.timespan.toInt := Int.not_le.1 fun low => moves (Or.inr low)
  have divisor : 0 < params.timespan.toNat := by
    rw [Seconds.toNat_of_nonneg (Int.le_of_lt positive)]
    omega
  obtain ⟨held, bounded, -⟩ := boundedTimespan_of_pos positive (tip.time.since windowStart)
  refine ⟨held, min (Target.saturate (tip.target.toNat * held.toNat / params.timespan.toNat))
    params.limit, bounded, ?_, by rw [Target.toNat_min, Target.toNat_saturate]⟩
  have computed : fixedWindowBits params tip windowStart =
      (boundedTimespan params (tip.time.since windowStart) >>= fun observed =>
        tip.target.mulDiv observed.toNat params.timespan.toNat >>= fun scaled =>
          .ok (min scaled params.limit).encode) := if_neg moves
  rw [computed, bounded]
  change (tip.target.mulDiv held.toNat params.timespan.toNat >>= _) = _
  rw [Target.mulDiv_of_pos _ _ divisor]
  rfl

/-- **The fixed-window rule always answers.** -/
theorem exists_fixedWindowBits (params : Params) (tip : Header) (windowStart : Seconds) :
    ∃ bits, fixedWindowBits params tip windowStart = .ok bits := by
  by_cases keeps : params.KeepsBits
  · exact ⟨tip.bits, fixedWindowBits_of_keepsBits keeps tip windowStart⟩
  · obtain ⟨held, target, -, answered, -⟩ := fixedWindowBits_of_not_keepsBits keeps tip windowStart
    exact ⟨target.encode, answered⟩

end ProofOfWork
