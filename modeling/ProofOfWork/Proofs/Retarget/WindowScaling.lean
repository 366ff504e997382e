import ProofOfWork.Params.Network
import ProofOfWork.Proofs.Compact.Canonical
import ProofOfWork.Proofs.Retarget.Monotone
import ProofOfWork.Proofs.Retarget.Scaling
import ProofOfWork.Retarget.FixedWindow

/-!
# Proofs/Retarget/WindowScaling — the fixed-window rule over unbounded integers

    elapsed ──held to [⌊t/4⌋, 4t]──▸ a        min limit ⌊T · a / t⌋ ──encode──▸ bits

The rule saturates three times: in the difference of two times, in four timespans, and in the scaled
target.  None of it shows: the first two lie outside the bounds of the duration or at them, the
third above every limit (`exists_fixedWindowBits_encode`).  What is left is a quotient of integers
(`windowValue`), from which the laws of the rule are read off: it is monotone in all that it is
given, it never exceeds four times the target of the tip, and it never falls below the part of it
that the shortest duration leaves.  That part is a quarter exactly where the timespan is a multiple
of four.
-/

namespace ProofOfWork

/-- **The duration that a retarget scales by**, over the integers: what has elapsed, held between a
quarter of the timespan, without its fraction, and four timespans or the longest duration. -/
def heldWindow (timespan elapsed : ℤ) : ℤ :=
  max (timespan / 4) (min elapsed (min (4 * timespan) (2 ^ 63 - 1)))

/-- **The target that a retarget leads to**, before it is encoded: the target of the tip scaled by
the held duration over the timespan, and held at the limit. -/
def windowValue (limit target : ℕ) (timespan elapsed : ℤ) : ℤ :=
  min limit (target * heldWindow timespan elapsed / timespan)

/-- The seconds between the start of a window and its tip. -/
def Header.elapsed (tip : Header) (windowStart : Seconds) : ℤ :=
  tip.time.toInt - windowStart.toInt

/-! ## The rule as a quotient -/

/-- **The held duration is that of the exact difference**: a difference too long for a duration lies
outside the bounds. -/
theorem exists_boundedTimespan {params : Params} (positive : 0 < params.timespan.toInt)
    (tip : Header) (windowStart : Seconds) :
    ∃ held : Seconds, boundedTimespan params (tip.time.since windowStart) = .ok held ∧
      held.toInt = heldWindow params.timespan.toInt (tip.elapsed windowStart) := by
  obtain ⟨held, bounded, value⟩ := boundedTimespan_of_pos positive (tip.time.since windowStart)
  have since : (tip.time.since windowStart).toInt =
      max (-2 ^ 63) (min (tip.elapsed windowStart) (2 ^ 63 - 1)) := Seconds.toInt_saturate _
  refine ⟨held, bounded, ?_⟩
  rw [value, since, heldWindow]
  omega

theorem heldWindow_nonneg {timespan : ℤ} (positive : 0 < timespan) (elapsed : ℤ) :
    0 ≤ heldWindow timespan elapsed :=
  le_max_of_le_left (Int.ediv_nonneg positive.le (by omega))

/-- **Where the bits are not kept, the rule encodes the exact value.** -/
theorem exists_fixedWindowBits_encode {params : Params} (moves : ¬ params.KeepsBits) (tip : Header)
    (windowStart : Seconds) :
    ∃ target : Target, fixedWindowBits params tip windowStart = .ok target.encode ∧
      (target.toNat : ℤ) = windowValue params.limit.toNat tip.target.toNat params.timespan.toInt
        (tip.elapsed windowStart) := by
  have positive : 0 < params.timespan.toInt := Int.not_le.1 fun low => moves (Or.inr low)
  obtain ⟨held, target, bounded, answered, value⟩ := fixedWindowBits_unheld moves tip windowStart
  obtain ⟨_, same, exact⟩ := exists_boundedTimespan positive tip windowStart
  obtain rfl := Except.ok.inj (bounded.symm.trans same)
  have nonneg := heldWindow_nonneg positive (tip.elapsed windowStart)
  have duration : (held.toNat : ℤ) =
      heldWindow params.timespan.toInt (tip.elapsed windowStart) := by
    rw [Seconds.natCast_toNat_of_nonneg (exact ▸ nonneg), exact]
  have timespan : (params.timespan.toNat : ℤ) = params.timespan.toInt :=
    Seconds.natCast_toNat_of_nonneg positive.le
  refine ⟨target, answered, ?_⟩
  rw [value, windowValue, ← duration, ← timespan]
  push_cast
  rfl

/-! ## The quotient -/

section Value

variable {limit target : ℕ} {timespan : ℤ}

theorem heldWindow_mono (timespan : ℤ) {elapsed₁ elapsed₂ : ℤ} (le : elapsed₁ ≤ elapsed₂) :
    heldWindow timespan elapsed₁ ≤ heldWindow timespan elapsed₂ :=
  max_le_max_left _ (min_le_min_right _ le)

/-- A window that takes as long as it should scales by its own timespan. -/
theorem heldWindow_self (positive : 0 < timespan) (narrow : timespan < 2 ^ 63) :
    heldWindow timespan timespan = timespan := by
  unfold heldWindow
  omega

theorem heldWindow_le (positive : 0 < timespan) (elapsed : ℤ) :
    heldWindow timespan elapsed ≤ 4 * timespan := by
  unfold heldWindow
  omega

/-- The quotient of a larger target by the same timespan, over a longer window, is larger. -/
theorem scaled_mono (positive : 0 < timespan) {target₁ target₂ : ℕ} (targets : target₁ ≤ target₂)
    {held₁ held₂ : ℤ} (nonneg : 0 ≤ held₁) (helds : held₁ ≤ held₂) :
    target₁ * held₁ / timespan ≤ target₂ * held₂ / timespan :=
  Int.ediv_le_ediv positive
    (mul_le_mul (Int.ofNat_le.2 targets) helds nonneg (Int.natCast_nonneg target₂))

/-- **The value grows with the limit, with the target and with what has elapsed.** -/
theorem windowValue_mono (positive : 0 < timespan) {limit₁ limit₂ target₁ target₂ : ℕ}
    {elapsed₁ elapsed₂ : ℤ} (limits : limit₁ ≤ limit₂) (targets : target₁ ≤ target₂)
    (longer : elapsed₁ ≤ elapsed₂) :
    windowValue limit₁ target₁ timespan elapsed₁ ≤ windowValue limit₂ target₂ timespan elapsed₂ :=
  min_le_min (Int.ofNat_le.2 limits)
    (scaled_mono positive targets (heldWindow_nonneg positive elapsed₁)
      (heldWindow_mono timespan longer))

/-- On schedule the target stays, up to the limit. -/
theorem windowValue_self (positive : 0 < timespan) (narrow : timespan < 2 ^ 63)
    (within : target ≤ limit) : windowValue limit target timespan timespan = target := by
  rw [windowValue, heldWindow_self positive narrow, Int.mul_ediv_cancel _ positive.ne']
  omega

/-- **The value is at most the limit, and at most four times the target.** -/
theorem windowValue_le (limit target : ℕ) (positive : 0 < timespan) (elapsed : ℤ) :
    windowValue limit target timespan elapsed ≤ min (limit : ℤ) (4 * target) := by
  have scaled : target * heldWindow timespan elapsed / timespan ≤ 4 * target := by
    calc target * heldWindow timespan elapsed / timespan
        ≤ target * (4 * timespan) / timespan :=
          scaled_mono positive le_rfl (heldWindow_nonneg positive elapsed)
            (heldWindow_le positive elapsed)
      _ = 4 * target := by
          rw [mul_left_comm, ← mul_assoc, Int.mul_ediv_cancel _ positive.ne']
  exact min_le_min_left _ scaled

/-- **The value is at least what the shortest duration leaves**, up to the limit. -/
theorem le_windowValue (limit target : ℕ) (positive : 0 < timespan) (elapsed : ℤ) :
    min (limit : ℤ) (target * (timespan / 4) / timespan) ≤
      windowValue limit target timespan elapsed :=
  min_le_min_left _ (scaled_mono positive le_rfl (Int.ediv_nonneg positive.le (by omega))
    (le_max_left _ _))

/-- The shortest duration leaves a quarter of the target where it is a quarter of the timespan. -/
theorem quarter_of_dvd (positive : 0 < timespan) (whole : 4 ∣ timespan) :
    target * (timespan / 4) / timespan = (target / 4 : ℕ) := by
  obtain ⟨part, rfl⟩ := whole
  rw [Int.mul_ediv_cancel_left _ (by omega), Int.mul_ediv_mul_of_pos_left _ _ (by omega)]
  rfl

/-- **A timespan that is no multiple of four leaves nothing of a target of four.** -/
theorem windowValue_four (fraction : ¬ 4 ∣ timespan) (positive : 0 < timespan)
    {elapsed : ℤ} (quick : elapsed ≤ timespan / 4) : windowValue limit 4 timespan elapsed = 0 := by
  have held : heldWindow timespan elapsed = timespan / 4 := by
    unfold heldWindow
    omega
  have less : (4 : ℕ) * (timespan / 4) / timespan = 0 :=
    Int.ediv_eq_zero_of_lt (by omega) (by omega)
  rw [windowValue, held, less]
  omega

end Value

/-! ## What the rule promises -/

theorem not_keepsBits {params : Params} (moving : params.noRetargeting = false)
    (positive : 0 < params.timespan.toInt) : ¬ params.KeepsBits := by
  rintro (frozen | low)
  · exact absurd (moving.symm.trans frozen) Bool.false_ne_true
  · exact absurd positive (Int.not_lt.2 low)

/-- **The fixed-window rule is one quotient of integers.**  It always answers: with the bits of the
tip where it keeps them, and otherwise with the encoding of the exact value.  A window on schedule
keeps the bits of a tip that are canonical and within the limit. -/
theorem fixedWindowBits_exact (params : Params) (tip : Header) (windowStart : Seconds) :
    (params.noRetargeting = true ∨ params.timespan.toInt ≤ 0 →
      fixedWindowBits params tip windowStart = .ok tip.bits) ∧
    (¬ (params.noRetargeting = true ∨ params.timespan.toInt ≤ 0) →
      ∃ target : Target, fixedWindowBits params tip windowStart = .ok target.encode ∧
        (target.toNat : ℤ) = min (params.limit.toNat : ℤ)
          (tip.target.toNat *
            max (params.timespan.toInt / 4)
              (min (tip.time.toInt - windowStart.toInt)
                (min (4 * params.timespan.toInt) (2 ^ 63 - 1))) / params.timespan.toInt)) ∧
    (tip.time.toInt - windowStart.toInt = params.timespan.toInt → tip.bits.Canonical →
      tip.target ≤ params.limit →
      fixedWindowBits params tip windowStart = .ok tip.bits) := by
  refine ⟨fun keeps => fixedWindowBits_of_keepsBits keeps tip windowStart,
    fun moves => exists_fixedWindowBits_encode moves tip windowStart,
    fun onSchedule canonical within => ?_⟩
  by_cases keeps : params.KeepsBits
  · exact fixedWindowBits_of_keepsBits keeps tip windowStart
  · have positive : 0 < params.timespan.toInt := Int.not_le.1 fun low => keeps (Or.inr low)
    obtain ⟨target, answered, value⟩ := exists_fixedWindowBits_encode keeps tip windowStart
    have elapsed : tip.elapsed windowStart = params.timespan.toInt := onSchedule
    rw [elapsed, windowValue_self positive params.timespan.toInt_lt within] at value
    obtain rfl : target = tip.target := Target.ext (Int.ofNat_inj.1 value)
    exact answered.trans (congrArg _ canonical.encode_decode)

/-- A window of the main network on schedule keeps the bits of its tip. -/
theorem main_onSchedule_keepsBits :
    (⟨0x1d00ffff⟩ : Compact).Canonical ∧
    fixedWindowBits Network.main.params ⟨0, Network.main.params.timespan, ⟨0x1d00ffff⟩⟩ 0 =
      .ok ⟨0x1d00ffff⟩ := by
  have canonical : (⟨0x1d00ffff⟩ : Compact).Canonical :=
    Compact.encode_decode_eq_self_iff.1 (by decide +kernel)
  exact ⟨canonical, (fixedWindowBits_exact Network.main.params
    ⟨0, Network.main.params.timespan, ⟨0x1d00ffff⟩⟩ 0).2.2 rfl canonical (by decide +kernel)⟩

/-! ## Four-fold bounds -/

/-- A number held at a limit is a target. -/
theorem exists_toNat_eq_min (limit : Target) {n : ℤ} (nonneg : 0 ≤ n) :
    ∃ t : Target, (t.toNat : ℤ) = min (limit.toNat : ℤ) n := by
  have within := limit.toNat_lt
  refine ⟨min limit (Target.saturate n.toNat), ?_⟩
  rw [Target.toNat_min, Target.toNat_saturate]
  omega

/-- **A quarter of every target is left**, up to the limit, whatever the window. -/
def Params.LeavesQuarter (params : Params) : Prop :=
  ∀ tip windowStart, ∃ (bits : Compact) (quarter : Target),
    fixedWindowBits params tip windowStart = .ok bits ∧
    quarter.toNat = min params.limit.toNat (tip.target.toNat / 4) ∧
    quarter.encode.decode.target ≤ bits.decode.target

section Bounds

variable {params : Params} (positive : 0 < params.timespan.toInt) (moves : ¬ params.KeepsBits)

include positive moves

/-- **The answer read back lies between two targets**: what is encoded of the part that the shortest
duration leaves, and four times the target of the tip or the limit. -/
theorem exists_fixedWindowBits_between (tip : Header) (windowStart : Seconds) :
    ∃ (bits : Compact) (least : Target), fixedWindowBits params tip windowStart = .ok bits ∧
      bits.decode.target.toNat ≤ min params.limit.toNat (4 * tip.target.toNat) ∧
      (least.toNat : ℤ) = min (params.limit.toNat : ℤ)
        (tip.target.toNat * (params.timespan.toInt / 4) / params.timespan.toInt) ∧
      least.encode.decode.target ≤ bits.decode.target := by
  have part : 0 ≤ tip.target.toNat * (params.timespan.toInt / 4) / params.timespan.toInt :=
    Int.ediv_nonneg (mul_nonneg (Int.natCast_nonneg _) (Int.ediv_nonneg positive.le (by omega)))
      positive.le
  obtain ⟨target, answered, value⟩ := exists_fixedWindowBits_encode moves tip windowStart
  obtain ⟨least, leastValue⟩ := exists_toNat_eq_min params.limit part
  have above := windowValue_le params.limit.toNat tip.target.toNat positive
    (tip.elapsed windowStart)
  have below := le_windowValue params.limit.toNat tip.target.toNat positive
    (tip.elapsed windowStart)
  have readBack : target.encode.decode.target.toNat ≤ target.toNat := target.decode_encode_le
  refine ⟨target.encode, least, answered, by omega, leastValue, Target.decode_encode_mono ?_⟩
  rw [Target.le_def]
  omega

/-- A timespan that is a multiple of four leaves a quarter. -/
theorem leavesQuarter_of_dvd (whole : 4 ∣ params.timespan.toInt) : params.LeavesQuarter := by
  intro tip windowStart
  obtain ⟨bits, least, answered, -, value, below⟩ :=
    exists_fixedWindowBits_between positive moves tip windowStart
  rw [quarter_of_dvd positive whole] at value
  exact ⟨bits, least, answered, by omega, below⟩

/-- **No other timespan does**: a window that takes no time at all loses a target of four. -/
theorem dvd_of_leavesQuarter (limit : 0 < params.limit.toNat) (leaves : params.LeavesQuarter) :
    4 ∣ params.timespan.toInt := by
  by_contra fraction
  have four : (Compact.decode ⟨0x01040000⟩).target.toNat = 4 := by decide
  obtain ⟨bits, quarter, answered, value, below⟩ := leaves ⟨0, 0, ⟨0x01040000⟩⟩ 0
  obtain ⟨target, encoded, exact⟩ := exists_fixedWindowBits_encode moves ⟨0, 0, ⟨0x01040000⟩⟩ 0
  obtain rfl := Except.ok.inj (encoded.symm.trans answered)
  have quick : Header.elapsed ⟨0, 0, ⟨0x01040000⟩⟩ 0 ≤ params.timespan.toInt / 4 :=
    Int.ediv_nonneg positive.le (by omega)
  rw [Header.target, four] at value exact
  rw [windowValue_four fraction positive quick] at exact
  -- a quarter of four is one, which is encoded without loss; the answer is zero
  have kept : quarter.encode.decode.target = quarter := Target.decode_encode_of_lt (by omega)
  have readBack : target.encode.decode.target.toNat ≤ target.toNat := target.decode_encode_le
  rw [kept, Target.le_def] at below
  omega

end Bounds

/-- **The fixed-window rule at most quadruples a target, and takes no more away than the shortest
duration does.**  Under sound parameters with retargeting on, the answer read back is at most the
limit and four times the target of the tip, and at least what is encoded of the part that a quarter
of the timespan, without its fraction, makes of the whole.  A quarter of every target is left
exactly where the timespan is a multiple of four. -/
theorem fixedWindowBits_fourfold {params : Params} (accepted : params.violation? = none)
    (moving : params.noRetargeting = false) :
    (∀ tip windowStart, ∃ (bits : Compact) (least : Target),
      fixedWindowBits params tip windowStart = .ok bits ∧
      bits.decode.target.toNat ≤ min params.limit.toNat (4 * tip.target.toNat) ∧
      (least.toNat : ℤ) = min (params.limit.toNat : ℤ)
        (tip.target.toNat * (params.timespan.toInt / 4) / params.timespan.toInt) ∧
      least.encode.decode.target ≤ bits.decode.target) ∧
    (params.LeavesQuarter ↔ 4 ∣ params.timespan.toInt) := by
  obtain ⟨limit, positive, -⟩ := Params.violation?_eq_none_iff.1 accepted
  have moves := not_keepsBits moving positive
  exact ⟨exists_fixedWindowBits_between positive moves,
    dvd_of_leavesQuarter positive moves limit, leavesQuarter_of_dvd positive moves⟩

/-- The main network with windows of seven seconds, a quarter of which is one second. -/
def sevenSeconds : Params := { Network.main.params with timespan := 7 }

/-- A tip whose target is more than four times the limit of the main network. -/
def wideTip : Header := ⟨0, 0, ⟨0x1e400000⟩⟩

/-- The bounds hold for a window of seven seconds that took none of them, although less than a
quarter of its target is left. -/
theorem sevenSeconds_between :
    sevenSeconds.violation? = none ∧ sevenSeconds.noRetargeting = false ∧
    (∃ (bits : Compact) (least : Target), fixedWindowBits sevenSeconds wideTip 0 = .ok bits ∧
      bits.decode.target.toNat ≤ min sevenSeconds.limit.toNat (4 * wideTip.target.toNat) ∧
      (least.toNat : ℤ) = min (sevenSeconds.limit.toNat : ℤ) (wideTip.target.toNat * 1 / 7) ∧
      least.encode.decode.target ≤ bits.decode.target) ∧
    ¬ sevenSeconds.LeavesQuarter := by
  have accepted : sevenSeconds.violation? = none := by decide
  have bounds := fixedWindowBits_fourfold accepted rfl
  exact ⟨accepted, rfl, bounds.1 wideTip 0, fun leaves => absurd (bounds.2.1 leaves) (by decide)⟩

/-- A quarter of the wide tip is held at the limit, and a window of seven seconds that took none of
them answers with a seventh of the tip, which is less. -/
theorem sevenSeconds_leaves_seventh :
    sevenSeconds.violation? = none ∧ sevenSeconds.noRetargeting = false ∧
    fixedWindowBits sevenSeconds wideTip 0 = .ok ⟨0x1e092492⟩ ∧
    (min sevenSeconds.limit (Target.truncate (wideTip.target.toNat / 4))).encode = ⟨0x1e0fffff⟩ ∧
    ¬ (Compact.decode ⟨0x1e0fffff⟩).target ≤ (Compact.decode ⟨0x1e092492⟩).target := by
  refine ⟨by decide, rfl, ?_, ?_, ?_⟩ <;> decide +kernel

/-! ## Order -/

/-- **A slower window never makes mining harder.**  Of two retargets over the same timespan, the one
whose tip is no later, whose window began no earlier, and whose target and limit are no larger,
answers with bits that are no larger, as words and as targets. -/
theorem slower_window_no_harder {params₁ params₂ : Params} {tip₁ tip₂ : Header}
    {start₁ start₂ : Seconds} (moving₁ : params₁.noRetargeting = false)
    (moving₂ : params₂.noRetargeting = false) (timespan : params₁.timespan = params₂.timespan)
    (positive : 0 < params₁.timespan.toInt) (ends : tip₁.time ≤ tip₂.time)
    (starts : start₂ ≤ start₁) (targets : tip₁.target ≤ tip₂.target)
    (limits : params₁.limit ≤ params₂.limit) :
    ∃ bits₁ bits₂, fixedWindowBits params₁ tip₁ start₁ = .ok bits₁ ∧
      fixedWindowBits params₂ tip₂ start₂ = .ok bits₂ ∧ NoHarder bits₁ bits₂ := by
  have moves₁ := not_keepsBits moving₁ positive
  have moves₂ := not_keepsBits moving₂ (timespan ▸ positive)
  obtain ⟨target₁, answered₁, value₁⟩ := exists_fixedWindowBits_encode moves₁ tip₁ start₁
  obtain ⟨target₂, answered₂, value₂⟩ := exists_fixedWindowBits_encode moves₂ tip₂ start₂
  have longer : tip₁.elapsed start₁ ≤ tip₂.elapsed start₂ :=
    Int.sub_le_sub (Int64.le_iff_toInt_le.1 ends) (Int64.le_iff_toInt_le.1 starts)
  have values := windowValue_mono positive (Target.le_def.1 limits) (Target.le_def.1 targets) longer
  rw [← timespan] at value₂
  rw [← value₁, ← value₂, Int.ofNat_le] at values
  exact ⟨target₁.encode, target₂.encode, answered₁, answered₂,
    noHarder_encode (Target.le_def.2 values)⟩

/-- The regression network with the timespan of the main network, its retargeting switched on. -/
def thawedRegtest : Params :=
  { Network.regtest.params with timespan := Network.main.params.timespan, noRetargeting := false }

/-- The order stands where both differences of times are too long for a duration. -/
theorem longest_windows_in_order :
    ∃ bits₁ bits₂,
      fixedWindowBits Network.main.params ⟨7, Int64.minValue, ⟨0x1d00ffff⟩⟩ Int64.maxValue =
        .ok bits₁ ∧
      fixedWindowBits thawedRegtest ⟨3, Int64.maxValue, ⟨0x1d01ffff⟩⟩ Int64.minValue = .ok bits₂ ∧
      NoHarder bits₁ bits₂ :=
  slower_window_no_harder rfl rfl rfl (by decide) (by decide) (by decide) (by decide +kernel)
    (by decide +kernel)

end ProofOfWork
