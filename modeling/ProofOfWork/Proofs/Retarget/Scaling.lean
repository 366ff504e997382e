import ProofOfWork.Params.Network
import ProofOfWork.Proofs.Retarget.Walk
import ProofOfWork.Retarget.FixedWindow
import ProofOfWork.Target.Compact

/-!
# Proofs/Retarget/Scaling — one scaling on two widths

    a · n fits ──checked product──▸ ÷ d ─────────────────────────▸ q
    a · n wide ──full product─────▸ ÷ d ──held at the top────────▸ q      min q limit, exact

`Target.mulDiv` never forms a product that does not fit, and still agrees with the checked product
and its quotient wherever there is one (`Target.mulDiv_of_mulSmall?`).  Beyond, it is the quotient of
unbounded integers, held at the largest target: a monotone function of it, so its order laws are
those of the quotient (`Target.mulDiv_mono`).  No limit lies above the largest target, and both
retargeting rules take the smaller of the two, so the holding is seen in neither
(`fixedWindowBits_unheld`, `gravityWell_unheld`).
-/

namespace ProofOfWork

namespace Target

variable {a b p q r : Target} {n m d e : ℕ}

/-! ## The quotient -/

/-- What is held at the largest target is not seen under a limit. -/
theorem min_held (limit : Target) (k : ℕ) :
    min limit.toNat (min k (2 ^ 256 - 1)) = min limit.toNat k := by
  have := limit.toNat_lt
  omega

theorem toNat_of_mulDiv (positive : 0 < d) (scaled : a.mulDiv n d = .ok q) :
    q.toNat = min (a.toNat * n / d) (2 ^ 256 - 1) := by
  rw [mulDiv_of_pos a n positive, Except.ok.injEq] at scaled
  rw [← scaled, toNat_saturate]

/-- **The wide path agrees with the checked one** wherever the product fits. -/
theorem mulDiv_of_mulSmall? (product : a.mulSmall? n = some p) : a.mulDiv n d = p.divSmall d := by
  have value := mulSmall?_eq_some_iff.1 product
  rcases Nat.eq_zero_or_pos d with rfl | positive
  · rfl
  · obtain ⟨q, divided, quotient⟩ := p.divSmall_of_pos positive
    have shrinks := Nat.div_le_self p.toNat d
    have fits := p.toNat_lt
    rw [mulDiv_of_pos a n positive, divided, Except.ok.injEq, Target.ext_iff, toNat_saturate,
      quotient, ← value]
    omega

/-- **A part of a target is exact**, however wide the product. -/
theorem toNat_of_mulDiv_of_le (positive : 0 < d) (part : n ≤ d) (scaled : a.mulDiv n d = .ok q) :
    q.toNat = a.toNat * n / d := by
  have below : a.toNat * n / d ≤ a.toNat :=
    calc a.toNat * n / d
        ≤ a.toNat * d / d := Nat.div_le_div_right (Nat.mul_le_mul_left _ part)
      _ = a.toNat := Nat.mul_div_cancel _ positive
  have fits := a.toNat_lt
  rw [toNat_of_mulDiv positive scaled]
  omega

/-- **The whole of a target is the target.** -/
theorem eq_of_mulDiv_self (positive : 0 < d) (scaled : a.mulDiv d d = .ok q) : q = a := by
  rw [Target.ext_iff, toNat_of_mulDiv_of_le positive (Nat.le_refl d) scaled,
    Nat.mul_div_cancel _ positive]

/-- **Scaling grows with the target and the multiplier and falls with the divisor**, also where one
of two quotients is held and the other is not. -/
theorem mulDiv_mono (targets : a ≤ b) (multipliers : n ≤ m) (divisors : e ≤ d) (positive : 0 < e)
    (scaled₁ : a.mulDiv n d = .ok q) (scaled₂ : b.mulDiv m e = .ok r) : q ≤ r := by
  have quotients : a.toNat * n / d ≤ b.toNat * m / e :=
    Nat.div_le_div (Nat.mul_le_mul targets multipliers) divisors positive.ne'
  rw [le_def, toNat_of_mulDiv (Nat.lt_of_lt_of_le positive divisors) scaled₁,
    toNat_of_mulDiv positive scaled₂]
  omega

/-- **Under a limit the quotient is exact.** -/
theorem toNat_min_of_mulDiv (positive : 0 < d) (scaled : a.mulDiv n d = .ok q) (limit : Target) :
    (min q limit).toNat = min (a.toNat * n / d) limit.toNat := by
  rw [toNat_min, toNat_of_mulDiv positive scaled, Nat.min_comm, min_held, Nat.min_comm]

end Target

/-! ## The two rules -/

/-- **The fixed-window rule shows nothing of the holding.** -/
theorem fixedWindowBits_unheld {params : Params} (moves : ¬ params.KeepsBits) (tip : Header)
    (windowStart : Seconds) :
    ∃ (held : Seconds) (target : Target),
      boundedTimespan params (tip.time.since windowStart) = .ok held ∧
      fixedWindowBits params tip windowStart = .ok target.encode ∧
      target.toNat = min params.limit.toNat
        (tip.target.toNat * held.toNat / params.timespan.toNat) := by
  obtain ⟨held, target, bounded, answered, value⟩ :=
    fixedWindowBits_of_not_keepsBits moves tip windowStart
  exact ⟨held, target, bounded, answered, by rw [value, Nat.min_comm, Target.min_held]⟩

/-- **A mean scaled by observed over designed seconds**, where both have passed, however large. -/
def unheldMean (mean : ℕ) (observed designed : ℤ) : ℕ :=
  if 0 < observed ∧ 0 < designed then mean * observed.toNat / designed.toNat else mean

theorem min_scaledMean (limit : Target) (mean : ℕ) (observed designed : ℤ) :
    min limit.toNat (scaledMean mean observed designed) =
      min limit.toNat (unheldMean mean observed designed) := by
  rw [scaledMean, unheldMean]
  split
  · exact Target.min_held limit _
  · rfl

/-- **Nor does the Gravity Well.** -/
theorem gravityWell_unheld {window : Window} {tip : Header} {older : List Header} (params : Params)
    (long : ¬ TooShort window (tip :: older)) :
    ∃ (report : Report) (target : Target), gravityWell window params (tip :: older) = .ok report ∧
      Answers window tip older params.limit report ∧ report.bits = target.encode ∧
      target.toNat = min params.limit.toNat
        (unheldMean (runningMean (nthTarget tip older) report.samples)
          (exactLag tip (nthBlock tip older report.samples)) (exactSpan window report.samples)) := by
  obtain ⟨report, reported, answers⟩ := gravityWell_of_not_tooShort params long
  obtain ⟨target, encoded, value⟩ := answers.bits
  exact ⟨report, target, reported, answers, encoded, by rw [value, min_scaledMean]⟩

/-- **Scaling at full width is exact wherever it can be told.**  It agrees with the checked product
and its quotient where the product fits, and is the exact quotient, held at the largest target, where
it does not; a part of a target is never held, and the whole of it is the target itself.  It grows
with the target and the multiplier and falls with the divisor.  The smaller of the quotient and any
limit is exact, and so are the targets that both rules encode: of the held duration over the
timespan, and of the lag over the span at the least number of samples that ends a walk. -/
theorem wide_scaling_exact (a : Target) (n : ℕ) {d : ℕ} (positive : 0 < d) :
    (∃ q, a.mulDiv n d = .ok q ∧
      (∀ p, a.mulSmall? n = some p → p.divSmall d = .ok q) ∧
      (a.mulSmall? n = none → q.toNat = min (a.toNat * n / d) (2 ^ 256 - 1)) ∧
      (n ≤ d → q.toNat = a.toNat * n / d) ∧ (n = d → q = a) ∧
      (∀ (b : Target) (m e : ℕ), a ≤ b → n ≤ m → e ≤ d → 0 < e →
        ∃ r, b.mulDiv m e = .ok r ∧ q ≤ r) ∧
      ∀ limit : Target, (min q limit).toNat = min (a.toNat * n / d) limit.toNat) ∧
    (∀ (params : Params) (tip : Header) (windowStart : Seconds), ¬ params.KeepsBits →
      ∃ (held : Seconds) (target : Target),
        boundedTimespan params (tip.time.since windowStart) = .ok held ∧
        fixedWindowBits params tip windowStart = .ok target.encode ∧
        target.toNat = min params.limit.toNat
          (tip.target.toNat * held.toNat / params.timespan.toNat)) ∧
    ∀ (window : Window) (params : Params) (tip : Header) (older : List Header),
      ¬ TooShort window (tip :: older) →
      ∃ (report : Report) (target : Target), gravityWell window params (tip :: older) = .ok report ∧
        Answers window tip older params.limit report ∧ report.bits = target.encode ∧
        target.toNat = min params.limit.toNat
          (unheldMean (runningMean (nthTarget tip older) report.samples)
            (exactLag tip (nthBlock tip older report.samples)) (exactSpan window report.samples)) := by
  refine ⟨⟨_, Target.mulDiv_of_pos a n positive, ?_⟩,
    fun params tip start moves => fixedWindowBits_unheld moves tip start,
    fun window params tip older long => gravityWell_unheld params long⟩
  have scaled := Target.mulDiv_of_pos a n positive
  refine ⟨fun p product => ?_, fun _ => Target.toNat_of_mulDiv positive scaled,
    fun part => Target.toNat_of_mulDiv_of_le positive part scaled, ?_,
    fun b m e targets multipliers divisors divisor => ?_, Target.toNat_min_of_mulDiv positive scaled⟩
  · rw [← Target.mulDiv_of_mulSmall? product, scaled]
  · rintro rfl
    exact Target.eq_of_mulDiv_self positive scaled
  · have larger := Target.mulDiv_of_pos b m divisor
    exact ⟨_, larger, Target.mulDiv_mono targets multipliers divisors divisor scaled larger⟩

/-- A target near the top, scaled by more than four thousand, is held at the largest target, and
under the limit of the main network nothing is seen of it. -/
theorem near_top_scaled_within_limit :
    0 < 4 ∧ ∃ q, (Compact.decode ⟨0x207fffff⟩).target.mulSmall? 17160 = none ∧
      (Compact.decode ⟨0x207fffff⟩).target.mulDiv 17160 4 = .ok q ∧ q = Target.largest ∧
      (min q Network.main.params.limit).toNat =
        min ((Compact.decode ⟨0x207fffff⟩).target.toNat * 17160 / 4)
          Network.main.params.limit.toNat := by
  have positive : 0 < 4 := by decide
  have wide : (Compact.decode ⟨0x207fffff⟩).target.mulSmall? 17160 = none := by decide +kernel
  obtain ⟨⟨q, scaled, -, held, -, -, -, within⟩, -⟩ :=
    wide_scaling_exact (Compact.decode ⟨0x207fffff⟩).target 17160 positive
  have top : min ((Compact.decode ⟨0x207fffff⟩).target.toNat * 17160 / 4) (2 ^ 256 - 1) =
      2 ^ 256 - 1 := by decide +kernel
  exact ⟨positive, q, wide, scaled, Target.ext ((held wide).trans top), within _⟩

end ProofOfWork
