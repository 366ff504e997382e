import ProofOfWork.Proofs.Acceptance
import ProofOfWork.Proofs.Compact.Canonical
import ProofOfWork.Proofs.Retarget.Walk
import ProofOfWork.Retarget.NextWork

/-!
# Proofs/Retarget/RequiredWork — what is required can be stated and, nearly always, met

    history ──▸ value ≤ limit ──encode──▸ bits ──decode──▸ target ≤ value

The required bits are the encoding of a value already held at the limit, and encoding neither rounds
up nor loses a nonzero value (`Proofs/Compact/Encoding`), so they are usable whatever the headers of
the history claim (`UsableWithin`).  Two exceptions remain, and both are exact: the fixed bits at the
bootstrap height do not look at the limit, and a value that collapses to zero is a target that no
hash meets.
-/

namespace ProofOfWork

/-- **Bits that a header can carry and a limit admits.** -/
structure UsableWithin (limit : Target) (bits : Compact) : Prop where
  unsigned : bits.word &&& 0x800000 = 0
  negative : bits.decode.negative = false
  overflow : bits.decode.overflow = false
  canonical : bits.decode.target.encode = bits
  within : bits.decode.target ≤ limit

theorem usableWithin_encode {t limit : Target} (within : t ≤ limit) :
    UsableWithin limit t.encode where
  unsigned := (Compact.sign_eq_false_iff _).1 t.sign_encode
  negative := t.decode_encode_negative
  overflow := t.decode_encode_overflow
  canonical := t.canonical_encode.encode_decode
  within := Nat.le_trans t.decode_encode_le within

/-- **Some hash meets an encoded target exactly when the target is not zero.** -/
theorem exists_meetsTarget_encode_iff {t : Target} {params : Params} (within : t ≤ params.limit) :
    (∃ hash, meetsTarget hash t.encode params = true) ↔ 0 < t.toNat := by
  have kept := t.magnitude_encode_eq_zero_iff
  have below := t.magnitude_encode_le
  rw [exists_meetsTarget_iff]
  constructor
  · rintro ⟨claim, usable, -⟩
    have := (Compact.validTarget?_eq_some_iff.1 usable).2.1
    omega
  · intro positive
    refine ⟨t.encode.decode.target, ?_, Nat.le_trans t.decode_encode_le within⟩
    exact Compact.validTarget?_eq_some_iff.2
      ⟨t.sign_encode, by omega, t.toNat_decode_encode⟩

/-! ## The bits of a report -/

/-- **The rule always answers**, with the encoding of a value within the limit. -/
theorem exists_report (window : Window) (params : Params) (history : List Header) :
    ∃ report, gravityWell window params history = .ok report ∧
      ∃ value : Target, value ≤ params.limit ∧ report.bits = value.encode := by
  by_cases short : TooShort window history
  · exact ⟨_, gravityWell_of_tooShort params short, params.limit, Nat.le_refl _, rfl⟩
  · cases history with
    | nil => exact absurd (fun tip absent => absurd absent (by simp)) short
    | cons tip older =>
      obtain ⟨report, reported, answers⟩ := gravityWell_of_not_tooShort params short
      obtain ⟨value, encoded, amount⟩ := answers.bits
      exact ⟨report, reported, value, Target.le_def.2 (by omega), encoded⟩

/-- **The bits of every report are usable within the limit.** -/
theorem gravityWell_usable (window : Window) (params : Params) (history : List Header) :
    ∃ report, gravityWell window params history = .ok report ∧
      UsableWithin params.limit report.bits := by
  obtain ⟨report, reported, value, within, encoded⟩ := exists_report window params history
  exact ⟨report, reported, encoded ▸ usableWithin_encode within⟩

theorem tooShort_deployed_iff {tip : Header} {older : List Header} :
    TooShort Window.deployed (tip :: older) ↔ tip.height < 144 := by
  constructor
  · intro short
    have low : tip.height = 0 ∨ tip.height < 144 := short tip rfl
    omega
  · rintro low _ ⟨⟩
    exact Or.inr low

/-- **When a scaled mean is not lost**: the mean is not zero and, where both durations have passed,
its multiple by the observed one reaches the designed one. -/
theorem scaledMean_pos_iff (mean : ℕ) (observed designed : ℤ) :
    0 < scaledMean mean observed designed ↔
      0 < mean ∧ (0 < observed → 0 < designed → designed ≤ mean * observed) := by
  unfold scaledMean
  split
  · rename_i passed
    obtain ⟨o, rfl⟩ := Int.eq_ofNat_of_zero_le passed.1.le
    obtain ⟨d, rfl⟩ := Int.eq_ofNat_of_zero_le passed.2.le
    have divisor : 0 < d := by omega
    have quotient : 0 < mean * o / d ↔ d ≤ mean * o := Nat.div_pos_iff.trans (by omega)
    rw [Int.toNat_natCast, Int.toNat_natCast, ← Nat.cast_mul, Nat.cast_le]
    constructor
    · intro positive
      have reached := quotient.1 (by omega)
      refine ⟨Nat.pos_of_ne_zero ?_, fun _ _ => reached⟩
      rintro rfl
      omega
    · rintro ⟨-, reached⟩
      have := quotient.2 (reached passed.1 passed.2)
      omega
  · rename_i still
    exact ⟨fun positive => ⟨positive, fun o d => absurd ⟨o, d⟩ still⟩, fun kept => kept.1⟩

/-- **The value before encoding decides whether the required bits can be met.** -/
theorem exists_meetsTarget_report_iff {window : Window} {params : Params} {tip : Header}
    {older : List Header} {report : Report} (limit : 0 < params.limit.toNat)
    (reported : gravityWell window params (tip :: older) = .ok report) :
    (∃ hash, meetsTarget hash report.bits params = true) ↔
      TooShort window (tip :: older) ∨
        0 < min params.limit.toNat
          (scaledMean (runningMean (nthTarget tip older) report.samples)
            (exactLag tip (nthBlock tip older report.samples)) (exactSpan window report.samples)) := by
  by_cases short : TooShort window (tip :: older)
  · obtain rfl := Except.ok.inj ((gravityWell_of_tooShort params short).symm.trans reported)
    exact iff_of_true ((exists_meetsTarget_encode_iff (Nat.le_refl _)).2 limit) (Or.inl short)
  · obtain ⟨_, answered, answers⟩ := gravityWell_of_not_tooShort params short
    obtain rfl := Except.ok.inj (reported.symm.trans answered)
    obtain ⟨value, encoded, amount⟩ := answers.bits
    rw [encoded, exists_meetsTarget_encode_iff (Target.le_def.2 (by omega)), amount,
      or_iff_right short]

/-! ## The bits of the next block -/

theorem nextWork_of_report {params : Params} {tip : Header} {older : List Header}
    {report : Report} (elsewhere : tip.height ≠ 160)
    (reported : gravityWell Window.deployed params (tip :: older) = .ok report) :
    nextWork params tip older = .ok report.bits := by
  have rule : nextWork params tip older =
      (gravityWell Window.deployed params (tip :: older)).map Report.bits := if_neg elsewhere
  rw [rule, reported]
  rfl

theorem decode_bootstrapBits_flags :
    bootstrapBits.decode.negative = false ∧ bootstrapBits.decode.overflow = false := by
  decide +kernel

/-- **What the next block needs is readable, and within the limit but for the fixed bits** under a
limit that is harder than they are. -/
theorem nextWork_usable (params : Params) (tip : Header) (older : List Header) :
    ∃ bits, nextWork params tip older = .ok bits ∧
      bits.decode.negative = false ∧ bits.decode.overflow = false ∧
      (bits.decode.target ≤ params.limit ↔
        ¬ (tip.height = 160 ∧ params.limit < bootstrapBits.decode.target)) := by
  by_cases fixed : tip.height = 160
  · refine ⟨bootstrapBits, if_pos fixed, decode_bootstrapBits_flags.1,
      decode_bootstrapBits_flags.2, ?_⟩
    rw [← Target.not_lt, not_and]
    exact ⟨fun within _ => within, fun within => within fixed⟩
  · obtain ⟨report, reported, usable⟩ :=
      gravityWell_usable Window.deployed params (tip :: older)
    exact ⟨report.bits, nextWork_of_report fixed reported, usable.negative, usable.overflow,
      iff_of_true usable.within fun exception => fixed exception.1⟩

/-- **The required bits are usable and within the limit, but for the fixed bits under a harder
limit; and some hash meets them, but for a value that collapsed to zero.**  The value is that of the
report which the branch calls for, at the least number of samples that ends its walk. -/
theorem requiredWork_usable (params : Params) :
    (∀ window history, ∃ report, gravityWell window params history = .ok report ∧
      UsableWithin params.limit report.bits) ∧
    (∀ tip older, ∃ bits, nextWork params tip older = .ok bits ∧
      bits.decode.negative = false ∧ bits.decode.overflow = false ∧
      (bits.decode.target ≤ params.limit ↔
        ¬ (tip.height = 160 ∧ params.limit < bootstrapBits.decode.target))) ∧
    ∀ tip older, params.limit ≠ Target.zero → tip.height ≠ 160 →
      ∃ report, gravityWell Window.deployed params (tip :: older) = .ok report ∧
        nextWork params tip older = .ok report.bits ∧
        (144 ≤ tip.height → Answers Window.deployed tip older params.limit report) ∧
        let mean := runningMean (nthTarget tip older) report.samples
        let observed := exactLag tip (nthBlock tip older report.samples)
        let designed := exactSpan Window.deployed report.samples
        ((∃ hash, meetsTarget hash report.bits params = true) ↔
          tip.height < 144 ∨ 0 < min params.limit.toNat (scaledMean mean observed designed)) ∧
        (0 < min params.limit.toNat (scaledMean mean observed designed) ↔
          0 < mean ∧ (0 < observed → 0 < designed → designed ≤ mean * observed)) := by
  refine ⟨fun window history => gravityWell_usable window params history, nextWork_usable params,
    fun tip older nonzero elsewhere => ?_⟩
  obtain ⟨report, reported, -⟩ := exists_report Window.deployed params (tip :: older)
  have limit : 0 < params.limit.toNat :=
    Nat.pos_of_ne_zero fun zero => nonzero (Target.ext zero)
  refine ⟨report, reported, nextWork_of_report elsewhere reported, fun high => ?_, ?_, ?_⟩
  · have long : ¬ TooShort Window.deployed (tip :: older) :=
      mt tooShort_deployed_iff.1 (Nat.not_lt.2 high)
    obtain ⟨_, answered, answers⟩ := gravityWell_of_not_tooShort params long
    rwa [Except.ok.inj (reported.symm.trans answered)]
  · rw [exists_meetsTarget_report_iff limit reported, tooShort_deployed_iff]
  · rw [lt_min_iff, scaledMean_pos_iff, and_iff_right limit]

end ProofOfWork
