import ProofOfWork.Proofs.Compact.Encoding

/-!
# Proofs/Compact/Rounding — encoding rounds down, and to the nearest magnitude there is

    t ──encode──▸ word ──decode──▸ ⌊t⌋,   the greatest magnitude of any word that is at most t

Two targets either have the same exponent, and then their mantissas compare as they do, or the one
with the smaller exponent lies below everything that is kept of the other
(`FitsExponent.lt_keptPart`).  So encoding is monotone, in the word as in the magnitude.  A
magnitude that some word carries is kept whole, whatever exponent that word has
(`Compact.pow_dvd_magnitude_mul`); monotony then puts it below the encoding of every target that it
does not exceed.
-/

namespace ProofOfWork

/-! ## Two numbers and their exponents -/

namespace FitsExponent

/-- A number with a smaller exponent lies below all that is kept of the other. -/
theorem lt_keptPart {a b e f : ℕ} (fits : FitsExponent a e) (fits' : FitsExponent b f)
    (less : e < f) : a < keptPart b f := by
  have nonzero := fits'.ne_zero (Nat.zero_lt_of_lt less)
  have power := byte_mul_pow_le less
  have mantissa := Nat.mul_le_mul_right (256 ^ f) (fits'.le_mantissa nonzero)
  have kept := keptPart_mul b f
  have below := fits.below
  omega

/-- **What is kept grows with the number.** -/
theorem keptPart_mono {a b e f : ℕ} (fits : FitsExponent a e) (fits' : FitsExponent b f)
    (le : a ≤ b) : keptPart a e ≤ keptPart b f := by
  rcases (fits.mono fits' le).lt_or_eq with less | rfl
  · exact Nat.le_trans (keptPart_le a e) (fits.lt_keptPart fits' less).le
  · have mantissa : a * 256 ^ 3 / 256 ^ e ≤ b * 256 ^ 3 / 256 ^ e :=
      Nat.div_le_div_right (Nat.mul_le_mul_right _ le)
    exact Nat.div_le_div_right (Nat.mul_le_mul_right _ mantissa)

/-- **What is dropped of a number is less than its `2 ^ 15`-th part**: less than one unit of a
mantissa that counts at least `2 ^ 15` of them. -/
theorem loss_lt {n e : ℕ} (fits : FitsExponent n e) (nonzero : n ≠ 0) :
    (n - keptPart n e) * 2 ^ 15 < n := by
  have kept := keptPart_mul n e
  have above := fits.above nonzero
  have split := Nat.div_add_mod' (n * 256 ^ 3) (256 ^ e)
  have rest : n * 256 ^ 3 % 256 ^ e < 256 ^ e := Nat.mod_lt _ (Nat.pow_pos (by omega))
  omega

/-- A number of two bytes has no exponent above three. -/
theorem le_three {n e : ℕ} (fits : FitsExponent n e) (small : n < 2 ^ 16) : e ≤ 3 := by
  by_contra large
  have above := fits.above (fits.ne_zero (by omega))
  have power : 256 ^ 4 ≤ 256 ^ e := Nat.pow_le_pow_right (by omega) (by omega)
  omega

end FitsExponent

/-- Nothing is dropped where the mantissa is a whole number. -/
theorem keptPart_eq_self {n e : ℕ} (whole : 256 ^ e ∣ n * 256 ^ 3) : keptPart n e = n := by
  rw [keptPart, Nat.div_mul_cancel whole, Nat.mul_div_cancel _ (by omega)]

/-- Below exponent three nothing is dropped. -/
theorem keptPart_of_le_three {n e : ℕ} (small : e ≤ 3) : keptPart n e = n :=
  keptPart_eq_self (Nat.dvd_mul_left_of_dvd (Nat.pow_dvd_pow 256 small) n)

namespace Compact

/-- **A magnitude has no larger exponent than the word it stands in.** -/
theorem le_exponent_of_fits {c : Compact} {e : ℕ} (fits : FitsExponent c.magnitude e) :
    e ≤ c.exponent := by
  by_contra less
  have power := byte_mul_pow_le (Nat.lt_of_not_le less)
  have above := fits.above (fits.ne_zero (by omega))
  have carried : c.magnitude * 256 ^ 3 ≤ c.mantissa * 256 ^ c.exponent := by
    rw [magnitude_eq_div]
    exact Nat.div_mul_le_self _ _
  have short : c.mantissa * 256 ^ c.exponent < 2 ^ 23 * 256 ^ c.exponent :=
    Nat.mul_lt_mul_of_pos_right c.mantissa_lt (Nat.pow_pos (by omega))
  omega

/-- **The magnitude of a word is a whole mantissa under its own exponent**, although the word may
carry it under another. -/
theorem pow_dvd_magnitude_mul {c : Compact} {e : ℕ} (fits : FitsExponent c.magnitude e) :
    256 ^ e ∣ c.magnitude * 256 ^ 3 := by
  rcases Nat.lt_or_ge 3 e with large | small
  · have within := le_exponent_of_fits fits
    rw [magnitude_eq_div,
      Nat.div_mul_cancel (Nat.dvd_mul_left_of_dvd (Nat.pow_dvd_pow 256 (by omega)) _)]
    exact Nat.dvd_mul_left_of_dvd (Nat.pow_dvd_pow 256 within) _
  · exact Nat.dvd_mul_left_of_dvd (Nat.pow_dvd_pow 256 small) _

end Compact

/-! ## Encoded targets -/

namespace Target

/-- **Encoding keeps the order, as plain words.** -/
theorem word_encode_mono {a b : Target} (le : a ≤ b) : a.encode.word ≤ b.encode.word := by
  obtain ⟨e, fits, word, -, -⟩ := a.encode_spec
  obtain ⟨f, fits', word', -, -⟩ := b.encode_spec
  rw [UInt32.le_iff_toNat_le, word, word']
  rcases (fits.mono fits' le).lt_or_eq with less | rfl
  · have short := fits.mantissa_lt
    calc a.toNat * 256 ^ 3 / 256 ^ e + e * 2 ^ 24
        ≤ (e + 1) * 2 ^ 24 := by omega
      _ ≤ f * 2 ^ 24 := Nat.mul_le_mul_right _ less
      _ ≤ b.toNat * 256 ^ 3 / 256 ^ f + f * 2 ^ 24 := Nat.le_add_left _ _
  · exact Nat.add_le_add_right (Nat.div_le_div_right (Nat.mul_le_mul_right _ le)) _

theorem magnitude_encode_mono {a b : Target} (le : a ≤ b) :
    a.encode.magnitude ≤ b.encode.magnitude := by
  obtain ⟨e, fits, -, -, kept⟩ := a.encode_spec
  obtain ⟨f, fits', -, -, kept'⟩ := b.encode_spec
  rw [kept, kept']
  exact fits.keptPart_mono fits' le

/-- **Encoding keeps the order, as targets read back.** -/
theorem decode_encode_mono {a b : Target} (le : a ≤ b) :
    a.encode.decode.target ≤ b.encode.decode.target := by
  rw [le_def, toNat_decode_encode, toNat_decode_encode]
  exact magnitude_encode_mono le

/-- A target that some word carries is encoded without loss. -/
theorem magnitude_encode_of_eq {t : Target} {c : Compact} (same : t.toNat = c.magnitude) :
    t.encode.magnitude = t.toNat := by
  obtain ⟨e, fits, -, -, kept⟩ := t.encode_spec
  rw [same] at fits kept ⊢
  rw [kept, keptPart_eq_self (Compact.pow_dvd_magnitude_mul fits)]

/-- **A word without overflow is read, encoded and read again as at first.** -/
theorem decode_encode_decode {c : Compact} (fits : c.decode.overflow = false) :
    c.decode.target.encode.decode.target = c.decode.target := by
  have narrow : c.magnitude < 2 ^ 256 := by
    rw [← Nat.not_le, ← Compact.decode_overflow_iff, fits]
    exact Bool.false_ne_true
  ext
  rw [toNat_decode_encode, magnitude_encode_of_eq (Compact.toNat_decode_target_of_lt narrow)]

theorem loss_encode_lt {t : Target} (nonzero : t.toNat ≠ 0) :
    (t.toNat - t.encode.decode.target.toNat) * 2 ^ 15 < t.toNat := by
  obtain ⟨e, fits, -, -, kept⟩ := t.encode_spec
  rw [toNat_decode_encode, kept]
  exact fits.loss_lt nonzero

theorem decode_encode_of_lt {t : Target} (small : t.toNat < 2 ^ 16) :
    t.encode.decode.target = t := by
  obtain ⟨e, fits, -, -, kept⟩ := t.encode_spec
  ext
  rw [toNat_decode_encode, kept, keptPart_of_le_three (fits.le_three small)]

/-- **Encoding is the best approximation from below.**  The word of a target is unsigned and decodes
without a flag to the greatest target, among those that any word without overflow carries, that does
not exceed it; less than a `2 ^ 15`-th part is lost, nothing below `2 ^ 16`, and nothing of what a
word carries. -/
theorem encode_greatest_below :
    (∀ t : Target,
      t.encode.word &&& 0x800000 = 0 ∧
      t.encode.decode.negative = false ∧
      t.encode.decode.overflow = false ∧
      t.encode.decode.target ≤ t ∧
      (∀ c : Compact, c.decode.overflow = false → c.decode.target ≤ t →
        c.decode.target ≤ t.encode.decode.target) ∧
      (t.toNat - t.encode.decode.target.toNat) * 2 ^ 15 ≤ t.toNat ∧
      (0 < t.toNat → (t.toNat - t.encode.decode.target.toNat) * 2 ^ 15 < t.toNat) ∧
      (t.toNat < 2 ^ 16 → t.toNat - t.encode.decode.target.toNat = 0)) ∧
    ∀ c : Compact, c.decode.overflow = false →
      c.decode.target.encode.decode.target = c.decode.target := by
  refine ⟨fun t => ⟨(Compact.sign_eq_false_iff _).1 t.sign_encode, t.decode_encode_negative,
    t.decode_encode_overflow, t.decode_encode_le, fun c fits below => ?_, ?_, fun positive => ?_,
    fun small => ?_⟩, fun c fits => decode_encode_decode fits⟩
  · rw [← decode_encode_decode fits]
    exact decode_encode_mono below
  · rcases Nat.eq_zero_or_pos t.toNat with zero | positive
    · rw [zero, Nat.zero_sub, Nat.zero_mul]
    · exact (loss_encode_lt positive.ne').le
  · exact loss_encode_lt positive.ne'
  · rw [decode_encode_of_lt small, Nat.sub_self]

end Target

end ProofOfWork
