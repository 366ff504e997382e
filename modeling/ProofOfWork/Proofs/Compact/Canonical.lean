import Mathlib.Data.Set.Operations
import ProofOfWork.Proofs.Compact.Rounding

/-!
# Proofs/Compact/Canonical — the words that encoding writes

    canonical word ──decode──▸ target ──encode──▸ the same word

A word is **canonical** when it is zero, or unsigned with a mantissa of at least sixteen bits, all
of which its exponent keeps and none of which it lifts past bit 255 (`Canonical`).  Such a mantissa
is that of the magnitude under its one exponent (`FullMantissa.fits`), so encoding finds the word
again; and encoding writes no other words (`canonical_encode`).  Hence the round trip is the identity
on these words and on no others, and each magnitude that some word carries has one canonical word.
-/

namespace ProofOfWork

namespace Compact

/-- **A mantissa of full length under its exponent**: sixteen bits or more, none at the place of the
sign, nothing that an exponent below three drops, and nothing past bit 255. -/
structure FullMantissa (exponent mantissa : ℕ) : Prop where
  nonzero : 1 ≤ exponent
  within : exponent ≤ 33
  long : 0x8000 ≤ mantissa
  short : mantissa ≤ 0x7fffff
  oneByte : exponent = 1 → 0x10000 ≤ mantissa ∧ 0x10000 ∣ mantissa
  twoBytes : exponent = 2 → 0x100 ∣ mantissa
  widest : exponent = 33 → mantissa ≤ 0xffff

/-- **The one word to write a magnitude with**: zero, or a mantissa of full length, read off the top
byte and the low 24 bits. -/
def Canonical (c : Compact) : Prop :=
  c.word = 0 ∨ FullMantissa (c.word >>> 24).toNat (c.word &&& 0xffffff).toNat

/-! ## Canonical words by their fields -/

theorem toNat_and_low24 (c : Compact) : (c.word &&& 0xffffff).toNat = c.word.toNat % 2 ^ 24 := by
  rw [UInt32.toNat_and]
  exact Nat.and_two_pow_sub_one_eq_mod c.word.toNat 24

/-- A word whose low 24 bits are a mantissa of full length is made of its exponent and these. -/
theorem eq_ofFields_of_full {c : Compact}
    (full : FullMantissa (c.word >>> 24).toNat (c.word &&& 0xffffff).toNat) :
    c = ofFields c.exponent c.mantissa ∧ FullMantissa c.exponent c.mantissa := by
  have short := full.short
  rw [← exponent_eq_shiftRight, toNat_and_low24] at full
  rw [toNat_and_low24] at short
  have mantissa : c.word.toNat % 2 ^ 24 = c.mantissa := by
    unfold Compact.mantissa
    omega
  rw [mantissa] at full
  refine ⟨?_, full⟩
  have same : c.word.toNat = (ofFields c.exponent c.mantissa).word.toNat := by
    rw [word_ofFields c.exponent_lt c.mantissa_lt]
    unfold exponent
    omega
  exact congrArg mk (UInt32.toNat_inj.1 same)

theorem canonical_ofFields {e m : ℕ} (full : FullMantissa e m) : (ofFields e m).Canonical := by
  have byte : e < 256 := Nat.lt_of_le_of_lt full.within (by omega)
  have short : m < 2 ^ 23 := Nat.lt_succ_of_le full.short
  have low : (ofFields e m).word.toNat % 2 ^ 24 = m := by
    rw [word_ofFields byte short]
    omega
  refine Or.inr ?_
  rwa [toNat_and_low24, low, ← exponent_eq_shiftRight, exponent_ofFields byte short]

/-! ## Full mantissas -/

namespace FullMantissa

variable {e m : ℕ} (full : FullMantissa e m)

include full

/-- **Nothing of a full mantissa is dropped.** -/
theorem pow_dvd : 256 ^ 3 ∣ m * 256 ^ e := by
  rcases Nat.lt_or_ge e 3 with small | large
  · obtain rfl | rfl : e = 1 ∨ e = 2 := by
      have := full.nonzero
      omega
    · exact Nat.mul_dvd_mul_right (full.oneByte rfl).2 256
    · exact Nat.mul_dvd_mul_right (full.twoBytes rfl) (256 ^ 2)
  · exact Nat.dvd_mul_left_of_dvd (Nat.pow_dvd_pow 256 large) m

theorem div_mul_cancel : m * 256 ^ e / 256 ^ 3 * 256 ^ 3 = m * 256 ^ e :=
  Nat.div_mul_cancel full.pow_dvd

/-- **Its exponent is that of the magnitude.** -/
theorem fits : FitsExponent (m * 256 ^ e / 256 ^ 3) e where
  below := by
    rw [full.div_mul_cancel]
    exact Nat.mul_lt_mul_of_pos_right (Nat.lt_succ_of_le full.short) (Nat.pow_pos (by omega))
  above _ := by
    rw [full.div_mul_cancel]
    exact Nat.mul_le_mul_right _ full.long
  zero gone := by
    have product := full.div_mul_cancel
    have mantissa := full.long
    rw [gone, Nat.zero_mul, eq_comm, Nat.mul_eq_zero] at product
    have power : 256 ^ e ≠ 0 := (Nat.pow_pos (by omega)).ne'
    omega

/-- **The magnitude is no wider than a target**: at exponent 33 sixteen bits are left for the
mantissa. -/
theorem lt_two_pow : m * 256 ^ e / 256 ^ 3 < 2 ^ 256 := by
  refine Nat.div_lt_of_lt_mul ?_
  rcases Nat.lt_or_ge e 33 with narrow | wide
  · have power : 256 ^ e ≤ 256 ^ 32 := Nat.pow_le_pow_right (by omega) (by omega)
    have product := Nat.mul_le_mul full.short power
    omega
  · obtain rfl : e = 33 := Nat.le_antisymm full.within wide
    have := full.widest rfl
    omega

end FullMantissa

end Compact

/-- **The mantissa of a number under its exponent is full.**  Exponents one and two shift the number
up by whole bytes; a number of 256 bits has exponent 33 at most, and sixteen bits are left there. -/
theorem FitsExponent.full {t : Target} {e : ℕ} (fits : FitsExponent t.toNat e)
    (nonzero : t.toNat ≠ 0) : Compact.FullMantissa e (t.toNat * 256 ^ 3 / 256 ^ e) := by
  have width := t.toNat_lt
  have long := fits.le_mantissa nonzero
  have within : e ≤ 33 := by
    by_contra large
    have above := fits.above nonzero
    have power : 256 ^ 34 ≤ 256 ^ e := Nat.pow_le_pow_right (by omega) (by omega)
    omega
  refine
    { nonzero := Nat.pos_of_ne_zero ?_
      within := within
      long := long
      short := Nat.le_of_lt_succ fits.mantissa_lt
      oneByte := ?_
      twoBytes := ?_
      widest := ?_ }
  · rintro rfl
    have below := fits.below
    omega
  · rintro rfl
    omega
  · rintro rfl
    omega
  · rintro rfl
    omega

namespace Target

/-- **Encoding under a known exponent.** -/
theorem encode_eq_ofFields {t : Target} {e : ℕ} (fits : FitsExponent t.toNat e) :
    t.encode = Compact.ofFields e (t.toNat * 256 ^ 3 / 256 ^ e) := by
  obtain ⟨f, fits', -, encoded⟩ := t.exists_encode_eq
  obtain rfl := fits.unique fits'
  exact encoded

/-- **Encoding writes canonical words.** -/
theorem canonical_encode (t : Target) : t.encode.Canonical := by
  obtain ⟨e, fits, -, encoded⟩ := t.exists_encode_eq
  rcases Nat.eq_zero_or_pos t.toNat with zero | positive
  · obtain rfl : t = Target.zero := Target.ext zero
    exact Or.inl (by decide)
  · rw [encoded]
    exact Compact.canonical_ofFields (fits.full positive.ne')

end Target

namespace Compact

/-- **A canonical word is found again.** -/
theorem Canonical.encode_decode {c : Compact} (canonical : c.Canonical) :
    c.decode.target.encode = c := by
  rcases canonical with zero | full
  · obtain rfl : c = ⟨0⟩ := congrArg mk zero
    decide
  · obtain ⟨fields, full⟩ := eq_ofFields_of_full full
    have magnitude := c.magnitude_eq_div
    have target : c.decode.target.toNat = c.mantissa * 256 ^ c.exponent / 256 ^ 3 := by
      rw [toNat_decode_target_of_lt (magnitude ▸ full.lt_two_pow), magnitude]
    have fits := full.fits
    rw [← target] at fits
    rw [Target.encode_eq_ofFields fits, target, full.div_mul_cancel,
      Nat.mul_div_cancel _ (Nat.pow_pos (by omega))]
    exact fields.symm

theorem encode_decode_eq_self_iff {c : Compact} :
    c.decode.target.encode = c ↔ c.Canonical :=
  ⟨fun same => same ▸ c.decode.target.canonical_encode, Canonical.encode_decode⟩

theorem Canonical.decode_overflow {c : Compact} (canonical : c.Canonical) :
    c.decode.overflow = false := by
  rw [← canonical.encode_decode]
  exact Target.decode_encode_overflow _

/-- **Canonical words compare as the targets they stand for.**  Where the targets compare the other
way, so do the words, and two words that do both are one. -/
theorem Canonical.word_le_iff {c d : Compact} (first : c.Canonical) (second : d.Canonical) :
    c.word ≤ d.word ↔ c.decode.target ≤ d.decode.target := by
  have mono {c d : Compact} (first : c.Canonical) (second : d.Canonical)
      (le : c.decode.target ≤ d.decode.target) : c.word ≤ d.word := by
    rw [← first.encode_decode, ← second.encode_decode]
    exact Target.word_encode_mono le
  refine ⟨fun le => ?_, mono first second⟩
  by_contra above
  have back : d.word ≤ c.word := mono second first (Nat.le_of_not_le above)
  obtain rfl : c = d := congrArg mk (UInt32.le_antisymm le back)
  exact above (Nat.le_refl _)

/-- A magnitude that some word carries has the encoding of its target as its only canonical word. -/
theorem existsUnique_canonical {c : Compact} (fits : c.decode.overflow = false) :
    ∃! k : Compact, k.Canonical ∧ k.decode.target = c.decode.target := by
  refine ⟨c.decode.target.encode, ⟨Target.canonical_encode _, Target.decode_encode_decode fits⟩, ?_⟩
  rintro k ⟨canonical, same⟩
  rw [← canonical.encode_decode, same]

/-- **Canonical words are those that decoding and encoding lead back to, and those that encoding
writes; and each target that some word carries without overflow has exactly one of them.** -/
theorem canonical_words :
    (∀ c : Compact, c.decode.target.encode = c ↔ c.Canonical) ∧
    Set.range Target.encode = {c | c.Canonical} ∧
    ∀ t : Target, (∃ c : Compact, c.decode.overflow = false ∧ c.decode.target = t) ↔
      ∃! c : Compact, c.Canonical ∧ c.decode.target = t := by
  refine ⟨fun c => encode_decode_eq_self_iff, Set.ext fun c => ?_, fun t => ?_⟩
  · constructor
    · rintro ⟨t, rfl⟩
      exact t.canonical_encode
    · intro canonical
      exact ⟨c.decode.target, canonical.encode_decode⟩
  · constructor
    · rintro ⟨c, fits, rfl⟩
      exact existsUnique_canonical fits
    · rintro ⟨c, ⟨canonical, same⟩, -⟩
      exact ⟨c, canonical.decode_overflow, same⟩

end Compact

end ProofOfWork
