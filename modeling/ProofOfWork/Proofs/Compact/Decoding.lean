import Mathlib.Data.Nat.Bitwise
import Mathlib.Data.Rat.Floor
import ProofOfWork.Target.Compact

/-!
# Proofs/Compact/Decoding — the machine's reading of a word against the exact one

    word ──fields──▸ mantissa · 256 ^ (exponent − 3) ──⌊ ⌋──▸ exactValue ──mod 2²⁵⁶──▸ decode

`Compact.exactValue` is the integer a word denotes, written over the rationals and straight from the
bits of the word, so it shares nothing with the decoder.  `exactValue_eq_magnitude` brings it down
to the naturals; the decoder's three fields are then read off `magnitude` one by one
(`toNat_decode_target`, `decode_negative_iff`, `decode_overflow_iff`), and together they say which
words carry a usable target (`validTarget?_eq_some_iff`).
-/

namespace ProofOfWork

namespace Compact

/-! ## Fields as bits of the word -/

/-- The exponent is the word without its low 24 bits. -/
theorem exponent_eq_shiftRight (c : Compact) : c.exponent = (c.word >>> 24).toNat := by
  rw [UInt32.toNat_shiftRight, Nat.shiftRight_eq_div_pow]
  rfl

/-- The mantissa is what the low 23 bits mask out. -/
theorem mantissa_eq_and (c : Compact) : c.mantissa = (c.word &&& 0x7fffff).toNat := by
  rw [UInt32.toNat_and]
  exact (Nat.and_two_pow_sub_one_eq_mod c.word.toNat 23).symm

/-- **The sign is bit 23.** -/
theorem sign_eq_testBit (c : Compact) : c.sign = c.word.toNat.testBit 23 := by
  rw [Nat.testBit_eq_decide_div_mod_eq, sign, beq_eq_decide]

/-- An unsigned word has nothing at bit 23. -/
theorem sign_eq_false_iff (c : Compact) : c.sign = false ↔ c.word &&& 0x800000 = 0 := by
  have bit : (c.word &&& 0x800000).toNat = c.sign.toNat * 2 ^ 23 := by
    rw [UInt32.toNat_and, sign_eq_testBit]
    exact Nat.and_two_pow c.word.toNat 23
  rw [← UInt32.toNat_inj, bit, UInt32.toNat_zero]
  cases c.sign <;> decide

/-! ## The exact value -/

/-- **The integer a word denotes**: `⌊m · 256 ^ (e − 3)⌋` for its low 23 bits `m` and its top byte
`e`, whatever the width of the outcome. -/
def exactValue (c : Compact) : ℤ :=
  ⌊((c.word &&& 0x7fffff).toNat : ℚ) * (256 : ℚ) ^ (((c.word >>> 24).toNat : ℤ) - 3)⌋

/-- **The exact value is the magnitude**: below exponent three the power is a division, whose floor
is the quotient of the naturals. -/
theorem exactValue_eq_magnitude (c : Compact) : c.exactValue = c.magnitude := by
  rw [exactValue, ← mantissa_eq_and, ← exponent_eq_shiftRight, magnitude]
  split
  · rename_i small
    have power : (256 : ℚ) ^ ((c.exponent : ℤ) - 3) = ((256 ^ (3 - c.exponent) : ℕ) : ℚ)⁻¹ := by
      rw [show (c.exponent : ℤ) - 3 = -((3 - c.exponent : ℕ) : ℤ) by omega, zpow_neg,
        zpow_natCast]
      push_cast
      rfl
    rw [power, ← div_eq_mul_inv, Rat.floor_natCast_div_natCast, Int.natCast_ediv]
  · rename_i large
    have power : (256 : ℚ) ^ ((c.exponent : ℤ) - 3) = ((256 ^ (c.exponent - 3) : ℕ) : ℚ) := by
      rw [show (c.exponent : ℤ) - 3 = ((c.exponent - 3 : ℕ) : ℤ) by omega, zpow_natCast]
      push_cast
      rfl
    rw [power, ← Nat.cast_mul, Int.floor_natCast]

theorem keptMantissa_lt (c : Compact) : c.keptMantissa < 2 ^ 23 := by
  have bound := c.mantissa_lt
  unfold keptMantissa
  split
  · rw [Nat.shiftRight_eq_div_pow]
    exact Nat.lt_of_le_of_lt (Nat.div_le_self _ _) bound
  · exact bound

/-- A magnitude is zero only where nothing of the mantissa is kept. -/
theorem magnitude_eq_zero_iff (c : Compact) : c.magnitude = 0 ↔ c.keptMantissa = 0 := by
  have power : 0 < 256 ^ (c.exponent - 3) := Nat.pow_pos (by omega)
  rw [magnitude_eq, Nat.mul_eq_zero]
  omega

/-! ## The three fields of a decoded word -/

/-- **The threshold for a mantissa of each length is the one at which its product with the power
leaves 256 bits.**  At exponents 33, 34 and 35 the power alone has 240, 248 and 256 bits. -/
theorem tooWide_iff {kept exponent : Nat} (short : kept < 2 ^ 23) :
    tooWide kept exponent = true ↔ 2 ^ 256 ≤ kept * 256 ^ (exponent - 3) := by
  have flag : tooWide kept exponent = true ↔
      kept ≠ 0 ∧ (34 < exponent ∨ (0xff < kept ∧ 33 < exponent) ∨
        (0xffff < kept ∧ 32 < exponent)) := by
    simp [tooWide, or_assoc]
  rw [flag]
  rcases Nat.lt_trichotomy exponent 33 with small | rfl | large
  · have power : 256 ^ (exponent - 3) ≤ 256 ^ 29 := Nat.pow_le_pow_right (by omega) (by omega)
    have product := Nat.mul_le_mul (Nat.le_of_lt short) power
    omega
  · omega
  · rcases Nat.lt_or_ge exponent 35 with narrow | wide
    · obtain rfl : exponent = 34 := by omega
      omega
    · have power : 256 ^ 32 ≤ 256 ^ (exponent - 3) := Nat.pow_le_pow_right (by omega) (by omega)
      constructor
      · rintro ⟨nonzero, -⟩
        exact Nat.le_trans (Nat.le_of_eq (by norm_num))
          (Nat.mul_le_mul (Nat.one_le_iff_ne_zero.2 nonzero) power)
      · intro wide
        refine ⟨?_, Or.inl (by omega)⟩
        rintro rfl
        omega

/-- The decoded target is the magnitude without what lies above bit 255. -/
theorem toNat_decode_target (c : Compact) : c.decode.target.toNat = c.magnitude % 2 ^ 256 := by
  change (c.keptMantissa <<< (8 * (c.exponent - 3))) % 2 ^ 256 = _
  rw [Nat.shiftLeft_eq, Nat.pow_mul, magnitude_eq]

theorem decode_negative_iff (c : Compact) :
    c.decode.negative = true ↔ c.sign = true ∧ c.magnitude ≠ 0 := by
  rw [Ne, magnitude_eq_zero_iff]
  simp [decode, and_comm]

theorem decode_overflow_iff (c : Compact) :
    c.decode.overflow = true ↔ 2 ^ 256 ≤ c.magnitude := by
  rw [magnitude_eq]
  exact tooWide_iff c.keptMantissa_lt

/-- Where no bit is lost, the decoded target is the magnitude itself. -/
theorem toNat_decode_target_of_lt {c : Compact} (fits : c.magnitude < 2 ^ 256) :
    c.decode.target.toNat = c.magnitude := by
  rw [toNat_decode_target, Nat.mod_eq_of_lt fits]

/-- **A word carries a usable target exactly when it is unsigned and its magnitude is a nonzero
target**, and the target is then that magnitude. -/
theorem validTarget?_eq_some_iff {c : Compact} {t : Target} :
    c.decode.validTarget? = some t ↔
      c.sign = false ∧ 0 < c.magnitude ∧ t.toNat = c.magnitude := by
  have zero : c.decode.target = Target.zero ↔ c.magnitude % 2 ^ 256 = 0 := by
    rw [Target.ext_iff, toNat_decode_target]
    rfl
  have flags : (c.decode.negative || c.decode.overflow || c.decode.target == Target.zero) = true ↔
      (c.sign = true ∧ c.magnitude ≠ 0) ∨ 2 ^ 256 ≤ c.magnitude ∨ c.magnitude % 2 ^ 256 = 0 := by
    rw [Bool.or_eq_true, Bool.or_eq_true, beq_iff_eq, decode_negative_iff, decode_overflow_iff,
      zero, or_assoc]
  unfold Decoded.validTarget?
  split
  · rename_i refused
    rw [flags] at refused
    simp only [reduceCtorEq, false_iff]
    rintro ⟨unsigned, positive, same⟩
    have := t.toNat_lt
    simp only [unsigned, Bool.false_eq_true, false_and, false_or] at refused
    omega
  · rename_i usable
    rw [flags] at usable
    push Not at usable
    obtain ⟨unsigned, fits, nonzero⟩ := usable
    rw [Option.some.injEq, Target.ext_iff, toNat_decode_target_of_lt (by omega), eq_comm]
    refine ⟨fun same => ⟨?_, by omega, same⟩, fun carried => carried.2.2⟩
    rw [Bool.eq_false_iff]
    intro signed
    have := unsigned signed
    omega

/-- A word carries a usable target exactly when it is unsigned and its magnitude is nonzero and no
wider than a target. -/
theorem isSome_validTarget?_iff (c : Compact) :
    c.decode.validTarget?.isSome ↔ c.sign = false ∧ 0 < c.magnitude ∧ c.magnitude < 2 ^ 256 := by
  simp only [Option.isSome_iff_exists, validTarget?_eq_some_iff]
  constructor
  · rintro ⟨t, unsigned, positive, same⟩
    exact ⟨unsigned, positive, same ▸ t.toNat_lt⟩
  · rintro ⟨unsigned, positive, fits⟩
    exact ⟨⟨c.magnitude, fits⟩, unsigned, positive, rfl⟩

/-- **Decoding a word, over the integer it denotes**: the low 256 bits of that integer, one flag for
an integer that has more, one for a nonzero integer with the sign set, and a usable target exactly
where neither is raised and the integer is not zero. -/
theorem decode_exactValue (c : Compact) :
    (c.decode.target.toNat : ℤ) = c.exactValue % 2 ^ 256 ∧
    (c.decode.overflow = true ↔ 2 ^ 256 ≤ c.exactValue) ∧
    (c.decode.negative = true ↔ c.word &&& 0x800000 ≠ 0 ∧ c.exactValue ≠ 0) ∧
    (c.decode.validTarget?.isSome ↔
      c.word &&& 0x800000 = 0 ∧ 0 < c.exactValue ∧ c.exactValue < 2 ^ 256) ∧
    ∀ t, c.decode.validTarget? = some t → (t.toNat : ℤ) = c.exactValue := by
  have signed : c.word &&& 0x800000 ≠ 0 ↔ c.sign = true := by
    rw [Ne, ← sign_eq_false_iff, Bool.not_eq_false]
  rw [signed, ← sign_eq_false_iff, exactValue_eq_magnitude]
  refine ⟨?_, ?_, ?_, ?_, fun t usable => ?_⟩
  · rw [toNat_decode_target]
    exact Int.natCast_emod ..
  · rw [decode_overflow_iff]
    omega
  · rw [decode_negative_iff, Ne, Ne, Int.natCast_eq_zero]
  · rw [isSome_validTarget?_iff]
    exact and_congr_right fun _ => by omega
  · rw [(validTarget?_eq_some_iff.1 usable).2.2]

end Compact

end ProofOfWork
