import Mathlib.Data.Nat.Basic
import ProofOfWork.Proofs.Compact.Decoding

/-!
# Proofs/Compact/Encoding — one exponent fits each target

    n ──byteLength, sign bump──▸ exponent e ──n · 256³ / 256ᵉ──▸ mantissa ──▸ word

The encoder shifts left or right and may give up a byte to the sign bit.  Written with the factor
`256³` of the mantissa on one side, all its branches are one division, and the exponent it picks is
the only one that leaves the mantissa at least sixteen and less than twenty-four bits
(`FitsExponent`, `FitsExponent.unique`).  What is known of an encoding follows from that: it
is unsigned, and decodes without a flag to at most the target it was made from.
-/

namespace ProofOfWork

namespace Compact

/-! ## Words from fields -/

/-- The unsigned word of an exponent and a mantissa. -/
def ofFields (exponent mantissa : ℕ) : Compact := ⟨UInt32.ofNat (mantissa + exponent * 2 ^ 24)⟩

section Fields

variable {e m : ℕ} (byte : e < 256) (short : m < 2 ^ 23)

include byte short

theorem word_ofFields : (ofFields e m).word.toNat = m + e * 2 ^ 24 := by
  rw [ofFields, UInt32.toNat_ofNat']
  omega

theorem exponent_ofFields : (ofFields e m).exponent = e := by
  rw [exponent, word_ofFields byte short]
  omega

theorem mantissa_ofFields : (ofFields e m).mantissa = m := by
  rw [mantissa, word_ofFields byte short]
  omega

theorem sign_ofFields : (ofFields e m).sign = false := by
  rw [sign, word_ofFields byte short, beq_eq_false_iff_ne]
  omega

end Fields

/-- **The magnitude as one division**, whichever side of three the exponent lies on. -/
theorem magnitude_eq_div (c : Compact) :
    c.magnitude = c.mantissa * 256 ^ c.exponent / 256 ^ 3 := by
  unfold magnitude
  split
  · rename_i small
    rw [← Nat.sub_add_cancel small, Nat.pow_add, Nat.add_sub_cancel,
      Nat.mul_div_mul_right _ _ (Nat.pow_pos (by omega))]
  · rename_i large
    have split3 : 256 ^ c.exponent = 256 ^ (c.exponent - 3) * 256 ^ 3 := by
      rw [← Nat.pow_add, Nat.sub_add_cancel (by omega)]
    rw [split3, ← Nat.mul_assoc, Nat.mul_div_cancel _ (by omega)]

end Compact

/-! ## The exponent of a number -/

/-- Powers of two exponents are a byte apart. -/
theorem byte_mul_pow_le {e f : ℕ} (less : e < f) : 256 * 256 ^ e ≤ 256 ^ f := by
  rw [← Nat.pow_succ']
  exact Nat.pow_le_pow_right (by omega) less

/-- **The exponent under which a number has a mantissa of full length**: at least sixteen bits, and
none at the place of the sign.  Zero has exponent zero. -/
structure FitsExponent (n e : ℕ) : Prop where
  below : n * 256 ^ 3 < 2 ^ 23 * 256 ^ e
  above : n ≠ 0 → 2 ^ 15 * 256 ^ e ≤ n * 256 ^ 3
  zero : n = 0 → e = 0

namespace FitsExponent

/-- A larger number has no smaller exponent: the ranges of two exponents do not overlap. -/
theorem mono {a b e f : ℕ} (fits : FitsExponent a e) (fits' : FitsExponent b f) (le : a ≤ b) :
    e ≤ f := by
  rcases Nat.eq_zero_or_pos a with rfl | positive
  · rw [fits.zero rfl]
    exact Nat.zero_le f
  · by_contra less
    have power := byte_mul_pow_le (Nat.lt_of_not_le less)
    have above := fits.above (by omega)
    have below := fits'.below
    omega

/-- **A number has one exponent.** -/
theorem unique {n e f : ℕ} (fits : FitsExponent n e) (fits' : FitsExponent n f) : e = f :=
  Nat.le_antisymm (fits.mono fits' le_rfl) (fits'.mono fits le_rfl)

theorem ne_zero {n e : ℕ} (fits : FitsExponent n e) (positive : 0 < e) : n ≠ 0 :=
  fun zero => positive.ne' (fits.zero zero)

theorem mantissa_lt {n e : ℕ} (fits : FitsExponent n e) : n * 256 ^ 3 / 256 ^ e < 2 ^ 23 :=
  (Nat.div_lt_iff_lt_mul (Nat.pow_pos (by omega))).2 fits.below

theorem le_mantissa {n e : ℕ} (fits : FitsExponent n e) (nonzero : n ≠ 0) :
    2 ^ 15 ≤ n * 256 ^ 3 / 256 ^ e :=
  (Nat.le_div_iff_mul_le (Nat.pow_pos (by omega))).2 (fits.above nonzero)

end FitsExponent

/-- What is left of a number under an exponent: the mantissa, put back in its place. -/
def keptPart (n e : ℕ) : ℕ := n * 256 ^ 3 / 256 ^ e * 256 ^ e / 256 ^ 3

theorem keptPart_le (n e : ℕ) : keptPart n e ≤ n :=
  Nat.div_le_of_le_mul (by rw [Nat.mul_comm (256 ^ 3)]; exact Nat.div_mul_le_self _ _)

/-- A mantissa in its place is a whole number: below exponent three nothing was dropped, above it
the power is a multiple of `256³`. -/
theorem keptPart_mul (n e : ℕ) : keptPart n e * 256 ^ 3 = n * 256 ^ 3 / 256 ^ e * 256 ^ e := by
  refine Nat.div_mul_cancel ?_
  rcases Nat.le_total e 3 with small | large
  · rw [Nat.div_mul_cancel (Nat.dvd_mul_left_of_dvd (Nat.pow_dvd_pow 256 small) n)]
    exact Nat.dvd_mul_left _ _
  · exact Nat.dvd_mul_left_of_dvd (Nat.pow_dvd_pow 256 large) _

namespace FitsExponent

variable {n e : ℕ} (fits : FitsExponent n e)

include fits

theorem keptPart_eq_zero_iff : keptPart n e = 0 ↔ n = 0 := by
  have power : 0 < 256 ^ e := Nat.pow_pos (by omega)
  constructor
  · intro gone
    by_contra nonzero
    have product := keptPart_mul n e
    rw [gone, Nat.zero_mul, eq_comm, Nat.mul_eq_zero] at product
    have := fits.le_mantissa nonzero
    omega
  · rintro rfl
    exact Nat.le_zero.1 (keptPart_le 0 e)

end FitsExponent

namespace Target

/-- The byte length brackets a nonzero magnitude from both sides. -/
theorem byteLength_bounds {t : Target} (nonzero : t.toNat ≠ 0) :
    256 ^ t.byteLength ≤ 256 * t.toNat ∧ t.toNat < 256 ^ t.byteLength := by
  have bits : t.bitLength = t.toNat.log2 + 1 := if_neg nonzero
  have low : 256 ^ t.byteLength ≤ 2 ^ (8 + t.toNat.log2) := by
    rw [show 256 = 2 ^ 8 from rfl, ← Nat.pow_mul]
    exact Nat.pow_le_pow_right Nat.two_pos (by unfold byteLength; omega)
  have high : 2 ^ t.bitLength ≤ 256 ^ t.byteLength := by
    rw [show 256 = 2 ^ 8 from rfl, ← Nat.pow_mul]
    exact Nat.pow_le_pow_right Nat.two_pos (by unfold byteLength; omega)
  refine ⟨Nat.le_trans low ?_, Nat.lt_of_lt_of_le t.toNat_lt_two_pow_bitLength high⟩
  rw [Nat.pow_add]
  exact Nat.mul_le_mul_left _ (Nat.log2_self_le nonzero)

theorem byteLength_le (t : Target) : t.byteLength ≤ 32 := by
  have bits : t.bitLength ≤ 256 := by
    unfold bitLength
    split
    · omega
    · rename_i nonzero
      exact (Nat.log2_lt nonzero).2 t.toNat_lt
  unfold byteLength
  omega

/-- **The leading bytes as one division**, whichever side of three the length lies on. -/
theorem leadingBytes_eq_div (n size : ℕ) : leadingBytes n size = n * 256 ^ 3 / 256 ^ size := by
  unfold leadingBytes
  split
  · rename_i small
    have split3 : 256 ^ 3 = 256 ^ (3 - size) * 256 ^ size := by
      rw [← Nat.pow_add, Nat.sub_add_cancel small]
    rw [split3, ← Nat.mul_assoc, Nat.mul_div_cancel _ (Nat.pow_pos (by omega)), Nat.shiftLeft_eq,
      Nat.pow_mul]
  · rename_i large
    rw [← Nat.sub_add_cancel (Nat.le_of_not_le large), Nat.pow_add, Nat.add_sub_cancel,
      Nat.mul_div_mul_right _ _ (by omega), Nat.shiftRight_eq_div_pow, Nat.pow_mul]

/-- **The encoder picks the exponent of the number**, and drops what lies below the mantissa. -/
theorem exists_encode_eq (t : Target) :
    ∃ e, FitsExponent t.toNat e ∧ e < 256 ∧
      t.encode = Compact.ofFields e (t.toNat * 256 ^ 3 / 256 ^ e) := by
  have length := t.byteLength_le
  have power : 0 < 256 ^ t.byteLength := Nat.pow_pos (by omega)
  have next : 256 ^ (t.byteLength + 1) = 256 ^ t.byteLength * 256 := Nat.pow_succ ..
  unfold encode
  rw [leadingBytes_eq_div]
  dsimp only
  split
  · rename_i unsigned
    rw [Nat.div_lt_iff_lt_mul power] at unsigned
    refine ⟨t.byteLength, ⟨unsigned, fun nonzero => ?_, fun zero => ?_⟩, by omega, rfl⟩
    · have := (byteLength_bounds nonzero).1
      omega
    · unfold byteLength bitLength
      rw [if_pos zero]
  · rename_i signed
    rw [Nat.div_lt_iff_lt_mul power, Nat.not_lt] at signed
    have nonzero : t.toNat ≠ 0 := by
      intro zero
      rw [zero] at signed
      omega
    have := (byteLength_bounds nonzero).2
    refine ⟨t.byteLength + 1, ⟨by omega, fun _ => by omega, fun zero => absurd zero nonzero⟩,
      by omega, ?_⟩
    rw [Nat.div_div_eq_div_mul, ← next]
    rfl

/-- **An encoding and its exponent**: its sign, its word and its magnitude. -/
theorem encode_spec (t : Target) :
    ∃ e, FitsExponent t.toNat e ∧
      t.encode.word.toNat = t.toNat * 256 ^ 3 / 256 ^ e + e * 2 ^ 24 ∧
      t.encode.sign = false ∧ t.encode.magnitude = keptPart t.toNat e := by
  obtain ⟨e, fits, byte, encoded⟩ := t.exists_encode_eq
  rw [encoded]
  refine ⟨e, fits, Compact.word_ofFields byte fits.mantissa_lt,
    Compact.sign_ofFields byte fits.mantissa_lt, ?_⟩
  rw [Compact.magnitude_eq_div, Compact.exponent_ofFields byte fits.mantissa_lt,
    Compact.mantissa_ofFields byte fits.mantissa_lt, keptPart]

theorem sign_encode (t : Target) : t.encode.sign = false := by
  obtain ⟨e, -, -, unsigned, -⟩ := t.encode_spec
  exact unsigned

/-- **Encoding never rounds up.** -/
theorem magnitude_encode_le (t : Target) : t.encode.magnitude ≤ t.toNat := by
  obtain ⟨e, -, -, -, kept⟩ := t.encode_spec
  rw [kept]
  exact keptPart_le _ _

/-- **Encoding never loses a target altogether.** -/
theorem magnitude_encode_eq_zero_iff (t : Target) : t.encode.magnitude = 0 ↔ t.toNat = 0 := by
  obtain ⟨e, fits, -, -, kept⟩ := t.encode_spec
  rw [kept, fits.keptPart_eq_zero_iff]

theorem toNat_decode_encode (t : Target) : t.encode.decode.target.toNat = t.encode.magnitude :=
  Compact.toNat_decode_target_of_lt (Nat.lt_of_le_of_lt t.magnitude_encode_le t.toNat_lt)

theorem decode_encode_le (t : Target) : t.encode.decode.target ≤ t := by
  rw [le_def, toNat_decode_encode]
  exact t.magnitude_encode_le

theorem decode_encode_negative (t : Target) : t.encode.decode.negative = false := by
  rw [Bool.eq_false_iff, Ne, Compact.decode_negative_iff, t.sign_encode]
  exact fun signed => Bool.noConfusion signed.1

theorem decode_encode_overflow (t : Target) : t.encode.decode.overflow = false := by
  rw [Bool.eq_false_iff, Ne, Compact.decode_overflow_iff]
  have := t.magnitude_encode_le
  have := t.toNat_lt
  omega

end Target

end ProofOfWork
