import ProofOfWork.Target.Basic

/-!
# Target/Compact — the 32-bit shorthand that block headers carry

A header does not hold a whole target but a **compact** word: the top byte is an exponent in base
256, bit 23 is a sign and the low 23 bits are a mantissa.

```text
word      = 0xEE_SMMMMM
magnitude = MMMMMM * 256 ^ (EE - 3)
```

`Compact.magnitude` is that number over the unbounded naturals, without a fraction.
`Compact.decode` is what a 256-bit machine makes of the word: the magnitude cut to its low 256 bits,
with one flag for a negative value and one for a value that was too wide.  `Target.encode` picks the
smallest exponent for which the mantissa stays clear of the sign bit, and drops what does not fit
into three bytes.
-/

namespace ProofOfWork

/-- **A target in compact form.** -/
structure Compact where
  /-- The word as it stands in a header. -/
  word : UInt32
  deriving DecidableEq

/-- What a compact word decodes to. -/
structure Decoded where
  /-- The low 256 bits of the magnitude. -/
  target : Target
  /-- The sign is set and the magnitude is not zero. -/
  negative : Bool
  /-- The magnitude is wider than a target. -/
  overflow : Bool
  deriving DecidableEq

namespace Compact

/-- The top byte: how many bytes the magnitude has. -/
def exponent (c : Compact) : Nat := c.word.toNat / 2 ^ 24

/-- The low 23 bits. -/
def mantissa (c : Compact) : Nat := c.word.toNat % 2 ^ 23

/-- Bit 23. -/
def sign (c : Compact) : Bool := c.word.toNat / 2 ^ 23 % 2 == 1

/-- **The magnitude a word stands for**, over the unbounded naturals and without its fraction. -/
def magnitude (c : Compact) : Nat :=
  if c.exponent ≤ 3 then c.mantissa / 256 ^ (3 - c.exponent)
  else c.mantissa * 256 ^ (c.exponent - 3)

/-- The part of the mantissa that is not shifted out below the units. -/
def keptMantissa (c : Compact) : Nat :=
  if c.exponent ≤ 3 then c.mantissa >>> (8 * (3 - c.exponent)) else c.mantissa

/-- Whether a kept mantissa reaches past bit 255 under its exponent: a mantissa of one, two or three
bytes does so from exponent 35, 34 or 33 on. -/
def tooWide (kept exponent : Nat) : Bool :=
  kept ≠ 0 && (34 < exponent || (0xff < kept && 33 < exponent) || (0xffff < kept && 32 < exponent))

/-- **The value of a word on 256 bits.** -/
def decode (c : Compact) : Decoded where
  target := Target.truncate (c.keptMantissa <<< (8 * (c.exponent - 3)))
  negative := c.keptMantissa ≠ 0 && c.sign
  overflow := tooWide c.keptMantissa c.exponent

end Compact

/-- The target, where it is neither negative nor too wide nor zero. -/
def Decoded.validTarget? (d : Decoded) : Option Target :=
  if d.negative || d.overflow || d.target == Target.zero then none else some d.target

namespace Target

/-- The three leading bytes of a magnitude of `size` bytes; a shorter one is filled with zero bytes
below. -/
def leadingBytes (n size : Nat) : Nat :=
  if size ≤ 3 then n <<< (8 * (3 - size)) else n >>> (8 * (size - 3))

/-- **The compact form of a target.**  Where the leading bytes would set the sign bit, the mantissa
gives up its lowest byte and the exponent grows by one. -/
def encode (t : Target) : Compact :=
  let lead := leadingBytes t.toNat t.byteLength
  if lead < 2 ^ 23 then ⟨UInt32.ofNat (lead + t.byteLength * 2 ^ 24)⟩
  else ⟨UInt32.ofNat (lead / 256 + (t.byteLength + 1) * 2 ^ 24)⟩

end Target

/-! ## Fields of a word -/

namespace Compact

theorem mantissa_lt (c : Compact) : c.mantissa < 2 ^ 23 := Nat.mod_lt _ (Nat.two_pow_pos 23)

theorem exponent_lt (c : Compact) : c.exponent < 256 := by
  have := c.word.toNat_lt
  unfold exponent
  omega

/-- **A word is its three fields side by side.** -/
theorem word_eq_fields (c : Compact) :
    c.word.toNat = c.exponent * 2 ^ 24 + c.sign.toNat * 2 ^ 23 + c.mantissa := by
  have bit : c.sign.toNat = c.word.toNat / 2 ^ 23 % 2 := by
    unfold sign
    rcases Nat.mod_two_eq_zero_or_one (c.word.toNat / 2 ^ 23) with h | h <;> rw [h] <;> rfl
  rw [bit]
  unfold exponent mantissa
  omega

/-- The mantissa a word keeps makes up its magnitude. -/
theorem magnitude_eq (c : Compact) : c.magnitude = c.keptMantissa * 256 ^ (c.exponent - 3) := by
  unfold magnitude keptMantissa
  split
  · rename_i small
    rw [Nat.shiftRight_eq_div_pow, Nat.pow_mul, Nat.sub_eq_zero_of_le small, Nat.pow_zero,
      Nat.mul_one]
  · rfl

end Compact

end ProofOfWork
