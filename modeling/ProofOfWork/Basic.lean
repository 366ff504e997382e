/-!
# Basic — powers, and times on 64 bits

On natural numbers and integers `x ^ n` is the power of the core library, in every module here
(`corePow`).  A module that also imports an algebraic hierarchy would otherwise read the same text as
the power of a monoid: the same number, but another term.

Block times and retarget spans are signed 64-bit counts of seconds.  Arithmetic on them is done over
the integers and brought back by `Seconds.saturate`, which holds a result at the nearest end of the
range; `toInt_saturate` says so, and `toInt_saturate_of_mem` that nothing happens inside it.  Where a
count is taken as an unsigned number its bits are read anew (`Seconds.toNat`), which leaves a count
that is not negative as it is (`toNat_of_nonneg`).
-/

namespace ProofOfWork

@[default_instance 20000]
instance (priority := high) corePow {α : Type} [NatPow α] : Pow α Nat := instPowNat

/-- **A moment or a duration**, in seconds. -/
abbrev Seconds := Int64

namespace Seconds

/-- The nearest count of seconds to an integer. -/
def saturate (n : Int) : Seconds := Int64.ofInt (max (-2 ^ 63) (min n (2 ^ 63 - 1)))

/-- The count of seconds an integer is, where it is one. -/
def ofInt? (n : Int) : Option Seconds :=
  if -2 ^ 63 ≤ n ∧ n < 2 ^ 63 then some (Int64.ofInt n) else none

/-- How long after `earlier` the moment `later` is. -/
def since (later earlier : Seconds) : Seconds := saturate (later.toInt - earlier.toInt)

/-- The same 64 bits as an unsigned number; a negative count comes out above `2 ^ 63`. -/
def toNat (s : Seconds) : Nat := s.toUInt64.toNat

/-- **Saturation clamps to the range.** -/
theorem toInt_saturate (n : Int) :
    (saturate n).toInt = max (-2 ^ 63) (min n (2 ^ 63 - 1)) :=
  Int64.toInt_ofInt_of_le (by omega) (by omega)

theorem toInt_saturate_of_mem {n : Int} (low : -2 ^ 63 ≤ n) (high : n < 2 ^ 63) :
    (saturate n).toInt = n := by
  rw [toInt_saturate]
  omega

theorem ofInt?_eq_some_iff {n : Int} {s : Seconds} : ofInt? n = some s ↔ s.toInt = n := by
  unfold ofInt?
  split <;> rename_i range
  · simp only [Option.some.injEq, ← Int64.toInt_inj, Int64.toInt_ofInt_of_le range.1 range.2]
    exact eq_comm
  · simp only [reduceCtorEq, false_iff]
    intro same
    exact range ⟨same ▸ s.le_toInt, same ▸ s.toInt_lt⟩

/-- **A count that is not negative is the same number without a sign.** -/
theorem toNat_of_nonneg {s : Seconds} (nonneg : 0 ≤ s.toInt) : s.toNat = s.toInt.toNat :=
  Int64.toNat_toUInt64_of_le (Int64.le_iff_toInt_le.2 (Int64.toInt_zero ▸ nonneg))

theorem natCast_toNat_of_nonneg {s : Seconds} (nonneg : 0 ≤ s.toInt) : (s.toNat : Int) = s.toInt := by
  rw [toNat_of_nonneg nonneg, Int.toNat_of_nonneg nonneg]

end Seconds

end ProofOfWork
