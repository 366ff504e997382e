import ProofOfWork.Target.Basic

/-!
# Target/Bytes — targets as thirty-two bytes

Thirty-two bytes are read as a base-256 numeral in either order: most significant byte first
(`byteValue`), the order in which hashes are displayed, or least significant first (`wireValue`), the
order in which headers hold them.  Each reads what the other reads backwards (`wireValue_reverse`).
`byteValue_lt` bounds such a numeral, so that thirty-two bytes always make a target.
-/

namespace ProofOfWork

/-- The number that a run of bytes denotes, most significant byte first. -/
def byteValue (bytes : List UInt8) : Nat :=
  bytes.foldl (fun n b => 256 * n + b.toNat) 0

/-- Bytes read after a number lift it past themselves. -/
theorem foldl_byteValue (bytes : List UInt8) (n : Nat) :
    bytes.foldl (fun n b => 256 * n + b.toNat) n = n * 256 ^ bytes.length + byteValue bytes := by
  induction bytes generalizing n with
  | nil => simp [byteValue]
  | cons b rest ih =>
    rw [byteValue, List.foldl_cons, List.foldl_cons, ih, ih (256 * 0 + b.toNat), List.length_cons,
      Nat.pow_succ', Nat.add_mul, Nat.add_mul, Nat.mul_comm 256 n, Nat.mul_assoc]
    omega

/-- **The first byte counts for the most.** -/
theorem byteValue_cons (b : UInt8) (rest : List UInt8) :
    byteValue (b :: rest) = b.toNat * 256 ^ rest.length + byteValue rest := by
  rw [byteValue, List.foldl_cons, foldl_byteValue, Nat.mul_zero, Nat.zero_add]

/-- A numeral stays below the power of its length. -/
theorem byteValue_lt (bytes : List UInt8) : byteValue bytes < 256 ^ bytes.length := by
  induction bytes with
  | nil => decide
  | cons b rest ih =>
    have digit : b.toNat + 1 ≤ 256 := b.toNat_lt
    have := Nat.mul_le_mul_right (256 ^ rest.length) digit
    rw [byteValue_cons, List.length_cons, Nat.pow_succ', Nat.add_mul] at *
    omega

/-- The number that a run of bytes denotes, least significant byte first. -/
def wireValue : List UInt8 → Nat
  | [] => 0
  | b :: rest => b.toNat + 256 * wireValue rest

/-- A byte behind the others counts for the most. -/
theorem wireValue_concat (bytes : List UInt8) (b : UInt8) :
    wireValue (bytes ++ [b]) = wireValue bytes + b.toNat * 256 ^ bytes.length := by
  induction bytes with
  | nil => simp [wireValue]
  | cons a bytes ih =>
    rw [List.cons_append, wireValue, ih, wireValue, List.length_cons, Nat.pow_succ', Nat.mul_add,
      Nat.mul_left_comm, Nat.add_assoc]

/-- **Bytes in one order are the reversed bytes in the other.** -/
theorem wireValue_reverse (bytes : List UInt8) : wireValue bytes.reverse = byteValue bytes := by
  induction bytes with
  | nil => rfl
  | cons b rest ih =>
    rw [List.reverse_cons, wireValue_concat, ih, List.length_reverse, byteValue_cons, Nat.add_comm]

theorem wireValue_lt (bytes : List UInt8) : wireValue bytes < 256 ^ bytes.length := by
  have := byteValue_lt bytes.reverse
  rwa [← wireValue_reverse, List.reverse_reverse, List.length_reverse] at this

namespace Target

/-- The target whose bytes, most significant first, are given. -/
def ofBytesBE (bytes : Vector UInt8 32) : Target :=
  ⟨byteValue bytes.toList, by
    have := byteValue_lt bytes.toList
    rw [Vector.length_toList] at this
    exact Nat.lt_of_lt_of_eq this (by decide)⟩

/-- The target whose bytes, least significant first, are given. -/
def ofBytesLE (bytes : Vector UInt8 32) : Target :=
  ⟨wireValue bytes.toList, by
    have := wireValue_lt bytes.toList
    rw [Vector.length_toList] at this
    exact Nat.lt_of_lt_of_eq this (by decide)⟩

/-- The bytes of a target, most significant first. -/
def toBytesBE (t : Target) : Vector UInt8 32 :=
  Vector.ofFn fun i => UInt8.ofNat (t.toNat / 256 ^ (31 - i.val))

/-- **The two orders read each other's bytes backwards.** -/
theorem ofBytesLE_eq (bytes : Vector UInt8 32) : ofBytesLE bytes = ofBytesBE bytes.reverse := by
  rw [Target.ext_iff]
  change wireValue bytes.toList = byteValue bytes.reverse.toList
  rw [Vector.toList_reverse, ← wireValue_reverse, List.reverse_reverse]

end Target

end ProofOfWork
