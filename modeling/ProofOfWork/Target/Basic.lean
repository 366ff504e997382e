import ProofOfWork.Basic

/-!
# Target/Basic — the magnitudes that proof of work is measured against

A **target** is a natural number below `2 ^ 256`.  A block hash, read as such a number, meets a
target when it is no larger; so the smaller the target, the harder the work.  Targets are compared
as numbers (`Target.le_def`, `Target.lt_def`), and a number too wide for a target is either cut to
its low 256 bits (`Target.truncate`) or held at the top (`Target.saturate`), never silently both.
-/

namespace ProofOfWork

/-- **A proof-of-work target**: a natural number below `2 ^ 256`. -/
structure Target where
  /-- The magnitude. -/
  toNat : Nat
  toNat_lt : toNat < 2 ^ 256
  deriving DecidableEq

namespace Target

@[ext] theorem ext {a b : Target} (h : a.toNat = b.toNat) : a = b := by
  cases a
  cases b
  cases h
  rfl

instance : LE Target := ⟨fun a b => a.toNat ≤ b.toNat⟩

instance : LT Target := ⟨fun a b => a.toNat < b.toNat⟩

instance (a b : Target) : Decidable (a ≤ b) := Nat.decLe a.toNat b.toNat

instance (a b : Target) : Decidable (a < b) := Nat.decLt a.toNat b.toNat

instance : Min Target := ⟨fun a b => if a ≤ b then a else b⟩

instance : Max Target := ⟨fun a b => if a ≤ b then b else a⟩

theorem le_def {a b : Target} : a ≤ b ↔ a.toNat ≤ b.toNat := Iff.rfl

theorem lt_def {a b : Target} : a < b ↔ a.toNat < b.toNat := Iff.rfl

theorem not_lt {a b : Target} : ¬ a < b ↔ b ≤ a := Nat.not_lt

/-- **The smaller target is the smaller number.** -/
@[simp] theorem toNat_min (a b : Target) : (min a b).toNat = min a.toNat b.toNat := by
  change (if a ≤ b then a else b).toNat = _
  split <;> rename_i h <;> rw [le_def] at h <;> omega

@[simp] theorem toNat_max (a b : Target) : (max a b).toNat = max a.toNat b.toNat := by
  change (if a ≤ b then b else a).toNat = _
  split <;> rename_i h <;> rw [le_def] at h <;> omega

/-! ## Numbers as targets -/

/-- The low 256 bits of a number. -/
def truncate (n : Nat) : Target := ⟨n % 2 ^ 256, Nat.mod_lt _ (Nat.two_pow_pos 256)⟩

/-- The number, or the largest target where it is wider than that. -/
def saturate (n : Nat) : Target := ⟨min n (2 ^ 256 - 1), by omega⟩

/-- The number as a target, where it fits. -/
def ofNat? (n : Nat) : Option Target := if h : n < 2 ^ 256 then some ⟨n, h⟩ else none

/-- The target that no hash but zero meets. -/
def zero : Target := ⟨0, Nat.two_pow_pos 256⟩

/-- The target that every hash meets. -/
def largest : Target := ⟨2 ^ 256 - 1, by omega⟩

@[simp] theorem toNat_truncate (n : Nat) : (truncate n).toNat = n % 2 ^ 256 := rfl

@[simp] theorem toNat_saturate (n : Nat) : (saturate n).toNat = min n (2 ^ 256 - 1) := rfl

theorem truncate_toNat (t : Target) : truncate t.toNat = t :=
  ext (Nat.mod_eq_of_lt t.toNat_lt)

theorem ofNat?_eq_some_iff {n : Nat} {t : Target} : ofNat? n = some t ↔ t.toNat = n := by
  unfold ofNat?
  split
  · constructor
    · intro h
      cases h
      rfl
    · intro h
      exact congrArg some (ext h.symm)
  · rename_i wide
    constructor
    · intro h
      cases h
    · intro h
      exact absurd (h ▸ t.toNat_lt) wide

/-! ## Width -/

/-- The number of significant bits; zero has none. -/
def bitLength (t : Target) : Nat := if t.toNat = 0 then 0 else t.toNat.log2 + 1

/-- The number of significant bytes; zero has none. -/
def byteLength (t : Target) : Nat := (t.bitLength + 7) / 8

/-- **The bit length brackets the magnitude from above.** -/
theorem toNat_lt_two_pow_bitLength (t : Target) : t.toNat < 2 ^ t.bitLength := by
  unfold bitLength
  split
  · rename_i h
    simp [h]
  · exact Nat.lt_log2_self

end Target

end ProofOfWork
