import ProofOfWork.Basic
import ProofOfWork.Target.Hex

/-!
# Arithmetic — operations that never wrap

    a, n, d ──full product──▸ double width ──÷ d──▸ quotient ──narrow, or hold at the top──▸ target

Consensus must never rest on a number that was silently cut, so every operation that could leave its
range says so with a `Fault`, which keeps the operands at which it stopped, instead of going on.  The
result lemmas say when an operation succeeds and with which number (`add_eq_ok_iff`,
`sub_eq_ok_iff`, `mulSmall_eq_ok_iff`, `divSmall_of_pos`, `mulDiv_of_pos`).

The one operation that holds its result back instead is `Target.mulDiv`, which forms the product at
full width (`Target.fullMul_lt`) and puts the largest target in the place of a quotient that is none:
both retargeting rules compare the outcome with a limit afterwards, below which nothing of this shows.
-/

namespace ProofOfWork

/-- **Why a computation has no result.** -/
inductive Fault where
  /-- The sum of two targets is wider than a target. -/
  | sumTooWide (a b : Target)
  /-- The second target is larger than the first it is taken from. -/
  | negativeDifference (a b : Target)
  /-- The product of two targets is wider than a target. -/
  | productTooWide (a b : Target)
  /-- The multiple of a target is wider than a target. -/
  | multipleTooWide (a : Target) (n : Nat)
  /-- A division by zero. -/
  | zeroDivisor
  /-- A quotient of two 64-bit integers that is not one itself. -/
  | quotientTooWide
  /-- A clamp between bounds of which the lower lies above the upper. -/
  | emptyRange
  deriving DecidableEq

/-- What a fault says. -/
def Fault.message : Fault → String
  | .sumTooWide a b => "target addition overflow: " ++ a.toHex ++ " + " ++ b.toHex
  | .negativeDifference a b => "target subtraction underflow: " ++ a.toHex ++ " - " ++ b.toHex
  | .productTooWide a b => "target multiplication overflow: " ++ a.toHex ++ " * " ++ b.toHex
  | .multipleTooWide a n => "target multiplication overflow: " ++ a.toHex ++ " * " ++ toString n
  | .zeroDivisor => "division by zero"
  | .quotientTooWide => "quotient out of range"
  | .emptyRange => "clamp between crossed bounds"

/-! ## Durations -/

/-- **The quotient of two counts**, without its fraction.  That of the least count by minus one is no
count. -/
def Seconds.div (a b : Seconds) : Except Fault Seconds :=
  if b.toInt = 0 then .error .zeroDivisor
  else
    match ofInt? (a.toInt.tdiv b.toInt) with
    | some quotient => .ok quotient
    | none => .error .quotientTooWide

/-- **By a positive count every count can be divided**: the quotient is no larger on either side of
zero. -/
theorem Seconds.div_of_pos (a : Seconds) {b : Seconds} (positive : 0 < b.toInt) :
    ∃ quotient : Seconds, a.div b = .ok quotient ∧ quotient.toInt = a.toInt.tdiv b.toInt := by
  have least := a.le_toInt
  have most := a.toInt_lt
  have range : -2 ^ 63 ≤ a.toInt.tdiv b.toInt ∧ a.toInt.tdiv b.toInt < 2 ^ 63 := by
    rcases Int.le_total 0 a.toInt with above | below
    · have low := Int.tdiv_nonneg above (Int.le_of_lt positive)
      have high := Int.tdiv_le_self b.toInt above
      omega
    · have low := Int.tdiv_nonneg (Int.neg_nonneg_of_nonpos below) (Int.le_of_lt positive)
      have high := Int.tdiv_le_self b.toInt (Int.neg_nonneg_of_nonpos below)
      rw [Int.neg_tdiv] at low high
      omega
  have fits : ofInt? (a.toInt.tdiv b.toInt) = some (Int64.ofInt (a.toInt.tdiv b.toInt)) :=
    if_pos range
  have divisor : b.toInt ≠ 0 := Int.ne_of_gt positive
  refine ⟨_, ?_, ofInt?_eq_some_iff.1 fits⟩
  rw [div, if_neg divisor, fits]

namespace Target

/-! ## Targets -/

/-- The exact sum. -/
def add (a b : Target) : Except Fault Target :=
  match ofNat? (a.toNat + b.toNat) with
  | some sum => .ok sum
  | none => .error (.sumTooWide a b)

/-- The exact difference. -/
def sub (a b : Target) : Except Fault Target :=
  if b ≤ a then .ok ⟨a.toNat - b.toNat, Nat.lt_of_le_of_lt (Nat.sub_le _ _) a.toNat_lt⟩
  else .error (.negativeDifference a b)

/-- The exact product. -/
def mul (a b : Target) : Except Fault Target :=
  match ofNat? (a.toNat * b.toNat) with
  | some product => .ok product
  | none => .error (.productTooWide a b)

/-- The quotient by a number, without its fraction. -/
def divSmall (a : Target) (n : Nat) : Except Fault Target :=
  if n = 0 then .error .zeroDivisor
  else .ok ⟨a.toNat / n, Nat.lt_of_le_of_lt (Nat.div_le_self _ _) a.toNat_lt⟩

/-- The quotient of two targets, without its fraction. -/
def div (a b : Target) : Except Fault Target := a.divSmall b.toNat

/-- The exact multiple, where it is a target. -/
def mulSmall? (a : Target) (n : Nat) : Option Target := ofNat? (a.toNat * n)

/-- The exact multiple. -/
def mulSmall (a : Target) (n : Nat) : Except Fault Target :=
  match a.mulSmall? n with
  | some product => .ok product
  | none => .error (.multipleTooWide a n)

/-- The product at full width: twice 256 bits, for a factor of up to 256 (`fullMul_lt`). -/
def fullMul (a : Target) (n : Nat) : Nat := a.toNat * n

/-- **The target scaled by `n / d`**: the product at full width, divided without its fraction, and
narrowed to a target, or the largest target where the quotient is none. -/
def mulDiv (a : Target) (n d : Nat) : Except Fault Target :=
  if d = 0 then .error .zeroDivisor
  else
    match ofNat? (a.fullMul n / d) with
    | some quotient => .ok quotient
    | none => .ok largest

/-! ## Results -/

/-- **A sum exists exactly when it fits.** -/
theorem add_eq_ok_iff {a b c : Target} : a.add b = .ok c ↔ a.toNat + b.toNat = c.toNat := by
  unfold add
  cases shape : ofNat? (a.toNat + b.toNat) with
  | none =>
    simp only [reduceCtorEq, false_iff]
    intro sum
    rw [ofNat?_eq_some_iff.2 sum.symm] at shape
    cases shape
  | some s =>
    rw [ofNat?_eq_some_iff] at shape
    simp only [Except.ok.injEq]
    exact ⟨fun h => h ▸ shape.symm, fun h => ext (shape.trans h)⟩

/-- **A difference exists exactly when it is not negative.** -/
theorem sub_eq_ok_iff {a b c : Target} : a.sub b = .ok c ↔ a.toNat = b.toNat + c.toNat := by
  unfold sub
  split <;> rename_i h <;> rw [le_def] at h
  · simp only [Except.ok.injEq, Target.ext_iff]
    omega
  · simp only [reduceCtorEq, false_iff]
    omega

theorem add_of_lt {a b : Target} (fits : a.toNat + b.toNat < 2 ^ 256) :
    ∃ c : Target, a.add b = .ok c ∧ c.toNat = a.toNat + b.toNat :=
  ⟨⟨_, fits⟩, add_eq_ok_iff.2 rfl, rfl⟩

theorem sub_of_le {a b : Target} (h : b ≤ a) :
    ∃ c : Target, a.sub b = .ok c ∧ c.toNat = a.toNat - b.toNat :=
  ⟨_, if_pos h, rfl⟩

theorem mulSmall?_eq_some_iff {a c : Target} {n : Nat} :
    a.mulSmall? n = some c ↔ c.toNat = a.toNat * n :=
  ofNat?_eq_some_iff

theorem mulSmall_eq_ok_iff {a c : Target} {n : Nat} :
    a.mulSmall n = .ok c ↔ a.mulSmall? n = some c := by
  unfold mulSmall
  cases a.mulSmall? n <;> simp

theorem divSmall_of_pos (a : Target) {n : Nat} (h : 0 < n) :
    ∃ q : Target, a.divSmall n = .ok q ∧ q.toNat = a.toNat / n := by
  have nonzero : n ≠ 0 := by omega
  exact ⟨_, if_neg nonzero, rfl⟩

/-- **A product with a number of 256 bits has room in twice as many.** -/
theorem fullMul_lt (a : Target) {n : Nat} (narrow : n < 2 ^ 256) :
    a.fullMul n < 2 ^ (256 + 256) := by
  rw [Nat.pow_add]
  exact Nat.mul_lt_mul'' a.toNat_lt narrow

/-- A number is narrowed to a target, or held at the largest one. -/
theorem getD_ofNat?_largest (n : Nat) : (ofNat? n).getD largest = saturate n := by
  rw [Target.ext_iff, toNat_saturate]
  unfold ofNat?
  split <;> rename_i fits
  · exact (Nat.min_eq_left (Nat.le_pred_of_lt fits)).symm
  · exact (Nat.min_eq_right (Nat.le_trans (Nat.sub_le _ _) (Nat.not_lt.1 fits))).symm

/-- **Scaling is exact up to the largest target.** -/
theorem mulDiv_of_pos (a : Target) (n : Nat) {d : Nat} (h : 0 < d) :
    a.mulDiv n d = .ok (saturate (a.toNat * n / d)) := by
  have nonzero : d ≠ 0 := by omega
  rw [mulDiv, if_neg nonzero, ← getD_ofNat?_largest]
  unfold fullMul
  cases ofNat? (a.toNat * n / d) <;> rfl

end Target

end ProofOfWork
