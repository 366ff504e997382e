import Mathlib.Algebra.BigOperators.Fin
import Mathlib.Data.Nat.Digits.Defs
import Mathlib.Data.String.Basic
import ProofOfWork.Proofs.Acceptance
import ProofOfWork.Proofs.Target.Bytes
import ProofOfWork.Target.Hex

/-!
# Proofs/Target/ByteOrder — bytes and digits stand in the order of their numbers

    bytes ──values──▸ digits base 256 ──positions──▸ number ◂──positions── digits base 16 ◂── text

Thirty-two bytes, most significant first, and the sixty-four digits on which a target is shown are
both numerals of a fixed length.  Of two such numerals the one that is smaller at the first place
where they differ is the smaller number (`ofDigits_reverse_lt_iff`), since all that comes behind a
place counts for less than one unit of it.  So bytes and texts are compared as their numbers are,
and bytes with the same number are the same (`Target.toBytesBE_ofBytesBE`).
-/

namespace ProofOfWork

/-! ## Numerals of one length -/

section Numerals

variable {base : ℕ}

/-- **What counts for less than one unit of the higher place decides only between equals there.** -/
theorem add_mul_lt_add_mul_iff {low₁ low₂ high₁ high₂ : ℕ} (less₁ : low₁ < base)
    (less₂ : low₂ < base) : low₁ + base * high₁ < low₂ + base * high₂ ↔
      high₁ < high₂ ∨ high₁ = high₂ ∧ low₁ < low₂ := by
  rcases Nat.lt_trichotomy high₁ high₂ with below | rfl | above
  · have step := Nat.mul_le_mul_left base (Nat.succ_le_of_lt below)
    rw [Nat.mul_succ] at step
    exact iff_of_true (by omega) (Or.inl below)
  · omega
  · have step := Nat.mul_le_mul_left base (Nat.succ_le_of_lt above)
    rw [Nat.mul_succ] at step
    exact iff_of_false (by omega) (by omega)

/-- **Of two numerals of one length the first place where they differ decides**; the induction is on
their digits, most significant first. -/
theorem ofDigits_reverse_lt_iff (wide : 1 < base) {xs ys : List ℕ} (length : xs.length = ys.length)
    (small₁ : ∀ d ∈ xs, d < base) (small₂ : ∀ d ∈ ys, d < base) :
    Nat.ofDigits base xs.reverse < Nat.ofDigits base ys.reverse ↔ xs < ys := by
  induction xs generalizing ys with
  | nil =>
    obtain rfl : ys = [] := List.length_eq_zero_iff.1 length.symm
    exact iff_of_false (lt_irrefl _) (List.not_lt_nil _)
  | cons x xs ih =>
    obtain ⟨y, ys, rfl⟩ := List.exists_cons_of_length_eq_add_one length.symm
    have tails : xs.length = ys.length := Nat.succ.inj length
    obtain ⟨-, small₁⟩ := List.forall_mem_cons.1 small₁
    obtain ⟨-, small₂⟩ := List.forall_mem_cons.1 small₂
    have less {zs : List ℕ} (small : ∀ d ∈ zs, d < base) :
        Nat.ofDigits base zs.reverse < base ^ zs.length := by
      have := Nat.ofDigits_lt_base_pow_length wide fun d member => small d (List.mem_reverse.1 member)
      rwa [List.length_reverse] at this
    rw [Nat.ofDigits_reverse_cons, Nat.ofDigits_reverse_cons, ← tails,
      add_mul_lt_add_mul_iff (less small₁) (tails ▸ less small₂), ih tails small₁ small₂,
      List.cons_lt_cons_iff]

/-- A list keeps its place in the order under a function that keeps the order of its entries. -/
theorem map_lt_map_iff {α β : Type} [LT α] [LT β] {f : α → β} {xs ys : List α}
    (order : ∀ a ∈ xs, ∀ b ∈ ys, (f a < f b ↔ a < b) ∧ (f a = f b ↔ a = b)) :
    xs.map f < ys.map f ↔ xs < ys := by
  induction xs generalizing ys with
  | nil => cases ys <;> simp
  | cons a xs ih =>
    cases ys with
    | nil => simp
    | cons b ys =>
      obtain ⟨below, same⟩ := order a List.mem_cons_self b List.mem_cons_self
      have tails := ih fun c member d member' =>
        order c (List.mem_cons_of_mem a member) d (List.mem_cons_of_mem b member')
      rw [List.map_cons, List.map_cons, List.cons_lt_cons_iff, List.cons_lt_cons_iff, below, same,
        tails]

end Numerals

/-! ## Bytes -/

/-- Bytes are a numeral in base 256. -/
theorem byteValue_eq_ofDigits (bytes : List UInt8) :
    byteValue bytes = Nat.ofDigits 256 (bytes.map UInt8.toNat).reverse := by
  induction bytes with
  | nil => rfl
  | cons b rest ih =>
    rw [byteValue_cons, List.map_cons, Nat.ofDigits_reverse_cons, List.length_map, ih, Nat.add_comm,
      Nat.mul_comm]

/-- **As many bytes stand in the order of their numbers.** -/
theorem byteValue_lt_iff {xs ys : List UInt8} (length : xs.length = ys.length) :
    byteValue xs < byteValue ys ↔ xs < ys := by
  have small (bytes : List UInt8) : ∀ d ∈ bytes.map UInt8.toNat, d < 256 :=
    List.forall_mem_map.2 fun b _ => b.toNat_lt
  rw [byteValue_eq_ofDigits, byteValue_eq_ofDigits, ofDigits_reverse_lt_iff (by decide)
    (by rw [List.length_map, List.length_map, length]) (small xs) (small ys)]
  exact map_lt_map_iff fun a _ b _ => ⟨UInt8.lt_iff_toNat_lt.symm, UInt8.toNat_inj⟩

/-- **Every byte counts for the power of its position**; the induction is on how many there are. -/
theorem byteValue_ofFn_eq_sum {k : ℕ} (bytes : Fin k → UInt8) :
    byteValue (List.ofFn bytes) = ∑ i, (bytes i).toNat * 256 ^ (k - 1 - i.val) := by
  induction k with
  | zero => rfl
  | succ k ih =>
    rw [List.ofFn_succ, byteValue_cons, ih, Fin.sum_univ_succ, List.length_ofFn]
    refine congrArg₂ (· + ·) rfl (Finset.sum_congr rfl fun i _ => ?_)
    rw [Fin.val_succ, Nat.add_sub_cancel, Nat.add_comm, Nat.sub_add_eq]

/-- Bytes in wire order count for the powers from the first one on. -/
theorem wireValue_ofFn_eq_sum {k : ℕ} (bytes : Fin k → UInt8) :
    wireValue (List.ofFn bytes) = ∑ i, (bytes i).toNat * 256 ^ i.val := by
  induction k with
  | zero => rfl
  | succ k ih =>
    rw [List.ofFn_succ, wireValue, ih, Fin.sum_univ_succ, Finset.mul_sum, Fin.val_zero, Nat.pow_zero,
      Nat.mul_one]
    refine congrArg₂ (· + ·) rfl (Finset.sum_congr rfl fun i _ => ?_)
    rw [Fin.val_succ, Nat.pow_succ', Nat.mul_left_comm]

namespace Target

/-! ## Thirty-two of them -/

section Bytes

variable {bytes bytes₁ bytes₂ : Vector UInt8 32} {x y : Target}

theorem toList_eq_ofFn (bytes : Vector UInt8 32) :
    bytes.toList = List.ofFn fun i : Fin 32 => bytes[i] := by
  rw [← Vector.toList_ofFn]
  exact congrArg Vector.toList Vector.ofFn_getElem.symm

theorem toNat_ofBytesBE_eq_sum (bytes : Vector UInt8 32) :
    (ofBytesBE bytes).toNat = ∑ i : Fin 32, bytes[i].toNat * 256 ^ (31 - i.val) := by
  rw [toNat_ofBytesBE, toList_eq_ofFn, byteValue_ofFn_eq_sum]

/-- The last byte in wire order counts for the most. -/
theorem toNat_ofBytesLE_eq_sum (bytes : Vector UInt8 32) :
    (ofBytesLE bytes).toNat = ∑ i : Fin 32, bytes[i].toNat * 256 ^ i.val := by
  change wireValue bytes.toList = _
  rw [toList_eq_ofFn, wireValue_ofFn_eq_sum]

theorem ofBytesBE_lt_iff : ofBytesBE bytes₁ < ofBytesBE bytes₂ ↔ bytes₁ < bytes₂ :=
  byteValue_lt_iff (bytes₁.length_toList.trans bytes₂.length_toList.symm)

theorem ofBytesBE_le_iff : ofBytesBE bytes₁ ≤ ofBytesBE bytes₂ ↔ bytes₁ ≤ bytes₂ := by
  rw [← not_lt, ofBytesBE_lt_iff, Vector.not_lt]

/-- **Bytes are those of their own target.** -/
theorem toBytesBE_ofBytesBE (bytes : Vector UInt8 32) : (ofBytesBE bytes).toBytesBE = bytes := by
  have le : (ofBytesBE bytes).toBytesBE ≤ bytes := by
    rw [← ofBytesBE_le_iff, ofBytesBE_toBytesBE]
    exact Nat.le_refl _
  have ge : bytes ≤ (ofBytesBE bytes).toBytesBE := by
    rw [← ofBytesBE_le_iff, ofBytesBE_toBytesBE]
    exact Nat.le_refl _
  exact Vector.le_antisymm le ge

theorem le_iff_toBytesBE_le : x ≤ y ↔ x.toBytesBE ≤ y.toBytesBE := by
  rw [← ofBytesBE_le_iff, ofBytesBE_toBytesBE, ofBytesBE_toBytesBE]

end Bytes

/-! ## Digits -/

/-- **Texts of targets stand in the order of their numbers.** -/
theorem hexDigits_lt_iff {x y : Target} : x.hexDigits < y.hexDigits ↔ x < y := by
  obtain ⟨values₁, written₁, length₁, below₁, value₁⟩ := x.exists_hexDigits_eq_map
  obtain ⟨values₂, written₂, length₂, below₂, value₂⟩ := y.exists_hexDigits_eq_map
  have order : ∀ i j : Fin 16, (Nat.digitChar i < Nat.digitChar j ↔ i.val < j.val) ∧
      (Nat.digitChar i = Nat.digitChar j ↔ i.val = j.val) := by decide
  have numerals := ofDigits_reverse_lt_iff (by decide) (length₁.trans length₂.symm) below₁ below₂
  rw [written₁, written₂, lt_def, ← value₁, ← value₂, numerals]
  exact map_lt_map_iff fun d member e member' =>
    order ⟨d, below₁ d member⟩ ⟨e, below₂ e member'⟩

theorem le_iff_toHex_le {x y : Target} : x ≤ y ↔ x.toHex ≤ y.toHex := by
  have texts : y.toHex < x.toHex ↔ y < x := by
    rw [String.lt_iff_toList_lt, toHex, toHex, String.toList_ofList, String.toList_ofList,
      hexDigits_lt_iff]
  rw [← not_lt, ← texts]
  exact Iff.rfl

/-! ## Hashes -/

/-- A hash is compared with a target as its bytes are, in display order. -/
theorem ofBlockHash_le_iff {bytes : Vector UInt8 32} {t : Target} :
    ofBlockHash ⟨bytes⟩ ≤ t ↔ bytes ≤ t.toBytesBE := by
  rw [ofBlockHash, ← ofBytesBE_le_iff, ofBytesBE_toBytesBE]

/-- **Bytes and targets are two views of one number, in one order.**  Every byte counts for the power
of its position, from the first one on or from the last; the two directions undo each other; a target
is shown on two digits for each of its bytes; and targets, their bytes and their texts of sixty-four
digits stand in one order.  So whether a hash is accepted can be seen on its bytes as they are
displayed. -/
theorem bytes_bijective_ordered (bytes : Vector UInt8 32) (x y : Target) :
    (ofBytesBE bytes).toNat = ∑ i : Fin 32, bytes[i].toNat * 256 ^ (31 - i.val) ∧
    (ofBytesLE bytes).toNat = ∑ i : Fin 32, bytes[i].toNat * 256 ^ i.val ∧
    ofBlockHash ⟨bytes⟩ = ofBytesBE bytes ∧ ofBytesLE bytes = ofBytesBE bytes.reverse ∧
    (ofBytesBE bytes).toBytesBE = bytes ∧ ofBytesBE x.toBytesBE = x ∧
    (x ≤ y ↔ x.toBytesBE ≤ y.toBytesBE) ∧
    x.toHex.length = 64 ∧
    x.toHex = String.ofList (x.toBytesBE.toList.flatMap Hex.byteDigits) ∧
    (x ≤ y ↔ x.toHex ≤ y.toHex) ∧
    (ofBlockHash ⟨bytes⟩ ≤ y ↔ bytes ≤ y.toBytesBE) ∧
    ∀ bits params, meetsTarget ⟨bytes⟩ bits params = true ↔
      ∃ t, bits.decode.validTarget? = some t ∧ bytes ≤ t.toBytesBE ∧ t ≤ params.limit := by
  refine ⟨toNat_ofBytesBE_eq_sum bytes, toNat_ofBytesLE_eq_sum bytes, rfl, ofBytesLE_eq bytes,
    toBytesBE_ofBytesBE bytes, ofBytesBE_toBytesBE x, le_iff_toBytesBE_le, ?_, toHex_eq_flatMap x,
    le_iff_toHex_le, ofBlockHash_le_iff, fun bits params => ?_⟩
  · rw [toHex, String.length_ofList, x.length_hexDigits]
  · simp only [meetsTarget_eq_true_iff, ofBlockHash_le_iff]

end Target

end ProofOfWork
