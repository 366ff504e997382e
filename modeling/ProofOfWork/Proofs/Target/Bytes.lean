import Mathlib.Data.List.OfFn
import ProofOfWork.Proofs.Text.Numeral
import ProofOfWork.Target.Bytes
import ProofOfWork.Target.Hex

/-!
# Proofs/Target/Bytes — targets, their bytes and the digits of these

    target ──thirty-two quotients, cut to bytes──▸ bytes ──positions──▸ target
                                                     ╰──two digits each──▸ text

The bytes of a target are its quotients by the powers of 256.  Reading as many of them as there are
positions gives back the number, cut to that many positions (`byteValue_ofFn`), and a target has
room in thirty-two.

A byte is written on two digits, its quotient and its remainder by sixteen.  Digits taken in pairs
denote the number of the bytes that they hold, and on as many digits as it takes no others do
(`Hex.pairs_iff`).  So the text of a target can be read off its bytes one by one
(`Target.toHex_eq_flatMap`).
-/

namespace ProofOfWork

/-- **The quotients by falling powers are the bytes of a number**; the induction is on how many are
taken. -/
theorem byteValue_ofFn (n k : ℕ) :
    byteValue (List.ofFn fun i : Fin k => UInt8.ofNat (n / 256 ^ (k - 1 - i.val))) =
      n % 256 ^ k := by
  induction k with
  | zero => simp [byteValue, Nat.mod_one]
  | succ k ih =>
    have below : (fun i : Fin k => UInt8.ofNat (n / 256 ^ (k + 1 - 1 - i.succ.val))) =
        fun i : Fin k => UInt8.ofNat (n / 256 ^ (k - 1 - i.val)) := by
      funext i
      rw [Fin.val_succ, Nat.add_sub_cancel, Nat.add_comm, Nat.sub_add_eq]
    have top : (UInt8.ofNat (n / 256 ^ k)).toNat = n / 256 ^ k % 256 := UInt8.toNat_ofNat'
    rw [List.ofFn_succ, byteValue_cons, below, ih, List.length_ofFn, Fin.val_zero, Nat.sub_zero,
      Nat.add_sub_cancel, top, Nat.mod_pow_succ, Nat.mul_comm, Nat.add_comm]

namespace Target

theorem toNat_ofBytesBE (bytes : Vector UInt8 32) :
    (ofBytesBE bytes).toNat = byteValue bytes.toList := rfl

theorem toList_toBytesBE (t : Target) : t.toBytesBE.toList =
    List.ofFn fun i : Fin 32 => UInt8.ofNat (t.toNat / 256 ^ (32 - 1 - i.val)) :=
  Vector.toList_ofFn

theorem byteValue_toBytesBE (t : Target) : byteValue t.toBytesBE.toList = t.toNat := by
  have room : t.toNat < 256 ^ 32 := Nat.lt_of_lt_of_eq t.toNat_lt (by decide)
  rw [toList_toBytesBE, byteValue_ofFn, Nat.mod_eq_of_lt room]

/-- **A target is the number of its own bytes.** -/
theorem ofBytesBE_toBytesBE (t : Target) : ofBytesBE t.toBytesBE = t := by
  rw [Target.ext_iff, toNat_ofBytesBE, byteValue_toBytesBE]

end Target

/-! ## Two digits a byte -/

namespace Hex

/-- The values of the two digits of a byte, the higher one first. -/
def nibbles (b : UInt8) : List ℕ := [b.toNat / 16, b.toNat % 16]

/-- The two digits of a byte. -/
def byteDigits (b : UInt8) : List Char := (nibbles b).map Nat.digitChar

/-- **Digits taken in pairs hold bytes.** -/
def Pairs (digits : List Char) (bytes : List UInt8) : Prop :=
  List.Forall₂ Shows digits (bytes.flatMap nibbles)

theorem length_nibbles (bytes : List UInt8) : (bytes.flatMap nibbles).length = 2 * bytes.length := by
  induction bytes with
  | nil => rfl
  | cons b rest ih =>
    rw [List.flatMap_cons, List.length_append, ih, List.length_cons, Nat.mul_succ, Nat.add_comm]
    rfl

theorem nibbles_lt (bytes : List UInt8) : ∀ d ∈ bytes.flatMap nibbles, d < 16 := by
  intro d member
  obtain ⟨b, -, digit⟩ := List.mem_flatMap.1 member
  have := b.toNat_lt
  rcases List.mem_cons.1 digit with rfl | digit
  · omega
  · rw [List.mem_singleton.1 digit]
    omega

/-- **The digits of bytes make up their number**; the induction takes two digits at a time. -/
theorem ofDigits_nibbles (bytes : List UInt8) :
    Nat.ofDigits 16 (bytes.flatMap nibbles).reverse = byteValue bytes := by
  induction bytes with
  | nil => rfl
  | cons b rest ih =>
    have square : 16 ^ (2 * rest.length) = 256 ^ rest.length := Nat.pow_mul 16 2 rest.length
    change Nat.ofDigits 16 (b.toNat / 16 :: b.toNat % 16 :: rest.flatMap nibbles).reverse = _
    rw [Nat.ofDigits_reverse_cons, Nat.ofDigits_reverse_cons, ih, List.length_cons, length_nibbles,
      Nat.pow_succ', square, byteValue_cons]
    have whole := Nat.mod_add_div b.toNat 16
    calc
      byteValue rest + 256 ^ rest.length * (b.toNat % 16) +
            16 * 256 ^ rest.length * (b.toNat / 16)
          = (b.toNat % 16 + 16 * (b.toNat / 16)) * 256 ^ rest.length + byteValue rest := by ring
      _ = b.toNat * 256 ^ rest.length + byteValue rest := by rw [whole]

/-- On twice as many places as there are bytes, no other digits make up their number. -/
theorem eq_nibbles {values : List ℕ} {bytes : List UInt8} (length : values.length = 2 * bytes.length)
    (small : ∀ d ∈ values, d < 16) (value : Nat.ofDigits 16 values.reverse = byteValue bytes) :
    values = bytes.flatMap nibbles := by
  refine List.reverse_injective (Nat.ofDigits_inj_of_len_eq (by decide : 1 < 16) ?_ ?_ ?_ ?_)
  · rw [List.length_reverse, List.length_reverse, length, length_nibbles]
  · exact fun d member => small d (List.mem_reverse.1 member)
  · exact fun d member => nibbles_lt bytes d (List.mem_reverse.1 member)
  · rw [value, ofDigits_nibbles]

/-- **Digits hold bytes exactly when they are two for each and denote their number.** -/
theorem pairs_iff {digits : List Char} {bytes : List UInt8} :
    Pairs digits bytes ↔ digits.length = 2 * bytes.length ∧ Denotes digits (byteValue bytes) := by
  constructor
  · intro pairs
    refine ⟨pairs.length_eq.trans (length_nibbles bytes), _, pairs, (ofDigits_nibbles bytes).symm⟩
  · rintro ⟨length, values, shown, value⟩
    have small : ∀ d ∈ values, d < 16 :=
      ((List.forall₂_and_left _ _).1 (shown.flip.imp fun _ _ digit => ⟨digit.1, digit⟩)).1
    rwa [eq_nibbles (shown.length_eq.symm.trans length) small value.symm] at shown

/-- **A number is written in lower case**, on the digits of its value in base sixteen. -/
theorem exists_minimal_eq_map (n : ℕ) : ∃ values : List ℕ,
    minimal n = values.map Nat.digitChar ∧ (∀ d ∈ values, d < 16) ∧
      Nat.ofDigits 16 values.reverse = n := by
  induction n using Nat.strongRecOn with
  | ind n ih =>
    by_cases small : n < 16
    · exact ⟨[n], Nat.toDigits_of_lt_base small, List.forall_mem_singleton.2 small,
        Nat.ofDigits_singleton⟩
    · obtain ⟨values, written, below, value⟩ := ih (n / 16) (by omega)
      refine ⟨values ++ [n % 16], ?_, ?_, ?_⟩
      · rw [minimal, Nat.toDigits_of_base_le (by decide) (Nat.not_lt.1 small), List.map_append,
          ← written]
        rfl
      · exact List.forall_mem_append.2
          ⟨below, List.forall_mem_singleton.2 (Nat.mod_lt n (by decide))⟩
      · rw [List.reverse_append, List.reverse_singleton, List.singleton_append, Nat.ofDigits_cons,
          value]
        exact Nat.mod_add_div n 16

end Hex

namespace Target

/-- The text of a target is a numeral of sixty-four digits. -/
theorem exists_hexDigits_eq_map (t : Target) : ∃ values : List ℕ,
    t.hexDigits = values.map Nat.digitChar ∧ values.length = 64 ∧ (∀ d ∈ values, d < 16) ∧
      Nat.ofDigits 16 values.reverse = t.toNat := by
  obtain ⟨values, written, below, value⟩ := Hex.exists_minimal_eq_map t.toNat
  have filled : t.hexDigits =
      (List.replicate (64 - (Hex.minimal t.toNat).length) 0 ++ values).map Nat.digitChar := by
    rw [List.map_append, List.map_replicate, ← written]
    rfl
  refine ⟨_, filled, ?_, ?_, ?_⟩
  · rw [← List.length_map, ← filled, t.length_hexDigits]
  · refine List.forall_mem_append.2 ⟨fun d member => ?_, below⟩
    rw [List.eq_of_mem_replicate member]
    decide
  · rw [List.reverse_append, List.reverse_replicate, Nat.ofDigits_append_replicate_zero, value]

/-- **A target is shown on two digits for each of its bytes.** -/
theorem toHex_eq_flatMap (t : Target) :
    t.toHex = String.ofList (t.toBytesBE.toList.flatMap Hex.byteDigits) := by
  obtain ⟨values, written, length, below, value⟩ := t.exists_hexDigits_eq_map
  have places : values.length = 2 * t.toBytesBE.toList.length := by
    rw [length, Vector.length_toList]
  have same := Hex.eq_nibbles places below (value.trans t.byteValue_toBytesBE.symm)
  rw [toHex, written, same, List.map_flatMap]
  rfl

end Target

end ProofOfWork
