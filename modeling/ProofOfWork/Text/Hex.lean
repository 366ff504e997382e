import ProofOfWork.Basic

/-!
# Text/Hex — numerals in base sixteen

Digits are read in either case and written in lower case.  `Hex.value?` reads a run of digits, most
significant first; `Hex.fixed` writes a number on a fixed number of places and `Hex.minimal` with
none to spare.  The digit laws are `Hex.digit?_digitChar` and `Hex.digit?_lt`; `Hex.value?_append`
splits a numeral, and `Hex.value?_minimal` reads a written one back.
-/

namespace ProofOfWork.Hex

/-- The value of one digit, of either case. -/
def digit? (c : Char) : Option Nat :=
  if '0' ≤ c ∧ c ≤ '9' then some (c.toNat - '0'.toNat)
  else if 'a' ≤ c ∧ c ≤ 'f' then some (c.toNat - 'a'.toNat + 10)
  else if 'A' ≤ c ∧ c ≤ 'F' then some (c.toNat - 'A'.toNat + 10)
  else none

/-- One more digit at the low end of a numeral already worth `n`. -/
def shiftIn? (n : Nat) (c : Char) : Option Nat :=
  (digit? c).map (16 * n + ·)

/-- The number a run of digits denotes.  An empty run denotes zero. -/
def value? (digits : List Char) : Option Nat :=
  digits.foldlM shiftIn? 0

/-- The digits of a number, with no leading zero; zero is written `0`. -/
def minimal (n : Nat) : List Char :=
  Nat.toDigits 16 n

/-- The digits of a number on at least `places` places, filled with zeros on the left. -/
def fixed (places n : Nat) : List Char :=
  (minimal n).leftpad places '0'

/-! ## Digits -/

/-- **A written digit reads back.** -/
theorem digit?_digitChar {d : Nat} (h : d < 16) : digit? d.digitChar = some d := by
  have all : ∀ k : Fin 16, digit? (Nat.digitChar k) = some k.val := by decide
  exact all ⟨d, h⟩

/-- A digit is worth less than the base. -/
theorem digit?_lt {c : Char} {d : Nat} (h : digit? c = some d) : d < 16 := by
  simp only [digit?, Char.le_def, UInt32.le_iff_toNat_le] at h
  split at h
  · rename_i bounds
    have := bounds.2
    simp only [Option.some.injEq] at h
    simp only [Char.toNat] at h
    change c.val.toNat ≤ 57 at this
    change c.val.toNat - 48 = d at h
    omega
  · split at h
    · rename_i bounds
      have := bounds.2
      simp only [Option.some.injEq] at h
      change c.val.toNat ≤ 102 at this
      change c.val.toNat - 97 + 10 = d at h
      omega
    · split at h
      · rename_i bounds
        have := bounds.2
        simp only [Option.some.injEq] at h
        change c.val.toNat ≤ 70 at this
        change c.val.toNat - 65 + 10 = d at h
        omega
      · cases h

/-! ## Numerals -/

/-- Reading goes on from the value of what has been read. -/
theorem value?_append (a b : List Char) :
    value? (a ++ b) = (value? a).bind fun n => b.foldlM shiftIn? n :=
  List.foldlM_append

/-- Leading zeros carry no value. -/
theorem value?_replicate_zero_append (k : Nat) (digits : List Char) :
    value? (List.replicate k '0' ++ digits) = value? digits := by
  induction k with
  | zero => rfl
  | succ k ih => exact ih

/-- **A written number reads back.** -/
theorem value?_minimal (n : Nat) : value? (minimal n) = some n := by
  induction n using Nat.strongRecOn with
  | ind n ih =>
    by_cases small : n < 16
    · simp [minimal, Nat.toDigits_of_lt_base small, value?, shiftIn?, digit?_digitChar small]
    · have split : minimal n = minimal (n / 16) ++ [(n % 16).digitChar] := by
        have low : n % 16 < 16 := Nat.mod_lt _ (by decide)
        have := Nat.toDigits_append_toDigits (b := 16) (n := n / 16) (d := n % 16)
          (by decide) (by omega) low
        rw [Nat.toDigits_of_lt_base low, Nat.div_add_mod] at this
        exact this.symm
      rw [split, value?_append, ih (n / 16) (by omega)]
      simp [shiftIn?, digit?_digitChar (Nat.mod_lt n (by decide : 16 > 0))]
      omega

/-- A number written on fixed places reads back. -/
theorem value?_fixed (places n : Nat) : value? (fixed places n) = some n := by
  rw [fixed, List.leftpad, value?_replicate_zero_append, value?_minimal]

/-- A number that fits is written on exactly the places it is given. -/
theorem length_fixed {places n : Nat} (room : 0 < places) (fits : n < 16 ^ places) :
    (fixed places n).length = places := by
  have := (Nat.length_toDigits_le_iff (n := n) (by decide : 1 < 16) room).2 fits
  simp only [fixed, List.length_leftpad, minimal]
  omega

end ProofOfWork.Hex
