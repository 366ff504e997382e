import Mathlib.Data.List.Forall2
import Mathlib.Data.Nat.Digits.Lemmas
import ProofOfWork.Text.Blank
import ProofOfWork.Text.Hex

/-!
# Proofs/Text/Numeral — what a run of hexadecimal digits denotes

    digits ──each of either case──▸ values below sixteen ──positions──▸ number

`Hex.Denotes` says what a numeral is without a reader: every character is the digit of a value, in
lower or in upper case, and the number is the sum over the positions.  The reader that takes digits
in from the left one at a time answers exactly that number (`Hex.foldlM_shiftIn?_eq_some_iff`,
`Hex.value?_eq_some_iff`).  On numerals of one length the digits are settled by the number, up to
their case (`Hex.Denotes.recased`).
-/

namespace ProofOfWork.Hex

/-- **A character shows a value**: it is its digit, in lower or in upper case. -/
def Shows (c : Char) (d : ℕ) : Prop := d < 16 ∧ (c = d.digitChar ∨ c = d.digitChar.toUpper)

/-- **The number that digits denote**, most significant first. -/
def Denotes (digits : List Char) (n : ℕ) : Prop :=
  ∃ values, List.Forall₂ Shows digits values ∧ n = Nat.ofDigits 16 values.reverse

/-- A digit as it stands, or in upper case. -/
def EitherCase (written digit : Char) : Prop := written = digit ∨ written = digit.toUpper

/-! ## Digits -/

/-- Every digit is an ASCII character. -/
theorem toNat_lt_of_digit? {c : Char} {d : ℕ} (read : digit? c = some d) : c.toNat < 128 := by
  by_contra wide
  have beyond : ∀ bound : Char, bound.toNat < 128 → ¬ c ≤ bound := by
    intro bound small below
    have : c.toNat ≤ bound.toNat := below
    omega
  have nine := beyond '9' (by decide)
  have f := beyond 'f' (by decide)
  have F := beyond 'F' (by decide)
  simp only [digit?, nine, f, F, and_false, if_false, reduceCtorEq] at read

/-- **The reader knows exactly the digits.** -/
theorem digit?_eq_some_iff {c : Char} {d : ℕ} : digit? c = some d ↔ Shows c d := by
  constructor
  · intro read
    -- a character is settled by its number, and only ASCII is to be looked at
    have table : ∀ n : Fin 128, ∀ d ∈ digit? (Char.ofNat n), Char.ofNat n = d.digitChar ∨
        Char.ofNat n = d.digitChar.toUpper := by decide
    have same : Char.ofNat c.toNat = c := Char.ofNat_toNat c
    have found := table ⟨c.toNat, toNat_lt_of_digit? read⟩ d (by rw [same]; exact read)
    exact ⟨digit?_lt read, by rwa [same] at found⟩
  · rintro ⟨small, rfl | rfl⟩
    · exact digit?_digitChar small
    · have upper : ∀ k : Fin 16, digit? (Nat.digitChar k).toUpper = some k.val := by decide
      exact upper ⟨d, small⟩

section Shows

variable {c : Char} {d : ℕ}

/-- The twenty-two digits. -/
def allDigits : List Char :=
  ['0', '1', '2', '3', '4', '5', '6', '7', '8', '9', 'a', 'b', 'c', 'd', 'e', 'f', 'A', 'B', 'C', 'D',
    'E', 'F']

theorem Shows.mem (shown : Shows c d) : c ∈ allDigits := by
  have table : ∀ k : Fin 16, Nat.digitChar k ∈ allDigits ∧
      (Nat.digitChar k).toUpper ∈ allDigits := by decide
  obtain ⟨small, rfl | rfl⟩ := shown
  · exact (table ⟨d, small⟩).1
  · exact (table ⟨d, small⟩).2

/-- What holds of the twenty-two holds of every digit. -/
@[elab_as_elim]
theorem Shows.of_forall {P : Char → Prop} (shown : Shows c d) (table : allDigits.Forall P) : P c :=
  List.forall_iff_forall_mem.1 table c shown.mem

theorem Shows.isBlank (shown : Shows c d) : isBlank c = false :=
  shown.of_forall (by decide)

theorem Shows.utf8Size (shown : Shows c d) : c.utf8Size = 1 :=
  shown.of_forall (by decide)

/-- No digit is a letter of a mark or a sign. -/
theorem Shows.ne_mark (shown : Shows c d) : c ≠ 'x' ∧ c ≠ 'X' ∧ c ≠ '+' :=
  shown.of_forall (by decide)

/-- A digit in either case shows the same value. -/
theorem Shows.recased {written : Char} (shown : Shows c d) (either : EitherCase written c) :
    Shows written d := by
  have twice : ∀ k : Fin 16, (Nat.digitChar k).toUpper.toUpper = (Nat.digitChar k).toUpper := by
    decide
  obtain ⟨small, rfl | rfl⟩ := shown
  · exact ⟨small, either⟩
  · rw [EitherCase, twice ⟨d, small⟩, or_self] at either
    exact ⟨small, Or.inr either⟩

end Shows

/-! ## Numerals -/

/-- **Taking digits in from the left adds them up by their positions**; the induction is on the
digits, from the value of those already taken. -/
theorem foldlM_shiftIn?_eq_some_iff {digits : List Char} {n m : ℕ} :
    digits.foldlM shiftIn? n = some m ↔
      ∃ values, List.Forall₂ Shows digits values ∧
        m = values.foldl (fun total d => 16 * total + d) n := by
  induction digits generalizing n with
  | nil => simp [eq_comm]
  | cons c rest ih =>
    rw [List.foldlM_cons]
    simp only [List.forall₂_cons_left_iff]
    constructor
    · intro read
      obtain ⟨more, taken, read⟩ := Option.bind_eq_some_iff.1 read
      obtain ⟨d, digit, rfl⟩ := Option.map_eq_some_iff.1 taken
      obtain ⟨values, shown, rfl⟩ := ih.1 read
      exact ⟨d :: values, ⟨d, values, digit?_eq_some_iff.1 digit, shown, rfl⟩, rfl⟩
    · rintro ⟨_, ⟨d, values, digit, shown, rfl⟩, rfl⟩
      refine Option.bind_eq_some_iff.2 ⟨16 * n + d, ?_, ih.2 ⟨values, shown, rfl⟩⟩
      rw [shiftIn?, digit?_eq_some_iff.2 digit, Option.map_some]

/-- Further digits never make a value smaller. -/
theorem le_of_foldlM_shiftIn? {digits : List Char} {n m : ℕ}
    (read : digits.foldlM shiftIn? n = some m) : n ≤ m := by
  induction digits generalizing n with
  | nil => exact (Option.some.inj read).le
  | cons c rest ih =>
    obtain ⟨more, taken, read⟩ := Option.bind_eq_some_iff.1 read
    obtain ⟨d, -, rfl⟩ := Option.map_eq_some_iff.1 taken
    have := ih read
    omega

/-- **The reader answers the number that digits denote**, and nothing to other texts. -/
theorem value?_eq_some_iff {digits : List Char} {n : ℕ} :
    value? digits = some n ↔ Denotes digits n := by
  have positions (values : List ℕ) : Nat.ofDigits 16 values.reverse =
      values.foldl (fun total d => 16 * total + d) 0 := by
    rw [Nat.ofDigits_eq_foldr, List.foldr_reverse]
    simp only [Nat.cast_id, Nat.add_comm]
  simp only [Denotes, positions]
  exact foldlM_shiftIn?_eq_some_iff

section Denotes

variable {digits : List Char} {n m : ℕ}

theorem Denotes.unique (one : Denotes digits n) (other : Denotes digits m) : n = m :=
  Option.some.inj ((value?_eq_some_iff.2 one).symm.trans (value?_eq_some_iff.2 other))

theorem Denotes.exists_shows (denotes : Denotes digits n) : ∀ c ∈ digits, ∃ d, Shows c d := by
  obtain ⟨values, shown, -⟩ := denotes
  exact ((List.forall₂_and_left _ _).1 (shown.imp fun _ d digit => ⟨⟨d, digit⟩, digit⟩)).1

/-- **Digits, and digits alone, denote a number.** -/
theorem exists_denotes_iff : (∃ n, Denotes digits n) ↔ ∀ c ∈ digits, ∃ d, Shows c d := by
  constructor
  · rintro ⟨n, denotes⟩
    exact denotes.exists_shows
  · intro single
    obtain ⟨values, shown⟩ : ∃ values, List.Forall₂ Shows digits values := by
      induction digits with
      | nil => exact ⟨[], .nil⟩
      | cons c rest ih =>
        obtain ⟨⟨d, digit⟩, single⟩ := List.forall_mem_cons.1 single
        obtain ⟨values, shown⟩ := ih single
        exact ⟨d :: values, .cons digit shown⟩
    exact ⟨_, values, shown, rfl⟩

/-- **A numeral is below the power of its length.** -/
theorem Denotes.lt (denotes : Denotes digits n) : n < 16 ^ digits.length := by
  obtain ⟨values, shown, rfl⟩ := denotes
  have small : ∀ d ∈ values, d < 16 :=
    ((List.forall₂_and_left _ _).1 (shown.flip.imp fun _ _ digit => ⟨digit.1, digit⟩)).1
  have := Nat.ofDigits_lt_base_pow_length (by decide : 1 < 16)
    fun d member => small d (List.mem_reverse.1 member)
  rwa [List.length_reverse, ← shown.length_eq] at this

/-- **Leading zeros carry no value.** -/
theorem denotes_replicate_zero_append_iff {k : ℕ} :
    Denotes (List.replicate k '0' ++ digits) n ↔ Denotes digits n := by
  rw [← value?_eq_some_iff, value?_replicate_zero_append, value?_eq_some_iff]

/-- A number written on fixed places is denoted by what is written. -/
theorem denotes_fixed (places n : ℕ) : Denotes (fixed places n) n :=
  value?_eq_some_iff.1 (value?_fixed places n)

/-- **The case of digits does not matter.** -/
theorem Denotes.recased {written : List Char} (denotes : Denotes digits n)
    (either : List.Forall₂ EitherCase written digits) : Denotes written n := by
  obtain ⟨values, shown, rfl⟩ := denotes
  refine ⟨values, ?_, rfl⟩
  induction either generalizing values with
  | nil => exact shown
  | cons same _ ih =>
    obtain ⟨d, rest, digit, others, rfl⟩ := List.forall₂_cons_left_iff.1 shown
    exact .cons (digit.recased same) (ih rest others)

end Denotes

end ProofOfWork.Hex
