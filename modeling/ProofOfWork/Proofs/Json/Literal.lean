import Mathlib.Data.List.TakeWhile
import ProofOfWork.Json.Number

/-!
# Proofs/Json/Literal — number literals read back

    sign ──▸ whole part ──▸ point and fraction ──▸ exponent ──▸ nothing

A literal is written part by part, and each part is read up to where the next one begins: digits end
where something else stands, a fraction begins with a point and an exponent with a letter.  So a
written literal is read as what it is (`Number.ofText?_text`), if what stands after its point are
digits (`Number.WellFormed`); that of an integer always is one.
-/

namespace ProofOfWork.Json.Number

/-- **A literal that can be written**: nothing but decimal digits stands after its point. -/
def WellFormed (n : Number) : Prop := ∀ c ∈ n.fraction, c.isDigit = true

/-- The literal of an integer has no point. -/
theorem wellFormed_ofInt (n : ℤ) : (ofInt n).WellFormed := nofun

/-- The point and the digits behind it. -/
def fractionText : List Char → List Char
  | [] => []
  | digits => '.' :: digits

/-- The exponent, where there is one. -/
def exponentText : Option ℤ → List Char
  | none => []
  | some power => 'e' :: (if power < 0 then '-' else '+') :: Nat.toDigits 10 power.natAbs

theorem text_eq (n : Number) :
    n.text = (if n.negative then ['-'] else []) ++
      (Nat.toDigits 10 n.whole ++ (fractionText n.fraction ++ exponentText n.exponent)) := by
  rw [← List.append_assoc, ← List.append_assoc]
  cases n with
  | mk negative whole fraction exponent => cases fraction <;> cases exponent <;> rfl

/-! ## Digits -/

/-- **Digits are read up to where something else stands.** -/
theorem takeDigits_append {digits rest : List Char} (all : ∀ c ∈ digits, c.isDigit = true)
    (ends : ∀ c ∈ rest.head?, c.isDigit = false) : takeDigits (digits ++ rest) = (digits, rest) := by
  have stops : rest.takeWhile Char.isDigit = [] ∧ rest.dropWhile Char.isDigit = rest := by
    cases rest with
    | nil => exact ⟨rfl, rfl⟩
    | cons c rest =>
      have other : ¬ c.isDigit = true := Bool.not_eq_true _ ▸ ends c rfl
      exact ⟨List.takeWhile_cons_of_neg other, List.dropWhile_cons_of_neg other⟩
  rw [takeDigits, List.takeWhile_append_of_pos all, List.dropWhile_append_of_pos all, stops.1,
    stops.2, List.append_nil]

theorem isDigit_of_mem_toDigits {n : ℕ} : ∀ c ∈ Nat.toDigits 10 n, c.isDigit = true :=
  fun _ => Nat.isDigit_of_mem_toDigits (by decide) (by decide)

/-- A number has a first digit. -/
theorem exists_toDigits_eq_cons (n : ℕ) :
    ∃ c more, Nat.toDigits 10 n = c :: more ∧ c.isDigit = true := by
  have started : Nat.toDigits 10 n ≠ [] := Nat.toDigits_ne_nil
  obtain ⟨c, more, shown⟩ := List.exists_cons_of_ne_nil started
  exact ⟨c, more, shown, isDigit_of_mem_toDigits c (shown ▸ List.mem_cons_self)⟩

/-- **No zero stands in front of the digits of a number**, unless it is the number zero. -/
theorem head?_toDigits_ne_zero {n : ℕ} (nonzero : n ≠ 0) : (Nat.toDigits 10 n).head? ≠ some '0' := by
  induction n using Nat.strongRecOn with
  | ind n ih =>
    by_cases small : n < 10
    · rw [Nat.toDigits_of_lt_base small, List.head?_cons, Ne, Option.some.injEq,
        Nat.digitChar_eq_zero]
      exact nonzero
    · obtain ⟨c, more, shown, -⟩ := exists_toDigits_eq_cons (n / 10)
      have before := ih (n / 10) (by omega) (by omega)
      rw [shown] at before
      rw [Nat.toDigits_of_base_le (by decide) (Nat.not_lt.1 small), shown]
      exact before

/-! ## Parts -/

theorem takeSign_append {negative : Bool} {text : List Char} (unsigned : text.head? ≠ some '-') :
    takeSign ((if negative then ['-'] else []) ++ text) = (negative, text) := by
  cases negative with
  | true => rfl
  | false =>
    rw [if_neg Bool.false_ne_true, List.nil_append, takeSign]
    rintro rest rfl
    exact unsigned rfl

/-- **A whole part is read up to where its digits end.** -/
theorem takeWhole?_append (n : ℕ) {rest : List Char} (ends : ∀ c ∈ rest.head?, c.isDigit = false) :
    takeWhole? (Nat.toDigits 10 n ++ rest) = some (n, rest) := by
  have taken : takeDigits (Nat.toDigits 10 n ++ rest) = (Nat.toDigits 10 n, rest) :=
    takeDigits_append isDigit_of_mem_toDigits ends
  unfold takeWhole?
  rw [taken]
  split <;> rename_i same
  · exact absurd (Prod.mk.inj same).1 Nat.toDigits_ne_nil
  · rename_i second more _
    have digits : Nat.toDigits 10 n = '0' :: second :: more := (Prod.mk.inj same).1
    -- only the number zero begins with a zero, and it has no second digit
    obtain rfl : n = 0 := by
      by_contra nonzero
      exact head?_toDigits_ne_zero nonzero (by rw [digits]; rfl)
    cases digits
  · obtain ⟨rfl, rfl⟩ := Prod.mk.inj same
    rw [Nat.ofDigitChars_ten_toDigits]

/-- **A fraction is read up to where its digits end**; without one, no point may come. -/
theorem takeFraction?_append {fraction rest : List Char}
    (digits : ∀ c ∈ fraction, c.isDigit = true)
    (ends : ∀ c ∈ rest.head?, c.isDigit = false ∧ c ≠ '.') :
    takeFraction? (fractionText fraction ++ rest) = some (fraction, rest) := by
  cases fraction with
  | nil =>
    rw [fractionText, List.nil_append, takeFraction?]
    rintro text rfl
    exact (ends '.' rfl).2 rfl
  | cons c more =>
    have taken : takeDigits (c :: more ++ rest) = (c :: more, rest) :=
      takeDigits_append digits fun c first => (ends c first).1
    have written : fractionText (c :: more) = '.' :: c :: more := rfl
    rw [written, List.cons_append, takeFraction?, taken]

theorem takePower?_toDigits (power : ℤ) :
    takePower? ((if power < 0 then '-' else '+') :: Nat.toDigits 10 power.natAbs) =
      some (power, []) := by
  obtain ⟨c, more, digits, -⟩ := exists_toDigits_eq_cons power.natAbs
  have taken : takeDigits (c :: more) = (c :: more, []) := by
    have all : ∀ d ∈ c :: more, d.isDigit = true := digits ▸ isDigit_of_mem_toDigits
    have ends : ∀ d ∈ ([] : List Char).head?, d.isDigit = false := nofun
    rw [← takeDigits_append all ends, List.append_nil]
  have value : Nat.ofDigitChars 10 (c :: more) 0 = power.natAbs :=
    digits ▸ Nat.ofDigitChars_ten_toDigits
  rw [digits]
  by_cases negative : power < 0
  · rw [if_pos negative, takePower?]
    simp only [taken, value, if_true, Option.some.injEq, Prod.mk.injEq, and_true]
    omega
  · rw [if_neg negative, takePower?]
    simp only [taken, value, Bool.false_eq_true, if_false, Option.some.injEq, Prod.mk.injEq,
      and_true]
    omega

/-- **An exponent is read to its end.** -/
theorem takeExponent?_exponentText (exponent : Option ℤ) :
    takeExponent? (exponentText exponent) = some (exponent, []) := by
  cases exponent with
  | none => rfl
  | some power => rw [exponentText, takeExponent?, takePower?_toDigits]; rfl

/-! ## Literals -/

theorem head?_exponentText {exponent : Option ℤ} :
    ∀ c ∈ (exponentText exponent).head?, c = 'e' := by
  cases exponent with
  | none => exact nofun
  | some power => rintro c ⟨⟩; rfl

/-- **A written literal reads back.** -/
theorem ofText?_text {n : Number} (digits : n.WellFormed) : ofText? n.text = some n := by
  obtain ⟨negative, whole, fraction, exponent⟩ := n
  have exponentEnds : ∀ c ∈ (exponentText exponent).head?, c.isDigit = false ∧ c ≠ '.' := by
    intro c first
    rw [head?_exponentText c first]
    decide
  have fractionEnds :
      ∀ c ∈ (fractionText fraction ++ exponentText exponent).head?, c.isDigit = false := by
    cases fraction with
    | nil => exact fun c first => (exponentEnds c first).1
    | cons d more => rintro c ⟨⟩; decide
  have unsigned : (Nat.toDigits 10 whole ++
      (fractionText fraction ++ exponentText exponent)).head? ≠ some '-' := by
    obtain ⟨c, more, shown, digit⟩ := exists_toDigits_eq_cons whole
    rw [shown, List.cons_append, List.head?_cons, Ne, Option.some.injEq]
    rintro rfl
    cases digit
  rw [text_eq, ofText?, takeSign_append unsigned]
  dsimp only
  rw [takeWhole?_append whole fractionEnds]
  dsimp only [Option.bind_eq_bind, Option.bind_some]
  rw [takeFraction?_append digits exponentEnds]
  dsimp only [Option.bind_eq_bind, Option.bind_some]
  rw [takeExponent?_exponentText]
  rfl

end ProofOfWork.Json.Number
