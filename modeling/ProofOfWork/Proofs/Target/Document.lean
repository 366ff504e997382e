import ProofOfWork.Params.Document
import ProofOfWork.Proofs.Json.Reading
import ProofOfWork.Proofs.Text.Numeral

/-!
# Proofs/Target/Document — targets, words and seconds read back from their documents

    target ──0x and digits, none to spare──▸ text ──mark off──▸ digits ──value──▸ target

What a record holds in one field is a target, a compact word or a count of seconds, and each reads
back from the document it is written as.  Words and seconds are integers within a range.  A target
is a text of one to sixty-four digits (`length_minimal`), none of which is a gap, so that every digit
is kept and the mark in front is the only one.
-/

namespace ProofOfWork

open Json (Value isGap)

/-! ## Integers -/

theorem Seconds.ofJson?_toJson (s : Seconds) : Seconds.ofJson? s.toJson = some s := by
  rw [Seconds.ofJson?, Seconds.toJson, Value.int?_int, Option.bind_some]
  exact Seconds.ofInt?_eq_some_iff.2 rfl

theorem Compact.ofJson?_toJson (c : Compact) : Compact.ofJson? c.toJson = some c := by
  rw [Compact.ofJson?, Compact.toJson, Value.natBelow?_int c.word.toNat_lt, Option.map_some,
    UInt32.ofNat_toNat]

/-! ## Targets -/

/-- The digits of a target are at least one and at most sixty-four. -/
theorem Target.length_minimal (t : Target) :
    1 ≤ (Hex.minimal t.toNat).length ∧ (Hex.minimal t.toNat).length ≤ 64 := by
  have fits : t.toNat < 16 ^ 64 := Nat.lt_of_lt_of_eq t.toNat_lt (by decide)
  exact ⟨Nat.length_toDigits_pos,
    (Nat.length_toDigits_le_iff (by decide) (by decide)).2 fits⟩

/-- No digit is a gap. -/
theorem Hex.Shows.isGap {c : Char} {d : ℕ} (shown : Hex.Shows c d) : isGap c = false :=
  shown.of_forall (by decide)

/-- **A numeral of fitting length is taken whole**, without the mark in front of it. -/
theorem digitsOfJson?_marked {digits : List Char} {n least : ℕ} (denotes : Hex.Denotes digits n)
    (atLeast : least ≤ digits.length) (atMost : digits.length ≤ 64) :
    digitsOfJson? least (.text (String.ofList (['0', 'x'] ++ digits))) = some digits := by
  have opened (s : String) : digitsOfJson? least (.text s) =
      if least ≤ (dropLowerMark s.toList).length ∧ (dropLowerMark s.toList).length ≤ 64 ∧
          (dropLowerMark s.toList).all (fun c => isGap c || (Hex.digit? c).isSome) then
        some (pairedDigits (dropLowerMark s.toList))
      else none := rfl
  have bare : dropLowerMark (['0', 'x'] ++ digits) = digits := rfl
  have noGap : ∀ c ∈ digits, isGap c = false := fun c member =>
    (denotes.exists_shows c member).elim fun _ shown => shown.isGap
  have accepted : digits.all fun c => isGap c || (Hex.digit? c).isSome := by
    refine List.all_eq_true.2 fun c member => ?_
    obtain ⟨d, shown⟩ := denotes.exists_shows c member
    rw [Hex.digit?_eq_some_iff.2 shown, Option.isSome_some, Bool.or_true]
  rw [opened, String.toList_ofList, bare, if_pos ⟨atLeast, atMost, accepted⟩,
    pairedDigits_of_noGap noGap]

/-- **A target reads back from its document.** -/
theorem Target.ofJson?_toJson (t : Target) : Target.ofJson? t.toJson = some t := by
  have denotes : Hex.Denotes (Hex.minimal t.toNat) t.toNat :=
    Hex.value?_eq_some_iff.1 (Hex.value?_minimal t.toNat)
  obtain ⟨atLeast, atMost⟩ := t.length_minimal
  rw [Target.ofJson?, Target.toJson, digitsOfJson?_marked denotes atLeast atMost]
  dsimp only [Option.bind_eq_bind, Option.bind_some]
  rw [Hex.value?_minimal]
  exact Target.ofNat?_eq_some_iff.2 rfl

end ProofOfWork
