import ProofOfWork.Json.Token
import ProofOfWork.Json.Value
import ProofOfWork.Target.CompactText

/-!
# Target/Document — targets and compact words in JSON

A target is a string of one to sixty-four characters, which may have `0x` in front, in lower case
only.  It is written with the mark and without leading zeros.  A compact word is a number.

The characters are digits, taken in pairs from the right end, and gaps between them, which are
counted like digits but hold nothing.  So the length of the text says whether the first digit stands
alone, and where an odd number of gaps has spoiled the count it is the last digit that finds no
partner and is dropped.  A text without gaps keeps all its digits (`pairedDigits_of_noGap`).  What a
target holds is then the number that its digits denote.
-/

namespace ProofOfWork

open Json (Value isGap)

/-- The text without one `0x` in front. -/
def dropLowerMark : List Char → List Char
  | '0' :: 'x' :: rest => rest
  | text => text

/-- **The digits of a text that find a partner**, all but the last one if the gaps are odd in
number. -/
def pairedDigits (text : List Char) : List Char :=
  let digits := text.filter (!isGap ·)
  if (text.length - digits.length) % 2 = 0 then digits else digits.dropLast

/-- **A text without gaps keeps all its digits.** -/
theorem pairedDigits_of_noGap {text : List Char} (noGap : ∀ c ∈ text, isGap c = false) :
    pairedDigits text = text := by
  have all : text.filter (!isGap ·) = text :=
    List.filter_eq_self.2 fun c member => by rw [noGap c member, Bool.not_false]
  simp only [pairedDigits, all, Nat.sub_self, Nat.zero_mod, if_true]

/-- The digits held by a string of `least` to sixty-four characters, each a digit or a gap. -/
def digitsOfJson? (least : Nat) (v : Value) : Option (List Char) := do
  let text := dropLowerMark (← v.text?).toList
  if least ≤ text.length ∧ text.length ≤ 64 ∧
      text.all (fun c => isGap c || (Hex.digit? c).isSome) then
    some (pairedDigits text)
  else none

namespace Target

/-- **The document of a target.** -/
def toJson (t : Target) : Value := .text (String.ofList (['0', 'x'] ++ Hex.minimal t.toNat))

/-- The target of a document. -/
def ofJson? (v : Value) : Option Target := do
  ofNat? (← Hex.value? (← digitsOfJson? 1 v))

end Target

namespace Compact

/-- **The document of a compact word.** -/
def toJson (c : Compact) : Value := .int c.word.toNat

/-- The compact word of a document. -/
def ofJson? (v : Value) : Option Compact :=
  (v.natBelow? (2 ^ 32)).map fun n => ⟨UInt32.ofNat n⟩

end Compact

end ProofOfWork
