import ProofOfWork.Target.Compact
import ProofOfWork.Target.Hex

/-!
# Target/CompactText — compact words as hexadecimal text

A compact word is shown as `0x` and eight digits (`Compact.toHex`).  It is read with blanks around it,
with or without the mark, and then with one plus sign allowed in front of any number of digits
(`Compact.ofHex`).  The digits are taken from the left, and the first one that is no digit, or that
lifts the value out of 32 bits, decides which complaint is made.
-/

namespace ProofOfWork

/-- Why digits are not a compact word. -/
inductive CompactError where
  | noDigits
  | notDigit
  | tooLarge
  deriving DecidableEq

/-- What is wrong with the digits. -/
def CompactError.message : CompactError → String
  | .noDigits => "cannot parse integer from empty string"
  | .notDigit => "invalid digit found in string"
  | .tooLarge => "number too large to fit in target type"

/-- A text that is not a compact word, and why. -/
structure BadCompact where
  text : String
  cause : CompactError
  deriving DecidableEq

/-- The complaint followed by its cause. -/
def BadCompact.chain (e : BadCompact) : List String :=
  ["invalid compact bits " ++ Quoted.text e.text, e.cause.message]

namespace Compact

/-- **The text of a compact word.** -/
def toHex (c : Compact) : String :=
  String.ofList (['0', 'x'] ++ Hex.fixed 8 c.word.toNat)

/-- The value of digits behind a numeral worth `n`, as long as it stays within 32 bits. -/
def readDigits (n : Nat) : List Char → Except CompactError Nat
  | [] => .ok n
  | c :: rest =>
    match Hex.shiftIn? n c with
    | none => .error .notDigit
    | some more => if more < 2 ^ 32 then readDigits more rest else .error .tooLarge

/-- The value of a bare numeral, which may have a plus sign. -/
def readNumeral : List Char → Except CompactError Nat
  | [] => .error .noDigits
  | ['+'] => .error .notDigit
  | '+' :: digits => readDigits 0 digits
  | digits => readDigits 0 digits

/-- **The compact word that a text denotes.** -/
def ofHex (text : String) : Except BadCompact Compact :=
  match readNumeral (dropHexMark (trim text.toList)) with
  | .ok n => .ok ⟨UInt32.ofNat n⟩
  | .error cause => .error ⟨text, cause⟩

end Compact

end ProofOfWork
