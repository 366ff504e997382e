import ProofOfWork.Target.Basic
import ProofOfWork.Text.Blank
import ProofOfWork.Text.Quoted

/-!
# Target/Hex — targets as hexadecimal text

A target is shown on sixty-four digits, most significant first (`Target.toHex`).  It is read from one
to sixty-four digits with an optional `0x` or `0X` before them and blanks around the whole
(`Target.ofHex`), as though zeros stood to their left: a refused digit is therefore reported by its
position among all sixty-four.

The width of a numeral is counted in bytes of its UTF-8 form, while the zeros fill it up to
sixty-four characters.  So a text with a character outside ASCII, even one that is not too wide, is
refused for the width it would have once filled, before any of its digits is looked at.
-/

namespace ProofOfWork

/-- The text without one `0x` or `0X` in front. -/
def dropHexMark : List Char → List Char
  | '0' :: 'x' :: rest => rest
  | '0' :: 'X' :: rest => rest
  | text => text

/-- The number of bytes in the UTF-8 form of a text. -/
def utf8Width (text : List Char) : Nat :=
  text.foldr (fun c width => c.utf8Size + width) 0

/-- Why a text is not a target. -/
inductive HexError where
  /-- There is no digit, or there are more than fit: `got` bytes of them. -/
  | width (got : Nat)
  /-- The filled numeral has an odd number of bytes. -/
  | oddWidth
  /-- The filled numeral has an even number of bytes, but not sixty-four. -/
  | wrongWidth
  /-- `found` is not a digit; `position` counts from the left of the filled numeral. -/
  | notDigit (found : Char) (position : Nat)
  deriving DecidableEq

namespace HexError

/-- What is wrong with the digits, where that is more than their number. -/
def cause? : HexError → Option String
  | .width _ => none
  | .oddWidth => some "Odd number of digits"
  | .wrongWidth => some "Invalid string length"
  | .notDigit found position =>
    some ("Invalid character " ++ Quoted.char found ++ " at position " ++ toString position)

/-- The whole complaint. -/
def message : HexError → String
  | .width got => "invalid length: expected at most 64 hex digits, got " ++ toString got
  | e => "invalid hex: " ++ e.cause?.getD ""

/-- The complaint followed by its cause. -/
def chain (e : HexError) : List String :=
  e.message :: e.cause?.toList

end HexError

namespace Target

/-- The sixty-four digits of a target, most significant first. -/
def hexDigits (t : Target) : List Char := Hex.fixed 64 t.toNat

/-- **The text of a target.** -/
def toHex (t : Target) : String := String.ofList t.hexDigits

theorem length_hexDigits (t : Target) : t.hexDigits.length = 64 :=
  Hex.length_fixed (by decide) (Nat.lt_of_lt_of_eq t.toNat_lt (by decide))

/-- The value of `digits` behind a numeral worth `n` whose next digit has the given position. -/
def readDigits (position n : Nat) : List Char → Except HexError Nat
  | [] => .ok n
  | c :: rest =>
    match Hex.digit? c with
    | some d => readDigits (position + 1) (16 * n + d) rest
    | none => .error (.notDigit c position)

/-- The target that bare digits denote.  Sixty-four digits never exceed the width of a target, so
nothing is cut off at the end. -/
def ofHexDigits (digits : List Char) : Except HexError Target :=
  if utf8Width digits = 0 ∨ 64 < utf8Width digits then
    .error (.width (utf8Width digits))
  else
    let filled := digits.leftpad 64 '0'
    if utf8Width filled % 2 = 1 then .error .oddWidth
    else if utf8Width filled ≠ 64 then .error .wrongWidth
    else (readDigits 0 0 filled).map truncate

/-- **The target that a text denotes**, read from its trimmed form without its mark. -/
def ofHex (text : String) : Except HexError Target :=
  ofHexDigits (dropHexMark (trim text.toList))

end Target

end ProofOfWork
