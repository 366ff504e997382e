import ProofOfWork.Decimal.Shortest

/-!
# Json/Number — number literals and what they denote

A `Number` is a JSON number literal taken apart: sign, whole part, the digits after the point and the
exponent.  It is read as an integer only when it is written as one, and minus zero is not
(`Number.toInt?`).  Read as a binary64 number (`Number.toFloat?`) it is rounded the quick way: as
many digits as fit into 64 bits make a significand, which is then scaled by a power of ten in
floating-point arithmetic, so the last bit may differ from that of the nearest number.

Written out, an integer has no point (`Number.ofInt`), and a binary64 number always shows a fraction
or an exponent (`Number.ofFloat?`): the fewest digits that read back, in place from `1e-5` up to
below `1e16` and with an exponent, always signed, outside of that.
-/

namespace ProofOfWork.Json

/-- **A number literal.** -/
structure Number where
  negative : Bool
  /-- The digits before the point. -/
  whole : Nat
  /-- The decimal digits after the point, as written; there is no point without them. -/
  fraction : List Char
  /-- The power of ten, where one is written. -/
  exponent : Option Int
  deriving DecidableEq

namespace Number

/-! ## Literals -/

/-- The literal without a minus sign in front, and whether there was one. -/
def takeSign : List Char → Bool × List Char
  | '-' :: rest => (true, rest)
  | text => (false, text)

/-- The digits in front of a text, and what follows them. -/
def takeDigits (text : List Char) : List Char × List Char :=
  (text.takeWhile Char.isDigit, text.dropWhile Char.isDigit)

/-- The whole part: at least one digit, and no zero in front of others. -/
def takeWhole? (text : List Char) : Option (Nat × List Char) :=
  match takeDigits text with
  | ([], _) => none
  | ('0' :: _ :: _, _) => none
  | (digits, rest) => some (Nat.ofDigitChars 10 digits 0, rest)

/-- The digits after a point, of which there is at least one. -/
def takeFraction? : List Char → Option (List Char × List Char)
  | '.' :: text =>
    match takeDigits text with
    | ([], _) => none
    | found => some found
  | text => some ([], text)

/-- A power of ten with an optional sign and at least one digit. -/
def takePower? (text : List Char) : Option (Int × List Char) :=
  let (minus, digits) :=
    match text with
    | '-' :: rest => (true, rest)
    | '+' :: rest => (false, rest)
    | rest => (false, rest)
  match takeDigits digits with
  | ([], _) => none
  | (found, rest) =>
    let power : Int := Nat.ofDigitChars 10 found 0
    some (if minus then -power else power, rest)

/-- The exponent part, where there is one. -/
def takeExponent? : List Char → Option (Option Int × List Char)
  | 'e' :: text | 'E' :: text => (takePower? text).map fun (power, rest) => (some power, rest)
  | text => some (none, text)

/-- **The literal that a text is**, from its first to its last character. -/
def ofText? (text : List Char) : Option Number := do
  let (negative, text) := takeSign text
  let (whole, text) ← takeWhole? text
  let (fraction, text) ← takeFraction? text
  let (exponent, text) ← takeExponent? text
  if text.isEmpty then some ⟨negative, whole, fraction, exponent⟩ else none

/-- The text of a literal.  An exponent always has its sign. -/
def text (n : Number) : List Char :=
  (if n.negative then ['-'] else []) ++ Nat.toDigits 10 n.whole ++
    (if n.fraction.isEmpty then [] else '.' :: n.fraction) ++
    match n.exponent with
    | none => []
    | some power =>
      'e' :: (if power < 0 then '-' else '+') :: Nat.toDigits 10 power.natAbs

/-! ## Integers -/

/-- The literal of an integer. -/
def ofInt (n : Int) : Number := ⟨n < 0, n.natAbs, [], none⟩

/-- **The integer that a literal is written as.**  Neither a point nor an exponent may stand in it,
and zero has no sign. -/
def toInt? (n : Number) : Option Int :=
  if n.fraction ≠ [] ∨ n.exponent ≠ none then none
  else if n.negative then if n.whole = 0 then none else some (-n.whole)
  else some n.whole

/-- **The literal of an integer reads back as that integer.** -/
theorem toInt?_ofInt (n : Int) : (ofInt n).toInt? = some n := by
  simp only [toInt?, ofInt, ne_eq, not_true_eq_false, or_self, if_false, decide_eq_true_eq,
    Int.natAbs_eq_zero]
  split
  · split
    · omega
    · exact congrArg some (by omega)
  · exact congrArg some (by omega)

/-! ## Binary64 -/

/-- The digits taken into a significand for as long as it stays within 64 bits, and those left. -/
def fill (significand : Nat) : List Char → Nat × List Char
  | [] => (significand, [])
  | c :: rest =>
    let more := 10 * significand + (c.toNat - '0'.toNat)
    if more < 2 ^ 64 then fill more rest else (significand, c :: rest)

/-- A number scaled by a power of ten.  A power that has no floating-point form of its own is taken
in steps of `1e308`; a product that is infinite, or would have to be, has no answer. -/
def scale (f : Float) (power : Int) : Option Float :=
  if power.natAbs ≤ 308 then
    if 0 ≤ power then
      let product := f * Float.ofScientific 1 false power.natAbs
      if product.isInf then none else some product
    else some (f / Float.ofScientific 1 false power.natAbs)
  else if f == 0.0 then some f
  else if 0 ≤ power then none
  else scale (f / 1e308) (power + 308)
termination_by power.natAbs

/-- The magnitude of a literal in binary64. -/
def magnitude? (n : Number) : Option Float :=
  let (wholeDigits, skipped) := fill 0 (Nat.toDigits 10 n.whole)
  let (significand, unused) := fill wholeDigits n.fraction
  let start : Int := skipped.length - (n.fraction.length - unused.length : Nat)
  let power := n.exponent.getD 0
  if power.natAbs < 2 ^ 31 then scale (Float.ofNat significand) (start + power)
  else if significand ≠ 0 ∧ 0 ≤ power then none
  else some 0.0

/-- **The binary64 number that a literal denotes.**  One too large has none. -/
def toFloat? (n : Number) : Option Float :=
  n.magnitude?.map fun f => if n.negative then -f else f

/-- The literal of a positive decimal. -/
def ofDecimal (negative : Bool) (d : Decimal) : Number :=
  let digits := Nat.toDigits 10 d.significand
  let point : Int := digits.length + d.exponent
  if 0 ≤ d.exponent ∧ point ≤ 16 then
    ⟨negative, d.significand * 10 ^ d.exponent.toNat, ['0'], none⟩
  else if -5 < point ∧ point ≤ 16 then
    let places := (-d.exponent).toNat
    ⟨negative, d.significand / 10 ^ places,
      (Nat.toDigits 10 (d.significand % 10 ^ places)).leftpad places '0', none⟩
  else
    let below := digits.length - 1
    ⟨negative, d.significand / 10 ^ below, digits.drop 1, some (point - 1)⟩

/-- **The literal of a binary64 number**; infinity and NaN have none. -/
def ofFloat? (x : Float) : Option Number :=
  let negative := x.toBits.toNat / 2 ^ 63 = 1
  match Binary64.ofFloat? x with
  | some magnitude => some (ofDecimal negative magnitude.shortest)
  | none => if x == 0.0 then some ⟨negative, 0, ['0'], none⟩ else none

end Number

end ProofOfWork.Json
