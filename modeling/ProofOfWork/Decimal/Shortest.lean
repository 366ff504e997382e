import ProofOfWork.Basic

/-!
# Decimal/Shortest — the fewest digits that read back to a binary64 number

A finite binary64 number is `mantissa * 2 ^ exponent`, and every real number between the midpoints
to its two neighbours rounds to it; the midpoints themselves do when the mantissa is even.
`Binary64.shortest` looks on the decimal grids, from the coarsest to the finest, for a point of that
interval.  Of the points of one grid it need only look at the two around the number itself, since if
any point of the grid lies in the interval then so does one of these.  The nearer of the two wins,
and an exact tie goes to the even one.
-/

namespace ProofOfWork

/-- A positive finite binary64 number, `mantissa * 2 ^ exponent`. -/
structure Binary64 where
  mantissa : Nat
  exponent : Int

/-- A decimal number, `significand * 10 ^ exponent`. -/
structure Decimal where
  significand : Nat
  exponent : Int
  deriving DecidableEq

namespace Binary64

/-- The magnitude of a floating-point number; zero, infinity and NaN have none. -/
def ofFloat? (x : Float) : Option Binary64 :=
  let bits := x.toBits.toNat
  let field : Nat := bits / 2 ^ 52 % 2 ^ 11
  let fraction : Nat := bits % 2 ^ 52
  if field = 2 ^ 11 - 1 then none
  else if field = 0 then
    if fraction = 0 then none else some ⟨fraction, -1074⟩
  else some ⟨2 ^ 52 + fraction, field - 1075⟩

/-- Whether the neighbour below is only half as far as the one above, as it is at a power of two. -/
def closeBelow (x : Binary64) : Bool := x.mantissa = 2 ^ 52 && -1074 < x.exponent

/-- The point `n * 10 ^ grid` rounds to `x`.  Everything is scaled by `4 * above / below`, which
makes the number itself `4 * mantissa * above` and the unit of the grid `4 * below`. -/
def accepts (x : Binary64) (above below n : Nat) : Bool :=
  let least := (4 * x.mantissa - if x.closeBelow then 1 else 2) * above
  let most := (4 * x.mantissa + 2) * above
  let point := n * (4 * below)
  if x.mantissa % 2 = 0 then least ≤ point && point ≤ most else least < point && point < most

/-- The point of the grid `10 ^ grid` that rounds to `x` and lies nearest to it. -/
def onGrid? (x : Binary64) (grid : Int) : Option Decimal :=
  let above := 2 ^ x.exponent.toNat * 10 ^ (-grid).toNat
  let below := 2 ^ (-x.exponent).toNat * 10 ^ grid.toNat
  let low := x.mantissa * above / below
  let rest := x.mantissa * above % below
  let lowFits := accepts x above below low
  let highFits := accepts x above below (low + 1)
  if lowFits && highFits then
    let takeLow := 2 * rest < below || (2 * rest = below && low % 2 = 0)
    some ⟨if takeLow then low else low + 1, grid⟩
  else if lowFits then some ⟨low, grid⟩
  else if highFits then some ⟨low + 1, grid⟩
  else none

/-- **The shortest decimal that reads back to `x`.**  No binary64 number reaches `10 ^ 309`, and on
the grid `10 ^ -1074` each of them is a point, so the search ends between the two. -/
def shortest (x : Binary64) : Decimal :=
  ((List.range 1384).findSome? fun (i : Nat) => x.onGrid? (309 - i)).getD ⟨0, 0⟩

end Binary64

end ProofOfWork
