import ProtoClass.Number.Binary64

set_option autoImplicit false

/- `Binary64.shortest` finds the decimal with the fewest digits that reads back as a given positive
number; of several such decimals the nearest to it, of two equally near ones the larger.

A decimal reads back as `x` when it lies between the midpoints to the neighbours of `x`, a midpoint
itself being allowed when the significand of `x` is even. On the grid of decimals with `n` digits only
the two neighbours of `x` have to be tried, because if any point of the grid lies in that interval, so
does one of them. -/
namespace ProtoClass

/-- The number `coefficient × 10 ^ exponent`. -/
structure Decimal where
  coefficient : Nat
  exponent : Int
  deriving DecidableEq

namespace Decimal

/-- The decimal digits of a number, most significant first. -/
def digits (n : Nat) : List Char := Nat.toDigits 10 n

/-- Moves the zeros at the end of the coefficient into the exponent. -/
def dropZeros : Nat → Decimal → Decimal
  | 0, d => d
  | fuel + 1, d =>
    if d.coefficient ≠ 0 ∧ d.coefficient % 10 = 0 then
      dropZeros fuel ⟨d.coefficient / 10, d.exponent + 1⟩
    else d

end Decimal

namespace Binary64

/-- The number of quarter quanta in one unit; in quarters the midpoints are whole. -/
def quarterUnit : Nat := twoPow 1076

/-- At this power of ten every positive number has more than seventeen digits before the point. -/
def decimalShift : Nat := 350

/-- The interval of numbers that read back as `x`, in quarter quanta. -/
def lowerMidpoint (x : Binary64) : Nat :=
  4 * x.magnitude - (if x.fraction = 0 ∧ 1 < x.exponent then x.spacing else 2 * x.spacing)

def upperMidpoint (x : Binary64) : Nat := 4 * x.magnitude + 2 * x.spacing

/-- Does `c × 10⁻³⁵⁰` read back as `x`? -/
def readsBack (x : Binary64) (c : Nat) : Bool :=
  let low := x.lowerMidpoint * tenPow decimalShift
  let high := x.upperMidpoint * tenPow decimalShift
  let point := c * quarterUnit
  if x.significand % 2 = 0 then low ≤ point && point ≤ high else low < point && point < high

/-- The distance of `c × 10⁻³⁵⁰` from `x`, up to a common factor. -/
def distance (x : Binary64) (c : Nat) : Nat :=
  ((c * quarterUnit : Int) - (4 * x.magnitude * tenPow decimalShift : Int)).natAbs

/-- The decimal of `n` digits that reads back as `x` and is nearest to it. -/
def shortestWith? (x : Binary64) (n : Nat) : Option Decimal :=
  let scaled := 4 * x.magnitude * tenPow decimalShift / quarterUnit
  let places := (Decimal.digits scaled).length - n
  let below := scaled / tenPow places
  let above := below + 1
  let isBelow := x.readsBack (below * tenPow places)
  let isAbove := x.readsBack (above * tenPow places)
  let chosen :=
    if isBelow && isAbove then
      if x.distance (below * tenPow places) < x.distance (above * tenPow places) then some below
      else some above
    else if isBelow then some below
    else if isAbove then some above
    else none
  chosen.map fun c => Decimal.dropZeros (n + 1) ⟨c, (places : Int) - decimalShift⟩

/-- The shortest decimal of the absolute value of a finite number other than zero; seventeen digits
always suffice. -/
def shortest (x : Binary64) : Decimal :=
  ((List.range' 1 17).findSome? x.shortestWith?).getD ⟨0, 0⟩

end Binary64

end ProtoClass
