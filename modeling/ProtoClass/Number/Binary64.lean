import ProtoClass.Number.Power

set_option autoImplicit false

/- A number is its word; what the word says is an exact count of quanta of size 2⁻¹⁰⁷⁴, the smallest
positive number. Equality, truth and integrality are decided on that count, never by rounding. -/
namespace ProtoClass

structure Binary64 where
  bits : UInt64
  deriving DecidableEq

namespace Binary64

/-- What a word says: not a number, an infinity, or a whole count of quanta of size 2⁻¹⁰⁷⁴. -/
inductive Reading where
  | nan
  | infinite (negative : Bool)
  | finite (quanta : Int)
  deriving DecidableEq

def negative (x : Binary64) : Bool := twoPow 63 ≤ x.bits.toNat

/-- The eleven bits of the exponent field. -/
def exponent (x : Binary64) : Nat := x.bits.toNat / twoPow 52 % twoPow 11

/-- The fifty-two bits of the fraction field. -/
def fraction (x : Binary64) : Nat := x.bits.toNat % twoPow 52

/-- The fraction with its leading bit, which only subnormal numbers lack. -/
def significand (x : Binary64) : Nat :=
  if x.exponent = 0 then x.fraction else twoPow 52 + x.fraction

/-- The distance to the next number away from zero, in quanta. -/
def spacing (x : Binary64) : Nat := twoPow (x.exponent - 1)

/-- The absolute value of a finite number, in quanta. -/
def magnitude (x : Binary64) : Nat := x.significand * x.spacing

def reading (x : Binary64) : Reading :=
  if x.exponent = 2047 then if x.fraction = 0 then .infinite x.negative else .nan
  else .finite (if x.negative then -(x.magnitude : Int) else x.magnitude)

/-- The number of quanta in one unit. -/
def unit : Int := twoPow 1074

/-- Equality of numbers: of their values, so that the two zeros are equal and no NaN is equal to
anything. -/
def equal (x y : Binary64) : Bool :=
  match x.reading, y.reading with
  | .finite a, .finite b => a == b
  | .infinite s, .infinite t => s == t
  | _, _ => false

/-- Does the number have the value of the integer `i`? -/
def equalsInt (x : Binary64) (i : Int) : Bool := x.reading == .finite (i * unit)

/-- Neither zero nor NaN. -/
def isTruthy (x : Binary64) : Bool := x.reading != .nan && x.reading != .finite 0

/-- The integer below 10¹⁵ in absolute value that the number equals. -/
def smallInteger? (x : Binary64) : Option Int :=
  match x.reading with
  | .finite q => if q % unit = 0 ∧ q.natAbs < tenPow 15 * twoPow 1074 then some (q / unit) else none
  | _ => none

end Binary64

end ProtoClass
