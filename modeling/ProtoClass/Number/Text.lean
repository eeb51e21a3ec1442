import ProtoClass.Number.Shortest

set_option autoImplicit false

/- `Binary64.display` is the text that a number has among values: integers below 10¹⁵ as integers, all
else with the shortest digits and never an exponent. `Binary64.debug` is the text of a number in a
structure dump: always with a point or an exponent, the exponent for very small and very large
numbers. -/
namespace ProtoClass

namespace Decimal

/-- The digits with the point where the exponent says, and no exponent. -/
def positional (d : Decimal) : String :=
  let ds := digits d.coefficient
  let point : Int := ds.length + d.exponent
  if 0 ≤ d.exponent then String.ofList (ds ++ List.replicate d.exponent.toNat '0')
  else if 0 < point then
    String.ofList (ds.take point.toNat ++ '.' :: ds.drop point.toNat)
  else String.ofList ('0' :: '.' :: (List.replicate (-point).toNat '0' ++ ds))

/-- One digit, the others after a point, and the exponent. -/
def scientific (d : Decimal) : String :=
  let ds := digits d.coefficient
  let tail := ds.drop 1
  let mark : Int := d.exponent + tail.length
  String.ofList (ds.take 1 ++ (if tail.isEmpty then [] else '.' :: tail)) ++ "e" ++ toString mark

end Decimal

namespace Binary64

/-- A minus sign in front when asked for. -/
def signed (negative : Bool) (text : String) : String :=
  if negative then "-" ++ text else text

def display (x : Binary64) : String :=
  match x.smallInteger? with
  | some i => toString i
  | none =>
    match x.reading with
    | .nan => "NaN"
    | .infinite s => signed s "inf"
    | .finite _ => signed x.negative x.shortest.positional

/-- Numbers below 10⁻⁴ and from 10¹⁶ on are dumped with an exponent. -/
def debug (x : Binary64) : String :=
  match x.reading with
  | .nan => "NaN"
  | .infinite s => signed s "inf"
  | .finite q =>
    if q = 0 then signed x.negative "0.0"
    else if tenPow 16 * unit ≤ q.natAbs ∨ q.natAbs * tenPow 4 < unit then
      signed x.negative x.shortest.scientific
    else if 0 ≤ x.shortest.exponent then signed x.negative (x.shortest.positional ++ ".0")
    else signed x.negative x.shortest.positional

end Binary64

end ProtoClass
