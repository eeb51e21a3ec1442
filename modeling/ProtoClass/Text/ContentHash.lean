set_option autoImplicit false

/- The hash of `u₀ u₁ … uₙ` is the polynomial with these coefficients at 31, in wrapping signed 32-bit
arithmetic. -/
namespace ProtoClass

/-- One step of the polynomial by Horner's rule. -/
def hashStep (hash : Int32) (unit : UInt16) : Int32 := hash * 31 + Int32.ofNat unit.toNat

def contentHash (units : List UInt16) : Int32 := units.foldl hashStep 0

theorem contentHash_concat (units : List UInt16) (u : UInt16) :
    contentHash (units ++ [u]) = hashStep (contentHash units) u := by
  simp [contentHash]

end ProtoClass
