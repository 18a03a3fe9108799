set_option autoImplicit false

/-!
Sizes and powers of integers.
-/
namespace Reckoner

/-- The number of binary digits of the magnitude; none for zero. -/
def bitLength (n : Int) : Nat := if n = 0 then 0 else n.natAbs.log2 + 1

/-- An integer to a natural exponent. Magnitudes 0 and 1 are their own powers, so that for them
no exponent is too large to compute with. -/
def power (base : Int) (exponent : Nat) : Int :=
  let magnitude :=
    if base.natAbs ≤ 1 ∧ 0 < exponent then base.natAbs else Nat.pow base.natAbs exponent
  if base < 0 ∧ exponent % 2 = 1 then -magnitude else magnitude

end Reckoner
