set_option autoImplicit false

/-!
Rounding: quotients to whole numbers, and numbers to a fixed count of binary digits. A number
halfway between two goes to the even one.
-/
namespace Reckoner

/-- The whole number nearest to a quotient. -/
def roundedQuotient (dividend divisor : Nat) : Nat :=
  let below := dividend / divisor
  let left := 2 * (dividend % divisor)
  if left < divisor ∨ left = divisor ∧ below % 2 = 0 then below else below + 1

/-- The binary fraction `numerator / 2 ^ scale`. -/
structure BinaryFraction where
  numerator : Nat
  scale : Nat
  deriving Repr, DecidableEq

namespace BinaryFraction

/-- How many binary digits are kept. -/
def precision : Nat := 53

/-- What binary fractions stay below. -/
def bound : Nat := Nat.pow 2 1024

/-- The exponent of the power of two at or below a quotient of positive numbers. -/
def exponent (dividend divisor : Nat) : Int :=
  let guess : Int := (dividend.log2 : Int) - divisor.log2
  if dividend * Nat.pow 2 (-guess).toNat < divisor * Nat.pow 2 guess.toNat then guess - 1
  else guess

/-- The quotient of two numbers to `precision` binary digits. -/
def nearest (dividend divisor : Nat) : BinaryFraction :=
  if dividend = 0 then ⟨0, 0⟩
  else
    let unit := exponent dividend divisor + 1 - precision
    let step := Nat.pow 2 unit.natAbs
    if unit ≤ 0 then ⟨roundedQuotient (dividend * step) divisor, unit.natAbs⟩
    else ⟨roundedQuotient dividend (divisor * step) * step, 0⟩

def whole (fraction : BinaryFraction) : Nat := fraction.numerator / Nat.pow 2 fraction.scale

/-- What is behind the point, times `count`, to `precision` binary digits and then to the nearest
whole number. -/
def portion (fraction : BinaryFraction) (count : Nat) : Nat :=
  let unit := Nat.pow 2 fraction.scale
  let scaled := nearest (fraction.numerator % unit * count) unit
  roundedQuotient scaled.numerator (Nat.pow 2 scaled.scale)

end BinaryFraction

end Reckoner
