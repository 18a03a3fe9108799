import Reckoner.Fault
import Reckoner.Limits
import Reckoner.Number.Power
import Reckoner.Token.Category

set_option autoImplicit false

/-!
The arithmetic of the calculator: exact on integers, with two guards on powers.
-/
namespace Reckoner

/-- The quotient of two integers, cut off toward zero. -/
def quotient (dividend divisor : Int) : Except Fault Int :=
  if divisor = 0 then .error (.invalidExpression .zeroDivisor) else .ok (dividend.tdiv divisor)

/-- A power within the limits. The size of the result is estimated from above, as the exponent
times the size of the base. -/
def guardedPower (limits : Limits) (base exponent : Int) : Except Fault Int :=
  if exponent < 0 ∨ limits.maxExponent < exponent then
    .error (.invalidExpression (.exponentOutOfRange exponent))
  else
    let bits := exponent.toNat * bitLength base
    if limits.maxResultBits < bits then .error (.invalidExpression (.resultTooLarge bits))
    else .ok (power base exponent.toNat)

def Operator.apply (limits : Limits) (left right : Int) : Operator → Except Fault Int
  | .add => .ok (left + right)
  | .subtract => .ok (left - right)
  | .multiply => .ok (left * right)
  | .divide => quotient left right
  | .power => guardedPower limits left right

end Reckoner
