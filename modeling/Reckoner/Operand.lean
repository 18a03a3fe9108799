import Reckoner.Fault
import Reckoner.Number.Decimal
import Reckoner.Table

set_option autoImplicit false

/-!
Operands. An operand stays as it was written until an operator asks for its value.
-/
namespace Reckoner

/-- Letters with at most a sign before them. -/
def isName (text : Text) : Bool :=
  let letters := (Decimal.splitSign text).2
  !letters.isEmpty && letters.all Text.letter

/-- Digits with at most a sign before them. -/
def isLiteral (text : Text) : Bool :=
  let digits := (Decimal.splitSign text).2
  !digits.isEmpty && digits.all Text.digit

def literalValue (text : Text) : Int :=
  Decimal.signed (Decimal.splitSign text).1 (Decimal.value (Decimal.splitSign text).2)

/-- What an operator takes: a text as written, or a value computed before. -/
inductive Operand where
  | written (text : Text)
  | computed (value : Int)
  deriving Repr, DecidableEq

namespace Operand

/-- The value of an operand. A name is looked up with its sign, as it is written. -/
def resolve (memory : Variables) : Operand → Except Fault Int
  | .computed value => .ok value
  | .written text =>
      if isName text then
        match memory.get? text with
        | some value => .ok value
        | none => .error (.unknownVariable text)
      else if isLiteral text then .ok (literalValue text)
      else .error (.invalidExpression (.notAnOperand text))

end Operand

end Reckoner
