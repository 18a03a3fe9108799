import Reckoner.Arithmetic
import Reckoner.Operand
import Reckoner.Token.Basic

set_option autoImplicit false

/-!
Evaluation of tokens in post-order on a stack of operands. An operator takes its right operand
first. A sign that finds nothing to its left takes zero; the other operators need two operands.
-/
namespace Reckoner.Evaluation

/-- Operands that no operator has taken yet, newest first. -/
abbrev Stack := List Operand

def pop (memory : Variables) : Stack → Except Fault (Int × Stack)
  | [] => .error (.invalidExpression .missingOperand)
  | operand :: rest => do return (← operand.resolve memory, rest)

def popOrZero (memory : Variables) : Stack → Except Fault (Int × Stack)
  | [] => .ok (0, [])
  | operand :: rest => do return (← operand.resolve memory, rest)

/-- Takes what an operator finds to its left. -/
def popLeft (symbol : Operator) (memory : Variables) (stack : Stack) :
    Except Fault (Int × Stack) :=
  if symbol.isSign then popOrZero memory stack else pop memory stack

def operate (limits : Limits) (memory : Variables) (symbol : Operator) (stack : Stack) :
    Except Fault Stack := do
  let (right, rest) ← pop memory stack
  let (left, rest) ← popLeft symbol memory rest
  return .computed (← symbol.apply limits left right) :: rest

/-- One token. Operands wait as they are written, and other tokens do nothing. -/
def step (limits : Limits) (memory : Variables) (stack : Stack) (token : Token) :
    Except Fault Stack :=
  match token.category with
  | .numeral => .ok (.written token.text :: stack)
  | .name => .ok (.written token.text :: stack)
  | .operator symbol => operate limits memory symbol stack
  | _ => .ok stack

def run (limits : Limits) (memory : Variables) (stack : Stack) (tokens : List Token) :
    Except Fault Stack :=
  tokens.foldlM (step limits memory) stack

/-- The newest operand is the result; what lies below it is never looked at. -/
def result (memory : Variables) : Stack → Except Fault (Option Int)
  | [] => .ok none
  | operand :: _ => do return some (← operand.resolve memory)

/-- The value of a row of tokens in post-order, if it has any operand. -/
def evaluate (limits : Limits) (memory : Variables) (tokens : List Token) :
    Except Fault (Option Int) := do
  result memory (← run limits memory [] tokens)

end Reckoner.Evaluation
