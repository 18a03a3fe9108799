import Reckoner.Calculator
import Reckoner.Proofs.Arithmetic
import Reckoner.Proofs.Number.Numeral
import Reckoner.Proofs.Number.Power
import Reckoner.Proofs.Outcome

set_option autoImplicit false

/-!
The calculator on steps that break down when they are asked for what they cannot do: to read a
text that is no numeral, to take from nothing, to divide by zero, to raise to a negative power. The
checks before these steps keep them from being asked, so that the calculator comes to the same.
-/
namespace Reckoner

/-- What ends a calculation: a fault, which the client is told, or a step that breaks down. -/
inductive Mishap where
  | fault (fault : Fault)
  | unreadable (reason : NumeralFault)
  | nothingToTake
  | zeroDivisor
  | negativeExponent
  deriving Repr, DecidableEq

namespace Frail

section Steps

variable {α : Type}

/-- Reads a numeral, if the text is one. -/
def number (text : Text) : Except Mishap Int := (Numeral.read text).mapError .unreadable

/-- Takes the first of a row, if there is one. -/
def take : List α → Except Mishap (α × List α)
  | [] => .error .nothingToTake
  | first :: rest => .ok (first, rest)

/-- Divides magnitudes, unless by zero. -/
def divide (dividend divisor : Nat) : Except Mishap Nat :=
  if divisor = 0 then .error .zeroDivisor else .ok (dividend / divisor)

/-- Raises to a power, unless the exponent is negative. -/
def raise (base exponent : Int) : Except Mishap Int :=
  if exponent < 0 then .error .negativeExponent else .ok (base ^ exponent.toNat)

/-- A stage that ends in faults only. -/
def sound (stage : Except Fault α) : Except Mishap α := stage.mapError .fault

@[simp] theorem sound_ok (value : α) : sound (.ok value) = .ok value := rfl

theorem sound_bind {β : Type} (stage : Except Fault α) (next : α → Except Fault β) :
    sound (stage >>= next) = sound stage >>= fun value => sound (next value) := by
  cases stage with
  | ok value => rfl
  | error fault => rfl

end Steps

/-! Each of the following definitions stands for the one of its name in the calculator or in a stage
before it, and differs from it in the steps that it takes. -/

def resolve (memory : Variables) : Operand → Except Mishap Int
  | .computed value => .ok value
  | .written text =>
      if isName text then
        match memory.get? text with
        | some value => .ok value
        | none => .error (.fault (.unknownVariable text))
      else if isLiteral text then number text
      else .error (.fault (.invalidExpression (.notAnOperand text)))

def quotient (dividend divisor : Int) : Except Mishap Int :=
  if divisor = 0 then .error (.fault (.invalidExpression .zeroDivisor))
  else do
    let magnitude ← divide dividend.natAbs divisor.natAbs
    return if decide (dividend < 0) = decide (divisor < 0) then magnitude else -magnitude

def guardedPower (limits : Limits) (base exponent : Int) : Except Mishap Int :=
  if exponent < 0 ∨ limits.maxExponent < exponent then
    .error (.fault (.invalidExpression (.exponentOutOfRange exponent)))
  else
    let bits := exponent.toNat * bitLength base
    if limits.maxResultBits < bits then
      .error (.fault (.invalidExpression (.resultTooLarge bits)))
    else raise base exponent

def apply (limits : Limits) (left right : Int) : Operator → Except Mishap Int
  | .add => .ok (left + right)
  | .subtract => .ok (left - right)
  | .multiply => .ok (left * right)
  | .divide => quotient left right
  | .power => guardedPower limits left right

def pop (memory : Variables) (stack : Evaluation.Stack) : Except Mishap (Int × Evaluation.Stack) :=
  if stack.isEmpty then .error (.fault (.invalidExpression .missingOperand))
  else do
    let (operand, rest) ← take stack
    return (← resolve memory operand, rest)

def popLeft (symbol : Operator) (memory : Variables) (stack : Evaluation.Stack) :
    Except Mishap (Int × Evaluation.Stack) :=
  if symbol.isSign ∧ stack.isEmpty then .ok (0, []) else pop memory stack

def evaluateStep (limits : Limits) (memory : Variables) (stack : Evaluation.Stack)
    (token : Token) : Except Mishap Evaluation.Stack :=
  match token.category with
  | .numeral => .ok (.written token.text :: stack)
  | .name => .ok (.written token.text :: stack)
  | .operator symbol => do
      let (right, rest) ← pop memory stack
      let (left, rest) ← popLeft symbol memory rest
      return .computed (← apply limits left right symbol) :: rest
  | _ => .ok stack

def evaluate (limits : Limits) (memory : Variables) (tokens : List Token) :
    Except Mishap (Option Int) := do
  let stack ← tokens.foldlM (evaluateStep limits memory) []
  if stack.isEmpty then return none
  else do
    let (operand, _) ← take stack
    return some (← resolve memory operand)

def orderStep (stack : PostOrder.Stack) (token : Token) :
    Except Mishap (List Token × PostOrder.Stack) :=
  match token.category with
  | .numeral => .ok ([token], stack)
  | .name => .ok ([token], stack)
  | .opening => .ok ([], token :: stack)
  | .closing =>
      if (stack.dropWhile PostOrder.inside).isEmpty then
        .error (.fault (.invalidExpression .unbalancedGroups))
      else do
        let (_, below) ← take (stack.dropWhile PostOrder.inside)
        return (stack.takeWhile PostOrder.inside, below)
  | .operator _ => .ok (stack.takeWhile (PostOrder.yields token),
      token :: stack.dropWhile (PostOrder.yields token))
  | .noise => .ok ([], stack)

def order (stack : PostOrder.Stack) :
    List Token → Except Mishap (List Token × PostOrder.Stack)
  | [] => .ok ([], stack)
  | token :: rest => do
      let (sent, waiting) ← orderStep stack token
      let (later, left) ← order waiting rest
      return (sent ++ later, left)

def expression (limits : Limits) (memory : Variables) (text : Text) :
    Except Mishap (Option Int) := do
  let (sent, left) ← order [] (← sound (Token.scan text))
  evaluate limits memory (sent ++ (← sound (PostOrder.drain left)))

def assign (memory : Variables) (name operand : Text) : Except Mishap Variables :=
  if isName name then do
    return memory.set name (← resolve memory (.written operand))
  else .error (.fault (.invalidIdentifier name))

def calculate (limits : Limits) (memory : Variables) (text : Text) :
    Except Mishap (Option Int × Variables) :=
  if text.isBlank then .ok (none, memory)
  else if limits.maxInputLength < text.length then
    .error (.fault (.invalidExpression (.tooLong text.length)))
  else
    match text.splitFirst '=' with
    | some (name, operand) => do return (none, ← assign memory name.trim operand.trim)
    | none => do return (← expression limits memory text, memory)

variable (limits : Limits) (memory : Variables)

/-- Only literals are read as numerals. -/
theorem resolve_eq (operand : Operand) :
    resolve memory operand = sound (operand.resolve memory) := by
  cases operand with
  | computed value => rfl
  | written text =>
      simp only [resolve, Operand.resolve]
      split
      · cases memory.get? text with
        | some value => rfl
        | none => rfl
      split
      · next literal =>
          rw [number, Numeral.read_literal ((isLiteral_eq_true_iff text).mp literal)]
          rfl
      · rfl

theorem quotient_eq (dividend divisor : Int) :
    quotient dividend divisor = sound (Reckoner.quotient dividend divisor) := by
  simp only [quotient, Reckoner.quotient]
  split
  · rfl
  · next nonzero =>
      have magnitude : divisor.natAbs ≠ 0 := by omega
      simp only [divide, magnitude, ↓reduceIte, ok_bind, tdiv_eq_signed, sound_ok]
      rfl

theorem guardedPower_eq (base exponent : Int) :
    guardedPower limits base exponent = sound (Reckoner.guardedPower limits base exponent) := by
  simp only [guardedPower, Reckoner.guardedPower]
  split
  · rfl
  split
  · rfl
  · next range size =>
      have natural : ¬ exponent < 0 := fun negative => range (.inl negative)
      simp only [raise, natural, ↓reduceIte, power_eq, sound_ok]

theorem apply_eq (left right : Int) (symbol : Operator) :
    apply limits left right symbol = sound (symbol.apply limits left right) := by
  cases symbol with
  | add => rfl
  | subtract => rfl
  | multiply => rfl
  | divide => exact quotient_eq left right
  | power => exact guardedPower_eq limits left right

theorem pop_eq (stack : Evaluation.Stack) :
    pop memory stack = sound (Evaluation.pop memory stack) := by
  cases stack with
  | nil => rfl
  | cons operand rest =>
      simp only [pop, List.isEmpty_cons, Bool.false_eq_true, ↓reduceIte, take, ok_bind,
        Evaluation.pop, sound_bind, resolve_eq]
      rfl

theorem popLeft_eq (symbol : Operator) (stack : Evaluation.Stack) :
    popLeft symbol memory stack = sound (Evaluation.popLeft symbol memory stack) := by
  cases stack with
  | nil =>
      cases sign : symbol.isSign with
      | true => simp [popLeft, Evaluation.popLeft, Evaluation.popOrZero, sign]
      | false => simp [popLeft, Evaluation.popLeft, sign, pop_eq]
  | cons operand rest =>
      simp only [popLeft, List.isEmpty_cons, Bool.false_eq_true, and_false, ↓reduceIte, pop_eq,
        Evaluation.popLeft, Evaluation.popOrZero, Evaluation.pop, ite_self]

theorem evaluateStep_eq (stack : Evaluation.Stack) (token : Token) :
    evaluateStep limits memory stack token = sound (Evaluation.step limits memory stack token) := by
  cases kind : token.category with
  | operator symbol =>
      simp only [evaluateStep, Evaluation.step, kind, Evaluation.operate, sound_bind, pop_eq,
        popLeft_eq, apply_eq]
      rfl
  | noise => simp only [evaluateStep, Evaluation.step, kind, sound_ok]
  | numeral => simp only [evaluateStep, Evaluation.step, kind, sound_ok]
  | name => simp only [evaluateStep, Evaluation.step, kind, sound_ok]
  | opening => simp only [evaluateStep, Evaluation.step, kind, sound_ok]
  | closing => simp only [evaluateStep, Evaluation.step, kind, sound_ok]

theorem foldlM_eq (stack : Evaluation.Stack) (tokens : List Token) :
    tokens.foldlM (evaluateStep limits memory) stack =
      sound (Evaluation.run limits memory stack tokens) := by
  induction tokens generalizing stack with
  | nil => rfl
  | cons token rest ih =>
      simp only [List.foldlM_cons, evaluateStep_eq, Evaluation.run, sound_bind]
      exact bind_congr fun left => ih left

theorem evaluate_eq (tokens : List Token) :
    evaluate limits memory tokens = sound (Evaluation.evaluate limits memory tokens) := by
  simp only [evaluate, Evaluation.evaluate, foldlM_eq, sound_bind]
  refine bind_congr fun stack => ?_
  cases stack with
  | nil => rfl
  | cons operand rest =>
      simp only [List.isEmpty_cons, Bool.false_eq_true, ↓reduceIte, take, ok_bind,
        Evaluation.result, sound_bind, resolve_eq]
      rfl

/-- An opening parenthesis is taken only from a stack that holds one. -/
theorem orderStep_eq (stack : PostOrder.Stack) (token : Token) :
    orderStep stack token = sound (PostOrder.step stack token) := by
  cases kind : token.category with
  | closing =>
      simp only [orderStep, PostOrder.step, kind]
      cases stack.dropWhile PostOrder.inside with
      | nil => rfl
      | cons opening below => rfl
  | noise => simp only [orderStep, PostOrder.step, kind, sound_ok]
  | numeral => simp only [orderStep, PostOrder.step, kind, sound_ok]
  | name => simp only [orderStep, PostOrder.step, kind, sound_ok]
  | opening => simp only [orderStep, PostOrder.step, kind, sound_ok]
  | operator symbol => simp only [orderStep, PostOrder.step, kind, sound_ok]

theorem order_eq (stack : PostOrder.Stack) (tokens : List Token) :
    order stack tokens = sound (PostOrder.run stack tokens) := by
  induction tokens generalizing stack with
  | nil => rfl
  | cons token rest ih =>
      simp only [order, PostOrder.run, orderStep_eq, ih, sound_bind]
      rfl

theorem expression_eq (text : Text) :
    expression limits memory text = sound (Calculator.expression limits memory text) := by
  simp only [expression, Calculator.expression, Calculator.postOrder, PostOrder.ofTokens,
    order_eq, evaluate_eq, sound_bind, bind_assoc]
  rfl

theorem assign_eq (name operand : Text) :
    assign memory name operand = sound (Calculator.assign memory name operand) := by
  simp only [assign, Calculator.assign, Calculator.assignedValue]
  split
  · simp only [resolve_eq, sound_bind]
    rfl
  · rfl

/-- No step breaks down, whatever the text. -/
theorem calculate_eq (text : Text) :
    calculate limits memory text = sound (Calculator.calculate limits memory text) := by
  simp only [calculate, Calculator.calculate]
  split
  · rfl
  split
  · rfl
  · cases text.splitFirst '=' with
    | some parts =>
        simp only [assign_eq, sound_bind]
        rfl
    | none =>
        simp only [expression_eq, sound_bind]
        rfl

end Frail

end Reckoner
