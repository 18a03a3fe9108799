import Reckoner.Journal.Event
import Reckoner.Proofs.Evaluation

set_option autoImplicit false

/-!
The calculator as it tells of its work where it is done. A stage that fails has told what it came
to before, and nothing behind it is told. What is told in this way is what is read off the outcomes
of the stages, and telling it changes none of them.
-/
namespace Reckoner

/-- A stage with the events that it tells before it ends. -/
structure Told (α : Type) where
  events : List Event
  outcome : Except Fault α

namespace Told

variable {α β : Type}

def tell (event : Event) : Told Unit := ⟨[event], .ok ()⟩

def silent (stage : Except Fault α) : Told α := ⟨[], stage⟩

/-- The second stage tells its events behind those of the first, if it is come to at all. -/
def bind (first : Told α) (next : α → Told β) : Told β :=
  match first.outcome with
  | .ok value => ⟨first.events ++ (next value).events, (next value).outcome⟩
  | .error fault => ⟨first.events, .error fault⟩

instance : Monad Told where
  pure value := silent (.ok value)
  bind := bind

/-- A stage with another in place of its fault, which is come to behind all that was told. -/
def orElse (stage : Told α) (other : Fault → Told α) : Told α :=
  match stage.outcome with
  | .ok _ => stage
  | .error fault => ⟨stage.events ++ (other fault).events, (other fault).outcome⟩

theorem ok_bind (events : List Event) (value : α) (next : α → Told β) :
    ((⟨events, .ok value⟩ : Told α) >>= next) =
      ⟨events ++ (next value).events, (next value).outcome⟩ := rfl

theorem bind_silent (events : List Event) (stage : Except Fault α) (next : α → Except Fault β) :
    ((⟨events, stage⟩ : Told α) >>= fun value => silent (next value)) =
      ⟨events, stage >>= next⟩ := by
  cases stage with
  | ok value => exact congrArg (Told.mk · (next value)) (List.append_nil events)
  | error fault => rfl

end Told

namespace Telling

open Told

/-! Each of the following definitions stands for the one of its name in the calculator or in a stage
before it, and tells what that stage has to tell. -/

def scan (text : Text) : Told (List Token) :=
  if text.isBlank then return []
  else do
    let tokens ← silent (Token.scan text)
    tell (.scanned text tokens)
    return tokens

def order (tokens : List Token) : Told (List Token) := do
  let ordered ← silent (PostOrder.ofTokens tokens)
  tell (.reordered ordered)
  return ordered

def postOrder (text : Text) : Told (List Token) := do
  order (← scan text)

def guardedPower (limits : Limits) (base exponent : Int) : Told Int :=
  if exponent < 0 ∨ limits.maxExponent < exponent then do
    tell (.exponentRefused (some limits.maxExponent))
    silent (.error (.invalidExpression (.exponentOutOfRange exponent)))
  else
    let bits := exponent.toNat * bitLength base
    if limits.maxResultBits < bits then do
      tell (.powerRefused bits limits.maxResultBits)
      silent (.error (.invalidExpression (.resultTooLarge bits)))
    else return power base exponent.toNat

def apply (limits : Limits) (left right : Int) : Operator → Told Int
  | .add => return left + right
  | .subtract => return left - right
  | .multiply => return left * right
  | .divide => silent (quotient left right)
  | .power => guardedPower limits left right

def operate (limits : Limits) (memory : Variables) (symbol : Operator)
    (stack : Evaluation.Stack) : Told Evaluation.Stack := do
  let (right, rest) ← silent (Evaluation.pop memory stack)
  let (left, rest) ← silent (Evaluation.popLeft symbol memory rest)
  return .computed (← apply limits left right symbol) :: rest

def step (limits : Limits) (memory : Variables) (stack : Evaluation.Stack) (token : Token) :
    Told Evaluation.Stack :=
  match token.category with
  | .numeral => return .written token.text :: stack
  | .name => return .written token.text :: stack
  | .operator symbol => operate limits memory symbol stack
  | _ => return stack

def run (limits : Limits) (memory : Variables) (stack : Evaluation.Stack) (tokens : List Token) :
    Told Evaluation.Stack :=
  tokens.foldlM (step limits memory) stack

def result (memory : Variables) : Evaluation.Stack → Told (Option Int)
  | [] => return none
  | operand :: rest => do
      if rest ≠ [] then tell (.operandsIgnored rest.length)
      return some (← silent (operand.resolve memory))

def evaluate (limits : Limits) (memory : Variables) (tokens : List Token) :
    Told (Option Int) := do
  result memory (← run limits memory [] tokens)

def expression (limits : Limits) (memory : Variables) (text : Text) : Told (Option Int) := do
  evaluate limits memory (← postOrder text)

def assign (memory : Variables) (name operand : Text) : Told Variables := do
  let value ← silent (Calculator.assignedValue memory name operand)
  tell (.assigned name (bitLength value))
  return memory.set name value

def calculate (limits : Limits) (memory : Variables) (text : Text) :
    Told (Option Int × Variables) :=
  if text.isBlank then return (none, memory)
  else if limits.maxInputLength < text.length then do
    tell (.inputRefused text.length)
    silent (.error (.invalidExpression (.tooLong text.length)))
  else
    match text.splitFirst '=' with
    | some (name, operand) => do return (none, ← assign memory name.trim operand.trim)
    | none => do return (← expression limits memory text, memory)

section Refusals

/-- What is told of a fault where it arises: something, if it is a power beyond the limits. -/
def refusal (limits : Limits) : Fault → List Event
  | .invalidExpression (.exponentOutOfRange _) => [.exponentRefused (some limits.maxExponent)]
  | .invalidExpression (.resultTooLarge bits) => [.powerRefused bits limits.maxResultBits]
  | _ => []

variable {α β : Type} (limits : Limits) (memory : Variables)

/-- A stage that tells of its fault where it arises, and of nothing else. -/
def guarded (stage : Except Fault α) : Told α :=
  match stage with
  | .ok value => silent (.ok value)
  | .error fault => ⟨refusal limits fault, .error fault⟩

/-- A fault is told of once, whatever comes behind it. -/
theorem guarded_bind (first : Except Fault α) (next : α → Except Fault β) :
    (guarded limits first >>= fun value => guarded limits (next value)) =
      guarded limits (first >>= next) := by
  cases first with
  | ok value => rfl
  | error fault => rfl

theorem silent_eq_guarded {stage : Except Fault α}
    (within : Within (fun fault => refusal limits fault = []) stage) :
    silent stage = guarded limits stage := by
  cases stage with
  | ok value => rfl
  | error fault => rw [guarded, within fault rfl, silent]

theorem refusal_ofOperand (fault : Fault) (operand : fault.OfOperand) :
    refusal limits fault = [] := by
  cases operand <;> rfl

theorem silent_pop (stack : Evaluation.Stack) :
    silent (Evaluation.pop memory stack) = guarded limits (Evaluation.pop memory stack) :=
  silent_eq_guarded limits ((Evaluation.pop_within memory stack).imp (refusal_ofOperand limits))

theorem silent_popLeft (symbol : Operator) (stack : Evaluation.Stack) :
    silent (Evaluation.popLeft symbol memory stack) =
      guarded limits (Evaluation.popLeft symbol memory stack) :=
  silent_eq_guarded limits
    ((Evaluation.popLeft_within memory symbol stack).imp (refusal_ofOperand limits))

theorem guardedPower_eq (base exponent : Int) :
    guardedPower limits base exponent =
      guarded limits (Reckoner.guardedPower limits base exponent) := by
  unfold guardedPower Reckoner.guardedPower
  split
  · rfl
  dsimp only
  split
  · rfl
  · rfl

theorem apply_eq (left right : Int) (symbol : Operator) :
    apply limits left right symbol = guarded limits (symbol.apply limits left right) := by
  cases symbol with
  | add => rfl
  | subtract => rfl
  | multiply => rfl
  | divide =>
      refine silent_eq_guarded limits ?_
      unfold quotient
      split
      · exact within_error rfl
      · exact within_ok _
  | power => exact guardedPower_eq limits left right

theorem operate_eq (symbol : Operator) (stack : Evaluation.Stack) :
    operate limits memory symbol stack =
      guarded limits (Evaluation.operate limits memory symbol stack) := by
  have pushed (left right : Int) (below : Evaluation.Stack) :
      (do return Operand.computed (← apply limits left right symbol) :: below) =
        guarded limits (do return .computed (← symbol.apply limits left right) :: below) := by
    rw [apply_eq]
    exact guarded_bind limits (symbol.apply limits left right) fun value =>
      .ok (.computed value :: below)
  simp only [operate, Evaluation.operate, silent_pop limits, silent_popLeft limits, pushed,
    guarded_bind]

theorem step_eq (stack : Evaluation.Stack) (token : Token) :
    step limits memory stack token =
      guarded limits (Evaluation.step limits memory stack token) := by
  unfold step Evaluation.step
  cases token.category with
  | operator symbol => exact operate_eq limits memory symbol stack
  | _ => rfl

theorem run_eq (stack : Evaluation.Stack) (tokens : List Token) :
    run limits memory stack tokens =
      guarded limits (Evaluation.run limits memory stack tokens) := by
  induction tokens generalizing stack with
  | nil => rfl
  | cons token rest ih =>
      rw [Evaluation.run_cons, ← guarded_bind, ← step_eq]
      exact congrArg _ (funext ih)

end Refusals

section Whole

variable (limits : Limits) (memory : Variables)

theorem result_eq (stack : Evaluation.Stack) : result memory stack =
    ⟨if 1 < stack.length then [.operandsIgnored (stack.length - 1)] else [],
      Evaluation.result memory stack⟩ := by
  match stack with
  | [] => rfl
  | [operand] =>
      simp only [result, Evaluation.result]
      cases operand.resolve memory <;> rfl
  | operand :: next :: rest =>
      simp only [result, Evaluation.result]
      cases operand.resolve memory <;> rfl

theorem evaluate_eq (tokens : List Token) : evaluate limits memory tokens =
    ⟨Calculator.evaluationEvents limits memory tokens,
      Evaluation.evaluate limits memory tokens⟩ := by
  unfold evaluate Calculator.evaluationEvents Evaluation.evaluate
  rw [run_eq]
  cases Evaluation.run limits memory [] tokens with
  | ok stack => exact result_eq memory stack
  | error fault =>
      cases fault with
      | unknownVariable name => rfl
      | invalidIdentifier name => rfl
      | invalidExpression flaw => cases flaw <;> rfl

theorem scan_eq {text : Text} (occupied : text.isBlank = false) : scan text =
    ⟨match Token.scan text with
      | .error _ => []
      | .ok tokens => [.scanned text tokens], Token.scan text⟩ := by
  simp only [scan, occupied, Bool.false_eq_true, ↓reduceIte]
  cases Token.scan text with
  | ok tokens => rfl
  | error fault => rfl

theorem order_eq (tokens : List Token) : order tokens =
    ⟨match PostOrder.ofTokens tokens with
      | .error _ => []
      | .ok ordered => [.reordered ordered], PostOrder.ofTokens tokens⟩ := by
  unfold order
  cases PostOrder.ofTokens tokens with
  | ok ordered => rfl
  | error fault => rfl

theorem postOrder_eq {text : Text} (occupied : text.isBlank = false) :
    postOrder text = ⟨Calculator.readingEvents text, Calculator.postOrder text⟩ := by
  rw [postOrder, scan_eq occupied, Calculator.readingEvents, Calculator.postOrder]
  cases Token.scan text with
  | ok tokens =>
      simp only [Told.ok_bind, order_eq]
      rfl
  | error fault => rfl

theorem expression_eq {text : Text} (occupied : text.isBlank = false) :
    expression limits memory text =
      ⟨Calculator.expressionEvents limits memory text,
        Calculator.expression limits memory text⟩ := by
  rw [expression, postOrder_eq occupied, Calculator.expressionEvents, Calculator.expression]
  cases Calculator.postOrder text with
  | ok ordered =>
      simp only [Told.ok_bind, evaluate_eq]
      rfl
  | error fault =>
      rw [List.append_nil]
      rfl

theorem assign_eq (name operand : Text) : assign memory name operand =
    ⟨Calculator.assignmentEvents memory name operand,
      Calculator.assign memory name operand⟩ := by
  unfold assign Calculator.assignmentEvents Calculator.assign
  cases Calculator.assignedValue memory name operand with
  | ok value => rfl
  | error fault => rfl

/-- What is told while a line is worked out is read off what its stages come to. -/
theorem calculate_eq (text : Text) : calculate limits memory text =
    ⟨Calculator.calculationEvents limits memory text,
      Calculator.calculate limits memory text⟩ := by
  unfold calculate Calculator.calculationEvents Calculator.calculate
  cases occupied : text.isBlank with
  | true => rfl
  | false =>
      simp only [Bool.false_eq_true, ↓reduceIte]
      split
      · rfl
      cases text.splitFirst '=' with
      | some parts =>
          simp only [assign_eq]
          exact bind_silent _ _ fun after => .ok (none, after)
      | none =>
          simp only [expression_eq limits memory occupied]
          exact bind_silent _ _ fun value => .ok (value, memory)

end Whole

end Telling

end Reckoner
