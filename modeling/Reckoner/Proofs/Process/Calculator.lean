import Reckoner.Proofs.Process.Work

set_option autoImplicit false

/-!
The stages of the calculator as work on a process. Each of them comes to what the calculator comes
to on the limits of the process and on the variables at the address that it was given, and leaves
everything else in the process as it was.
-/
namespace Reckoner.Work

/-! Each of the following definitions stands for the one of its name in the calculator or in a stage
before it. The address is that of the variables that a calculator works on. -/

def resolve (address : Nat) : Operand → Work Int
  | .computed value => return value
  | .written text =>
      if isName text then do
        match ((← get).memory address).get? text with
        | some value => return value
        | none => throw (.fault (.unknownVariable text))
      else if isLiteral text then unlimited (number text)
      else throw (.fault (.invalidExpression (.notAnOperand text)))

def guardedPower (base exponent : Int) : Work Int := do
  let limits := (← get).limits
  if exponent < 0 ∨ limits.maxExponent < exponent then
    throw (.fault (.invalidExpression (.exponentOutOfRange exponent)))
  else
    let bits := exponent.toNat * bitLength base
    if limits.maxResultBits < bits then
      throw (.fault (.invalidExpression (.resultTooLarge bits)))
    else MonadExcept.ofExcept (Frail.raise base exponent)

def apply (left right : Int) : Operator → Work Int
  | .add => return left + right
  | .subtract => return left - right
  | .multiply => return left * right
  | .divide => MonadExcept.ofExcept (Frail.quotient left right)
  | .power => guardedPower left right

def pop (address : Nat) (stack : Evaluation.Stack) : Work (Int × Evaluation.Stack) :=
  if stack.isEmpty then throw (.fault (.invalidExpression .missingOperand))
  else do
    let (operand, rest) ← MonadExcept.ofExcept (Frail.take stack)
    return (← resolve address operand, rest)

def popLeft (symbol : Operator) (address : Nat) (stack : Evaluation.Stack) :
    Work (Int × Evaluation.Stack) :=
  if symbol.isSign ∧ stack.isEmpty then return (0, []) else pop address stack

def evaluateStep (address : Nat) (stack : Evaluation.Stack) (token : Token) :
    Work Evaluation.Stack :=
  match token.category with
  | .numeral => return .written token.text :: stack
  | .name => return .written token.text :: stack
  | .operator symbol => do
      let (right, rest) ← pop address stack
      let (left, rest) ← popLeft symbol address rest
      return .computed (← apply left right symbol) :: rest
  | _ => return stack

def evaluate (address : Nat) (tokens : List Token) : Work (Option Int) := do
  let stack ← tokens.foldlM (evaluateStep address) []
  if stack.isEmpty then return none
  else do
    let (operand, _) ← MonadExcept.ofExcept (Frail.take stack)
    return some (← resolve address operand)

def expression (address : Nat) (text : Text) : Work (Option Int) := do
  let tokens ← MonadExcept.ofExcept (Frail.sound (Token.scan text))
  let (sent, left) ← MonadExcept.ofExcept (Frail.order [] tokens)
  evaluate address (sent ++ (← MonadExcept.ofExcept (Frail.sound (PostOrder.drain left))))

def assign (address : Nat) (name operand : Text) : Work Unit :=
  if isName name then do
    let value ← resolve address (.written operand)
    modify fun process => process.write address ((process.memory address).set name value)
  else throw (.fault (.invalidIdentifier name))

def calculate (address : Nat) (text : Text) : Work (Option Int) :=
  if text.isBlank then return none
  else do
    if (← get).limits.maxInputLength < text.length then
      throw (.fault (.invalidExpression (.tooLong text.length)))
    else
      match text.splitFirst '=' with
      | some (name, operand) => do
          assign address name.trim operand.trim
          return none
      | none => expression address text

def line (address : Nat) (text : Text) : Work Text :=
  onFault (do
    match ← calculate address text.trim with
    | none => return []
    | some value => unlimited (decimal value))
  fun fault => return fault.message

def command (address : Nat) (text : Text) : Work Text :=
  if text.trim = Calculator.helpCommand then return Calculator.helpText
  else if text.trim = Calculator.exitCommand then return []
  else if Calculator.isCommand text.trim then return FaultKind.unknownCommand.message
  else line address text.trim

def report (address : Nat) (text : Text) : Work Report :=
  onFault (do
    match ← calculate address text.trim with
    | none => return { ok := true }
    | some value => return { ok := true, result := some (← unlimited (decimal value)) })
  fun fault => return { ok := false, error := some fault.message, errorCode := some fault.code }

section Stages

variable (process : Process) (address : Nat)

theorem resolve_run (operand : Operand) : (resolve address operand).run process =
    ending process (Frail.resolve (process.memory address) operand) := by
  cases operand with
  | computed value => rfl
  | written text =>
      simp only [resolve, Frail.resolve]
      split
      · change (match (process.memory address).get? text with
          | some value => return value
          | none => throw (.fault (.unknownVariable text)) : Work Int).run process = _
        cases (process.memory address).get? text with
        | some value => rfl
        | none => rfl
      split
      · exact unlimited_number text process
      · rfl

theorem guardedPower_run (base exponent : Int) : (guardedPower base exponent).run process =
    ending process (Frail.guardedPower process.limits base exponent) := by
  change (if exponent < 0 ∨ process.limits.maxExponent < exponent then _ else _ : Work Int).run
    process = _
  unfold Frail.guardedPower
  split
  · rfl
  dsimp only
  split
  · rfl
  · exact ofExcept_run _ process

theorem apply_run (left right : Int) (symbol : Operator) : (apply left right symbol).run process =
    ending process (Frail.apply process.limits left right symbol) := by
  cases symbol with
  | add => rfl
  | subtract => rfl
  | multiply => rfl
  | divide => exact ofExcept_run _ process
  | power => exact guardedPower_run process left right

theorem pop_run (stack : Evaluation.Stack) : (pop address stack).run process =
    ending process (Frail.pop (process.memory address) stack) := by
  unfold pop Frail.pop
  split
  · rfl
  · refine bind_ending (ofExcept_run _ process) fun taken => ?_
    exact bind_ending (resolve_run process address taken.1) fun value => rfl

theorem popLeft_run (symbol : Operator) (stack : Evaluation.Stack) :
    (popLeft symbol address stack).run process =
      ending process (Frail.popLeft symbol (process.memory address) stack) := by
  unfold popLeft Frail.popLeft
  split
  · rfl
  · exact pop_run process address stack

theorem evaluateStep_run (stack : Evaluation.Stack) (token : Token) :
    (evaluateStep address stack token).run process =
      ending process
        (Frail.evaluateStep process.limits (process.memory address) stack token) := by
  unfold evaluateStep Frail.evaluateStep
  cases token.category with
  | operator symbol =>
      refine bind_ending (pop_run process address stack) fun right => ?_
      refine bind_ending (popLeft_run process address symbol right.2) fun left => ?_
      exact bind_ending (apply_run process left.1 right.1 symbol) fun value => rfl
  | _ => rfl

theorem foldlM_run (stack : Evaluation.Stack) (tokens : List Token) :
    (tokens.foldlM (evaluateStep address) stack).run process =
      ending process (tokens.foldlM
        (Frail.evaluateStep process.limits (process.memory address)) stack) := by
  induction tokens generalizing stack with
  | nil => rfl
  | cons token rest ih =>
      rw [List.foldlM_cons, List.foldlM_cons]
      exact bind_ending (evaluateStep_run process address stack token) ih

theorem evaluate_run (tokens : List Token) : (evaluate address tokens).run process =
    ending process (Frail.evaluate process.limits (process.memory address) tokens) := by
  refine bind_ending (foldlM_run process address [] tokens) fun stack => ?_
  split
  · rfl
  · refine bind_ending (ofExcept_run _ process) fun taken => ?_
    exact bind_ending (resolve_run process address taken.1) fun value => rfl

theorem expression_run (text : Text) : (expression address text).run process =
    ending process (Frail.expression process.limits (process.memory address) text) := by
  refine bind_ending (ofExcept_run _ process) fun tokens => ?_
  refine bind_ending (ofExcept_run _ process) fun ordered => ?_
  refine bind_ending (ofExcept_run _ process) fun drained => ?_
  exact evaluate_run process address (ordered.1 ++ drained)

/-- An assignment writes at its address when it has its value, and has written nothing before. -/
theorem assign_run (name operand : Text) : (assign address name operand).run process =
    match Calculator.assign (process.memory address) name operand with
    | .ok after => .ok () (process.write address after)
    | .error fault => .error (.fault fault) process := by
  unfold assign Calculator.assign Calculator.assignedValue
  split
  · have found := resolve_run process address (.written operand)
    rw [Frail.resolve_eq] at found
    cases resolved : (Operand.written operand).resolve (process.memory address) with
    | ok value =>
        rw [resolved] at found
        exact bind_ok found
    | error fault =>
        rw [resolved] at found
        exact bind_error found
  · rfl

/-- A text comes to what it comes to on the variables at the address, and only a text that comes to
something leaves other variables there. -/
theorem calculate_run (text : Text) : (calculate address text).run process =
    match Calculator.calculate process.limits (process.memory address) text with
    | .ok (value, after) => .ok value (process.write address after)
    | .error fault => .error (.fault fault) process := by
  unfold calculate Calculator.calculate
  split
  · dsimp only
    rw [process.write_same]
    rfl
  change (if process.limits.maxInputLength < text.length then _ else _ : Work (Option Int)).run
    process = _
  split
  · rfl
  cases text.splitFirst '=' with
  | some parts =>
      have assigned := assign_run process address parts.1.trim parts.2.trim
      dsimp only
      cases done : Calculator.assign (process.memory address) parts.1.trim parts.2.trim with
      | ok after =>
          rw [done] at assigned
          exact bind_ok assigned
      | error fault =>
          rw [done] at assigned
          exact bind_error assigned
  | none =>
      have worked := expression_run process address text
      rw [Frail.expression_eq] at worked
      dsimp only
      rw [worked]
      cases Calculator.expression process.limits (process.memory address) text with
      | ok value =>
          simp only [ok_bind, pure_eq_ok]
          rw [process.write_same]
          rfl
      | error fault => rfl

theorem line_run (text : Text) : (line address text).run process =
    .ok (Calculator.line process.limits (process.memory address) text).1
      (process.write address (Calculator.line process.limits (process.memory address) text).2) := by
  have calculated := calculate_run process address text.trim
  unfold Calculator.line
  cases done : Calculator.calculate process.limits (process.memory address) text.trim with
  | error fault =>
      rw [done] at calculated
      dsimp only
      rw [process.write_same]
      exact onFault_fault (bind_error calculated)
  | ok result =>
      obtain ⟨value, after⟩ := result
      rw [done] at calculated
      refine onFault_ok ((bind_ok calculated).trans ?_)
      cases value with
      | none => rfl
      | some value => exact unlimited_decimal value _

theorem command_run (text : Text) : (command address text).run process =
    .ok (Calculator.command process.limits (process.memory address) text).1 (process.write address
      (Calculator.command process.limits (process.memory address) text).2) := by
  unfold command Calculator.command
  split
  · rw [process.write_same]
    rfl
  split
  · rw [process.write_same]
    rfl
  split
  · rw [process.write_same]
    rfl
  · exact line_run process address text.trim

theorem report_run (text : Text) : (report address text).run process =
    .ok (Calculator.report process.limits (process.memory address) text).1 (process.write address
      (Calculator.report process.limits (process.memory address) text).2) := by
  have calculated := calculate_run process address text.trim
  unfold Calculator.report
  cases done : Calculator.calculate process.limits (process.memory address) text.trim with
  | error fault =>
      rw [done] at calculated
      dsimp only
      rw [process.write_same]
      exact onFault_fault (bind_error calculated)
  | ok result =>
      obtain ⟨value, after⟩ := result
      rw [done] at calculated
      refine onFault_ok ((bind_ok calculated).trans ?_)
      cases value with
      | none => rfl
      | some value => exact bind_ok (unlimited_decimal value _)

end Stages

end Reckoner.Work
