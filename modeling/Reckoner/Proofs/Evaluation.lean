import Reckoner.Proofs.Arithmetic
import Reckoner.Proofs.Evaluation.Stack
import Reckoner.Proofs.Operand

set_option autoImplicit false

/-!
Evaluation of any row of tokens. It comes to no value exactly if there is nothing in the row to be
worked out, and it never finds fault with a name that is to be set.
-/
namespace Reckoner

/-- The fault lies in an operand: there is none, or the one that there is has no value. -/
inductive Fault.OfOperand : Fault → Prop where
  | missing : OfOperand (.invalidExpression .missingOperand)
  | unknown (name : Text) : OfOperand (.unknownVariable name)
  | other (text : Text) : OfOperand (.invalidExpression (.notAnOperand text))

/-- The fault lies in what is to be worked out, not in a name that is to be set. -/
def Fault.OfValue (fault : Fault) : Prop := fault.kind ≠ .invalidIdentifier

theorem Fault.OfValue.flaw (flaw : Flaw) : (Fault.invalidExpression flaw).OfValue := by
  intro same
  cases same

theorem Fault.OfOperand.ofValue {fault : Fault} (operand : fault.OfOperand) : fault.OfValue := by
  intro same
  cases operand <;> cases same

theorem Operand.resolve_within (memory : Variables) (operand : Operand) :
    Within Fault.OfOperand (operand.resolve memory) := by
  cases operand with
  | computed value => exact within_ok value
  | written text =>
      simp only [Operand.resolve]
      split
      · split
        · exact within_ok _
        · exact within_error (.unknown text)
      split
      · exact within_ok _
      · exact within_error (.other text)

theorem Operator.apply_within (limits : Limits) (left right : Int) (symbol : Operator) :
    Within Fault.OfValue (symbol.apply limits left right) := by
  intro fault refused
  rcases apply_refused refused with ⟨-, -, rfl⟩ | ⟨-, beyond⟩
  · exact .flaw .zeroDivisor
  · obtain ⟨flaw, rfl⟩ := guardedPower_flaw beyond
    exact .flaw flaw

namespace Evaluation

variable (limits : Limits) (memory : Variables)

theorem pop_within (stack : Stack) : Within Fault.OfOperand (pop memory stack) := by
  cases stack with
  | nil => exact within_error .missing
  | cons operand rest => exact (operand.resolve_within memory).bind fun _ _ => within_ok _

theorem popLeft_within (symbol : Operator) (stack : Stack) :
    Within Fault.OfOperand (popLeft symbol memory stack) := by
  unfold popLeft
  split
  · cases stack with
    | nil => exact within_ok _
    | cons operand rest => exact (operand.resolve_within memory).bind fun _ _ => within_ok _
  · exact pop_within memory stack

section Within

variable {admitted : Fault → Prop} (operands : ∀ fault : Fault, fault.OfOperand → admitted fault)

include operands

/-- An operator is refused for its operands, or when it is applied to those that it takes. -/
theorem operate_within {symbol : Operator} {stack : Stack}
    (applied : ∀ right rest left below, pop memory stack = .ok (right, rest) →
      popLeft symbol memory rest = .ok (left, below) →
        Within admitted (symbol.apply limits left right)) :
    Within admitted (operate limits memory symbol stack) :=
  ((pop_within memory stack).imp operands).bind fun right popped =>
    ((popLeft_within memory symbol right.2).imp operands).bind fun _ taken =>
      (applied _ _ _ _ popped taken).bind fun _ _ => within_ok _

theorem step_within {stack : Stack} {token : Token}
    (applied : ∀ symbol right rest left below, token.category = .operator symbol →
      pop memory stack = .ok (right, rest) → popLeft symbol memory rest = .ok (left, below) →
        Within admitted (symbol.apply limits left right)) :
    Within admitted (step limits memory stack token) := by
  unfold step
  split
  · exact within_ok _
  · exact within_ok _
  · next symbol kind =>
      exact operate_within limits memory operands fun right rest left below =>
        applied symbol right rest left below kind
  · exact within_ok _

end Within

theorem run_within (stack : Stack) (tokens : List Token) :
    Within Fault.OfValue (run limits memory stack tokens) := by
  induction tokens generalizing stack with
  | nil => exact within_ok _
  | cons token rest ih =>
      rw [run_cons]
      have stepped : Within Fault.OfValue (step limits memory stack token) :=
        step_within limits memory (fun _ operand => operand.ofValue)
          fun symbol right _ left _ _ _ _ => symbol.apply_within limits left right
      exact stepped.bind fun left _ => ih left

theorem evaluate_within (tokens : List Token) :
    Within Fault.OfValue (evaluate limits memory tokens) := by
  refine (run_within limits memory [] tokens).bind fun stack _ => ?_
  cases stack with
  | nil => exact within_ok _
  | cons operand rest =>
      have resolved := (operand.resolve_within memory).imp fun _ operand => operand.ofValue
      exact resolved.bind fun _ _ => within_ok _

theorem step_unused (stack : Stack) {token : Token} (unused : token.remains = false) :
    step limits memory stack token = .ok stack := by
  simp only [Token.remains, Bool.or_eq_false_iff] at unused
  cases kind : token.category with
  | noise => simp only [step, kind]
  | opening => simp only [step, kind]
  | closing => simp only [step, kind]
  | numeral => simp [kind, Category.isOperand] at unused
  | name => simp [kind, Category.isOperand] at unused
  | operator symbol => simp [kind, Category.isOperator] at unused

theorem step_ne_nil {stack left : Stack} {token : Token} (used : token.remains = true)
    (stepped : step limits memory stack token = .ok left) : left ≠ [] := by
  rcases step_cases stepped with ⟨-, rfl⟩ | ⟨symbol, -, operates⟩ | ⟨unused, -⟩
  · exact List.cons_ne_nil _ _
  · cases operates with
    | alone sign resolved applied => exact List.cons_ne_nil _ _
    | both rightResolved leftResolved applied => exact List.cons_ne_nil _ _
  · rw [used] at unused
    cases unused

/-- Operands are not lost: an operator leaves one where it has taken some. -/
theorem run_eq_nil_iff {stack left : Stack} {tokens : List Token}
    (ran : run limits memory stack tokens = .ok left) :
    left = [] ↔ stack = [] ∧ ∀ token ∈ tokens, token.remains = false := by
  induction tokens generalizing stack with
  | nil =>
      cases ran
      simp
  | cons token rest ih =>
      rw [run_cons, bind_eq_ok_iff] at ran
      obtain ⟨middle, stepped, later⟩ := ran
      rw [ih later, List.forall_mem_cons]
      cases used : token.remains with
      | true =>
          have occupied := step_ne_nil limits memory used stepped
          simp [occupied]
      | false =>
          rw [step_unused limits memory stack used] at stepped
          cases stepped
          simp

theorem result_eq_none_iff (stack : Stack) : result memory stack = .ok none ↔ stack = [] := by
  cases stack with
  | nil => simp [result]
  | cons operand rest => simp [result, bind_eq_ok_iff]

/-- A row of tokens has no value exactly if it has neither operands nor operators. -/
theorem evaluate_eq_none_iff (tokens : List Token) :
    evaluate limits memory tokens = .ok none ↔ ∀ token ∈ tokens, token.remains = false := by
  have idle (unused : ∀ token ∈ tokens, token.remains = false) :
      run limits memory [] tokens = .ok [] := by
    induction tokens with
    | nil => rfl
    | cons token rest ih =>
        rw [List.forall_mem_cons] at unused
        rw [run_cons, step_unused limits memory [] unused.1, ok_bind, ih unused.2]
  constructor
  · intro done
    obtain ⟨left, ran, vanishes⟩ := (bind_eq_ok_iff _).mp done
    rw [result_eq_none_iff, run_eq_nil_iff limits memory ran] at vanishes
    exact vanishes.2
  · intro unused
    rw [evaluate, idle unused, ok_bind, result]

end Evaluation

end Reckoner
