import Reckoner.Proofs.Evaluation.Depth

set_option autoImplicit false

/-!
Refusals: which operands a row of tokens asks for, and why it is refused. Either an operand that is
asked for has no value, or an operator finds too few operands, a divisor that is zero, or a power
that is beyond the limits. There is no other cause, and each of these is one.
-/
namespace Reckoner

namespace Evaluation

/-- The row comes to the token with these operands on the stack. -/
def Meets (limits : Limits) (memory : Variables) (tokens : List Token) (token : Token)
    (stack : Stack) : Prop :=
  ∃ front back, tokens = front ++ token :: back ∧ run limits memory [] front = .ok stack

/-- An operator asks for the newest operand, and if that has a value for the one below it. -/
inductive Asks (memory : Variables) (token : Token) : Stack → Operand → Prop where
  | right {operand : Operand} {rest : Stack} (operator : token.category.isOperator = true) :
      Asks memory token (operand :: rest) operand
  | left {second operand : Operand} {below : Stack} {value : Int}
      (operator : token.category.isOperator = true)
      (resolved : second.resolve memory = .ok value) :
      Asks memory token (second :: operand :: below) operand

/-- The value of an operand is asked for in a row: by an operator, or as the result. -/
def Asked (limits : Limits) (memory : Variables) (tokens : List Token) (operand : Operand) : Prop :=
  (∃ token stack, Meets limits memory tokens token stack ∧ Asks memory token stack operand) ∨
    ∃ below, run limits memory [] tokens = .ok (operand :: below)

/-- What keeps an operator from being applied where its operands have values: there are too few of
them, the divisor is zero, or the power is beyond the limits. -/
inductive Blocked (limits : Limits) (memory : Variables) (token : Token) : Stack → Flaw → Prop where
  | short {stack : Stack} (few : stack.length < needed token)
      (resolves : ∀ operand ∈ stack, Resolves memory operand) :
      Blocked limits memory token stack .missingOperand
  | zeroDivisor {second first : Operand} {below : Stack} {left : Int}
      (kind : token.category = .operator .divide)
      (rightResolved : second.resolve memory = .ok 0)
      (leftResolved : first.resolve memory = .ok left) :
      Blocked limits memory token (second :: first :: below) .zeroDivisor
  | guarded {second first : Operand} {below : Stack} {left right : Int} {flaw : Flaw}
      (kind : token.category = .operator .power)
      (rightResolved : second.resolve memory = .ok right)
      (leftResolved : first.resolve memory = .ok left)
      (excluded : limits.Exclude left right)
      (refused : guardedPower limits left right = .error (.invalidExpression flaw)) :
      Blocked limits memory token (second :: first :: below) flaw

variable {limits : Limits} {memory : Variables} {token : Token} {stack : Stack} {fault : Fault}

theorem step_operator {symbol : Operator} (kind : token.category = .operator symbol)
    (stack : Stack) : step limits memory stack token = operate limits memory symbol stack := by
  simp only [step, kind]

theorem step_ne_error (other : token.category.isOperator = false) :
    step limits memory stack token ≠ .error fault := by
  cases kind : token.category with
  | operator symbol => simp [kind, Category.isOperator] at other
  | _ => simp [step, kind]

theorem operate_alone {symbol : Operator} {operand : Operand} {right : Int}
    (sign : symbol.isSign = true) (resolved : operand.resolve memory = .ok right) :
    operate limits memory symbol [operand] =
      (do return [.computed (← symbol.apply limits 0 right)]) := by
  simp only [operate, pop, popLeft, popOrZero, resolved, sign, ↓reduceIte, ok_bind, pure_eq_ok]

theorem operate_both {symbol : Operator} {second first : Operand} {below : Stack}
    {left right : Int} (rightResolved : second.resolve memory = .ok right)
    (leftResolved : first.resolve memory = .ok left) :
    operate limits memory symbol (second :: first :: below) =
      (do return .computed (← symbol.apply limits left right) :: below) := by
  simp only [operate, pop, popLeft, popOrZero, rightResolved, leftResolved, ite_self, ok_bind,
    pure_eq_ok]

theorem isOperator_of_needed {depth : Nat} (few : depth < needed token) :
    token.category.isOperator = true := by
  cases operator : token.category.isOperator with
  | true => rfl
  | false =>
      rw [needed_of_not_isOperator operator] at few
      cases few

theorem step_unresolved {operand : Operand} (asks : Asks memory token stack operand)
    (unresolved : operand.resolve memory = .error fault) :
    step limits memory stack token = .error fault := by
  cases asks with
  | right operator =>
      obtain ⟨symbol, kind⟩ := (Category.isOperator_eq_true_iff _).mp operator
      rw [step_operator kind]
      simp only [operate, pop, unresolved, error_bind]
  | left operator resolved =>
      obtain ⟨symbol, kind⟩ := (Category.isOperator_eq_true_iff _).mp operator
      rw [step_operator kind]
      simp only [operate, pop, popLeft, popOrZero, resolved, unresolved, ok_bind, error_bind,
        pure_eq_ok, ite_self]

theorem step_blocked {flaw : Flaw} (blocked : Blocked limits memory token stack flaw) :
    step limits memory stack token = .error (.invalidExpression flaw) := by
  cases blocked with
  | short few resolves =>
      obtain ⟨symbol, kind⟩ := (Category.isOperator_eq_true_iff _).mp (isOperator_of_needed few)
      rw [needed_operator kind] at few
      rw [step_operator kind]
      cases stack with
      | nil => rfl
      | cons second rest =>
          obtain ⟨value, resolved⟩ := resolves second (by simp)
          cases sign : symbol.isSign with
          | true => simp [sign] at few
          | false =>
              have alone : rest = [] := by
                rw [List.length_cons, sign, if_neg Bool.false_ne_true] at few
                exact List.eq_nil_of_length_eq_zero (by omega)
              simp only [alone, operate, pop, popLeft, sign, resolved, ok_bind, error_bind,
                pure_eq_ok, Bool.false_eq_true, ↓reduceIte]
  | zeroDivisor kind rightResolved leftResolved =>
      rw [step_operator kind, operate_both rightResolved leftResolved, Operator.apply,
        quotient_zero, error_bind]
  | guarded kind rightResolved leftResolved excluded refused =>
      rw [step_operator kind, operate_both rightResolved leftResolved, Operator.apply, refused,
        error_bind]

/-- What an operator can find: an operand that it asks for without a value, too few operands, or as
many as it takes, all with values. -/
theorem operands_cases {symbol : Operator} (kind : token.category = .operator symbol)
    (memory : Variables) (stack : Stack) :
    (∃ operand fault, Asks memory token stack operand ∧ operand.resolve memory = .error fault) ∨
      (stack.length < needed token ∧ ∀ operand ∈ stack, Resolves memory operand) ∨
      (∃ operand right, symbol.isSign = true ∧ stack = [operand] ∧
        operand.resolve memory = .ok right) ∨
      ∃ second first below right left, stack = second :: first :: below ∧
        second.resolve memory = .ok right ∧ first.resolve memory = .ok left := by
  have operator : token.category.isOperator = true := by rw [kind]; rfl
  rw [needed_operator kind]
  cases stack with
  | nil => exact .inr (.inl ⟨by split <;> simp, by simp⟩)
  | cons second rest =>
      cases right : second.resolve memory with
      | error fault => exact .inl ⟨second, fault, .right operator, right⟩
      | ok value =>
          cases rest with
          | nil =>
              cases sign : symbol.isSign with
              | true => exact .inr (.inr (.inl ⟨second, value, rfl, rfl, right⟩))
              | false => exact .inr (.inl ⟨by simp, by simp [Resolves, right]⟩)
          | cons first below =>
              cases left : first.resolve memory with
              | error fault => exact .inl ⟨first, fault, .left operator right, left⟩
              | ok other =>
                  exact .inr (.inr (.inr ⟨second, first, below, value, other, rfl, right, left⟩))

/-- There is no other cause for which a token is refused. -/
theorem step_refused (refused : step limits memory stack token = .error fault) :
    (∃ operand, Asks memory token stack operand ∧ operand.resolve memory = .error fault) ∨
      ∃ flaw, fault = .invalidExpression flaw ∧ Blocked limits memory token stack flaw := by
  cases operator : token.category.isOperator with
  | false => exact absurd refused (step_ne_error operator)
  | true =>
      obtain ⟨symbol, kind⟩ := (Category.isOperator_eq_true_iff _).mp operator
      rcases operands_cases kind memory stack with ⟨operand, first, asks, unresolved⟩ |
        ⟨few, resolves⟩ | ⟨operand, right, sign, rfl, resolved⟩ |
        ⟨second, first, below, right, left, rfl, rightResolved, leftResolved⟩
      · rw [step_unresolved asks unresolved] at refused
        exact .inl ⟨operand, asks, by rw [unresolved, Except.error.inj refused]⟩
      · have blocked : Blocked limits memory token stack .missingOperand := .short few resolves
        rw [step_blocked blocked] at refused
        exact .inr ⟨.missingOperand, (Except.error.inj refused).symm, blocked⟩
      · -- A sign that stands alone makes a sum or a difference with zero, which is never refused.
        rw [step_operator kind, operate_alone sign resolved, bind_eq_error_iff] at refused
        rcases refused with applied | ⟨value, -, other⟩
        · rcases Operator.apply_refused applied with ⟨rfl, -⟩ | ⟨rfl, -⟩
          · cases sign
          · cases sign
        · cases other
      · rw [step_operator kind, operate_both rightResolved leftResolved,
          bind_eq_error_iff] at refused
        rcases refused with applied | ⟨value, -, other⟩
        · rcases Operator.apply_refused applied with ⟨rfl, rfl, rfl⟩ | ⟨rfl, beyond⟩
          · exact .inr ⟨.zeroDivisor, rfl, .zeroDivisor kind rightResolved leftResolved⟩
          · obtain ⟨flaw, rfl⟩ := guardedPower_flaw beyond
            have excluded := (guardedPower_refused_iff limits left right).mp ⟨flaw, beyond⟩
            exact .inr ⟨flaw, rfl, .guarded kind rightResolved leftResolved excluded beyond⟩
        · cases other

/-- A run is refused at the first token that is refused on what the tokens before it leave. -/
theorem run_eq_error_iff (tokens : List Token) (fault : Fault) :
    run limits memory stack tokens = .error fault ↔
      ∃ front token back middle, tokens = front ++ token :: back ∧
        run limits memory stack front = .ok middle ∧
        step limits memory middle token = .error fault := by
  induction tokens generalizing stack with
  | nil => simp [run, pure_eq_ok]
  | cons first rest ih =>
      rw [run_cons, bind_eq_error_iff]
      constructor
      · intro refused
        rcases refused with refused | ⟨middle, stepped, later⟩
        · exact ⟨[], first, rest, stack, rfl, rfl, refused⟩
        · obtain ⟨front, token, back, last, rfl, ran, refused⟩ := ih.mp later
          refine ⟨first :: front, token, back, last, rfl, ?_, refused⟩
          rw [run_cons, stepped, ok_bind, ran]
      · intro refusal
        obtain ⟨front, token, back, last, parts, ran, refused⟩ := refusal
        cases front with
        | nil =>
            cases ran
            obtain ⟨rfl, rfl⟩ := List.cons.inj parts
            exact .inl refused
        | cons other front =>
            obtain ⟨rfl, rfl⟩ := List.cons.inj parts
            rw [run_cons, bind_eq_ok_iff] at ran
            obtain ⟨middle, stepped, ran⟩ := ran
            exact .inr ⟨middle, stepped, ih.mpr ⟨front, token, back, last, rfl, ran, refused⟩⟩

/-- A row of tokens is refused exactly if an operand that is asked for has no value, or if an
operator that the row comes to is blocked. -/
theorem evaluate_eq_error_iff (tokens : List Token) (fault : Fault) :
    evaluate limits memory tokens = .error fault ↔
      (∃ operand, Asked limits memory tokens operand ∧
          operand.resolve memory = .error fault) ∨
        ∃ flaw, fault = .invalidExpression flaw ∧ ∃ token stack,
          Meets limits memory tokens token stack ∧ Blocked limits memory token stack flaw := by
  rw [evaluate, bind_eq_error_iff, run_eq_error_iff]
  constructor
  · intro refusal
    rcases refusal with ⟨front, token, back, middle, parts, ran, refused⟩ | ⟨left, ran, refused⟩
    · have meets : Meets limits memory tokens token middle := ⟨front, back, parts, ran⟩
      rcases step_refused refused with ⟨operand, asks, unresolved⟩ | ⟨flaw, same, blocked⟩
      · exact .inl ⟨operand, .inl ⟨token, middle, meets, asks⟩, unresolved⟩
      · exact .inr ⟨flaw, same, token, middle, meets, blocked⟩
    · cases left with
      | nil => cases refused
      | cons operand below =>
          rw [result, bind_eq_error_iff] at refused
          rcases refused with unresolved | ⟨value, -, other⟩
          · exact .inl ⟨operand, .inr ⟨below, ran⟩, unresolved⟩
          · cases other
  · intro cause
    rcases cause with ⟨operand, asked, unresolved⟩ |
      ⟨flaw, rfl, token, stack, ⟨front, back, parts, ran⟩, blocked⟩
    · rcases asked with ⟨token, stack, ⟨front, back, parts, ran⟩, asks⟩ | ⟨below, ran⟩
      · exact .inl ⟨front, token, back, stack, parts, ran, step_unresolved asks unresolved⟩
      · exact .inr ⟨operand :: below, ran, by rw [result, unresolved, error_bind]⟩
    · exact .inl ⟨front, token, back, stack, parts, ran, step_blocked blocked⟩

theorem Asks.mem {operand : Operand} (asks : Asks memory token stack operand) :
    operand ∈ stack := by
  cases asks with
  | right operator => exact List.mem_cons_self
  | left operator resolved => exact List.mem_cons_of_mem _ List.mem_cons_self

theorem Asked.holds {tokens : List Token} {operand : Operand} {Holds : Operand → Prop}
    (asked : Asked limits memory tokens operand) (computed : ∀ value, Holds (.computed value))
    (written : ∀ token ∈ tokens, token.category.isOperand = true →
      Holds (.written token.text)) : Holds operand := by
  have none : ∀ operand ∈ ([] : Stack), Holds operand := List.forall_mem_nil _
  rcases asked with ⟨token, stack, ⟨front, back, rfl, ran⟩, asks⟩ | ⟨below, ran⟩
  · have before : ∀ token ∈ front, token.category.isOperand = true →
        Holds (.written token.text) :=
      fun token member => written token (List.mem_append_left _ member)
    exact run_forall computed before none ran operand asks.mem
  · exact run_forall computed written none ran operand List.mem_cons_self

end Evaluation

end Reckoner
