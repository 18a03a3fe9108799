import Reckoner.Proofs.Evaluation

set_option autoImplicit false

/-!
Depth of the stack of operands, told from the tokens alone. A row of tokens comes to a value only if
each operator finds as many operands as it needs. Where neither operands nor arithmetic can fail,
it comes to a value exactly then, and is otherwise refused for a missing operand.
-/
namespace Reckoner

/-- An operator that takes two operands wherever it stands. -/
def Category.needsTwo : Category → Bool
  | .operator symbol => !symbol.isSign
  | _ => false

namespace Evaluation

/-- How many operands a token needs to find. -/
def needed (token : Token) : Nat :=
  match token.category with
  | .operator symbol => if symbol.isSign then 1 else 2
  | _ => 0

/-- How many operands there are behind a token, if there were so many before it. A sign takes a
left operand only if there is one. -/
def depthAfter (depth : Nat) (token : Token) : Nat :=
  match token.category with
  | .numeral => depth + 1
  | .name => depth + 1
  | .operator symbol => if symbol.isSign then max (depth - 1) 1 else depth - 1
  | _ => depth

/-- Each token of a row finds as many operands as it needs, with so many before the row. -/
def Supplied (depth : Nat) : List Token → Prop
  | [] => True
  | token :: rest => needed token ≤ depth ∧ Supplied (depthAfter depth token) rest

instance : (depth : Nat) → (tokens : List Token) → Decidable (Supplied depth tokens)
  | _, [] => .isTrue trivial
  | depth, token :: rest =>
      have := instDecidableSupplied (depthAfter depth token) rest
      inferInstanceAs (Decidable (needed token ≤ depth ∧ Supplied (depthAfter depth token) rest))

theorem needed_operator {token : Token} {symbol : Operator}
    (kind : token.category = .operator symbol) :
    needed token = if symbol.isSign then 1 else 2 := by
  simp only [needed, kind]

theorem depthAfter_operator {token : Token} {symbol : Operator}
    (kind : token.category = .operator symbol) (depth : Nat) :
    depthAfter depth token = if symbol.isSign then max (depth - 1) 1 else depth - 1 := by
  simp only [depthAfter, kind]

theorem needed_of_not_isOperator {token : Token} (other : token.category.isOperator = false) :
    needed token = 0 := by
  cases kind : token.category with
  | operator symbol => simp [kind, Category.isOperator] at other
  | _ => simp only [needed, kind]

theorem depthAfter_operand {token : Token} (operand : token.category.isOperand = true)
    (depth : Nat) : depthAfter depth token = depth + 1 := by
  rcases (Category.isOperand_eq_true_iff _).mp operand with kind | kind
  · simp only [depthAfter, kind]
  · simp only [depthAfter, kind]

theorem depthAfter_unused {token : Token} (unused : token.remains = false) (depth : Nat) :
    depthAfter depth token = depth := by
  cases kind : token.category <;>
    simp_all [depthAfter, Token.remains, Category.isOperand, Category.isOperator]

/-- A token that finds what it needs takes at least one operand if it always takes two. -/
theorem depthAfter_le {depth : Nat} {token : Token} (found : needed token ≤ depth) :
    depthAfter depth token + (if token.category.needsTwo then 1 else 0) ≤
      depth + if token.category.isOperand then 1 else 0 := by
  cases kind : token.category with
  | operator symbol =>
      rw [needed_operator kind] at found
      rw [depthAfter_operator kind]
      by_cases sign : symbol.isSign = true
      · rw [if_pos sign] at found
        simp only [Category.needsTwo, Category.isOperand, sign, Bool.not_true, Bool.false_eq_true,
          ↓reduceIte]
        omega
      · rw [if_neg sign] at found
        simp only [Category.needsTwo, Category.isOperand, sign, Bool.not_false, Bool.false_eq_true,
          ↓reduceIte]
        omega
  | _ => simp [depthAfter, kind, Category.needsTwo, Category.isOperand]

/-- Behind a row there are at most as many operands more as the row has operands of its own, and
one less for each operator that always takes two. -/
theorem foldl_depthAfter_le {depth : Nat} {tokens : List Token}
    (supplied : Supplied depth tokens) :
    tokens.foldl depthAfter depth + tokens.countP (·.category.needsTwo) ≤
      depth + tokens.countP (·.category.isOperand) := by
  induction tokens generalizing depth with
  | nil => exact Nat.le_refl _
  | cons token rest ih =>
      have first := depthAfter_le supplied.1
      have others := ih supplied.2
      rw [List.foldl_cons, List.countP_cons, List.countP_cons]
      omega

variable {limits : Limits} {memory : Variables}

/-- A token that succeeds has found what it needs, and changes the depth as told. -/
theorem step_depth {stack left : Stack} {token : Token}
    (stepped : step limits memory stack token = .ok left) :
    needed token ≤ stack.length ∧ left.length = depthAfter stack.length token := by
  rcases step_cases stepped with ⟨kind, rfl⟩ | ⟨symbol, kind, operates⟩ | ⟨unused, rfl⟩
  · have other := Category.isOperator_eq_false kind
    rw [needed_of_not_isOperator other, depthAfter_operand kind]
    exact ⟨Nat.zero_le _, rfl⟩
  · rw [needed_operator kind, depthAfter_operator kind]
    cases operates with
    | alone sign resolved applied => simp [sign]
    | both rightResolved leftResolved applied =>
        simp only [List.length_cons]
        split <;> omega
  · have other : token.category.isOperator = false := by
      simp only [Token.remains, Bool.or_eq_false_iff] at unused
      exact unused.2
    rw [needed_of_not_isOperator other, depthAfter_unused unused]
    exact ⟨Nat.zero_le _, rfl⟩

theorem run_depth {stack left : Stack} {tokens : List Token}
    (ran : run limits memory stack tokens = .ok left) :
    Supplied stack.length tokens ∧ left.length = tokens.foldl depthAfter stack.length := by
  induction tokens generalizing stack with
  | nil =>
      cases ran
      exact ⟨trivial, rfl⟩
  | cons token rest ih =>
      rw [run_cons, bind_eq_ok_iff] at ran
      obtain ⟨middle, stepped, later⟩ := ran
      obtain ⟨found, deep⟩ := step_depth stepped
      obtain ⟨supplied, ends⟩ := ih later
      rw [deep] at supplied ends
      exact ⟨⟨found, supplied⟩, ends⟩

def Resolves (memory : Variables) (operand : Operand) : Prop :=
  ∃ value, operand.resolve memory = .ok value

variable (limits)

theorem apply_total {symbol : Operator} (undivided : symbol ≠ .divide) (unraised : symbol ≠ .power)
    (left right : Int) : ∃ value, symbol.apply limits left right = .ok value := by
  cases symbol with
  | add => exact ⟨_, rfl⟩
  | subtract => exact ⟨_, rfl⟩
  | multiply => exact ⟨_, rfl⟩
  | divide => exact absurd rfl undivided
  | power => exact absurd rfl unraised

section Total

variable {token : Token} (undivided : token.category ≠ .operator .divide)
  (unraised : token.category ≠ .operator .power)

include undivided unraised

/-- Where operands and arithmetic cannot fail, a token succeeds exactly if it finds what it
needs. -/
theorem step_total {stack : Stack} (resolves : ∀ operand ∈ stack, Resolves memory operand) :
    (needed token ≤ stack.length ∧ ∃ left, step limits memory stack token = .ok left) ∨
      (¬ needed token ≤ stack.length ∧
        step limits memory stack token = .error (.invalidExpression .missingOperand)) := by
  cases other : token.category.isOperator with
  | false =>
      refine .inl ⟨by rw [needed_of_not_isOperator other]; exact Nat.zero_le _, ?_⟩
      cases kind : token.category with
      | operator symbol => simp [kind, Category.isOperator] at other
      | _ => exact ⟨_, by simp only [step, kind]; rfl⟩
  | true =>
      obtain ⟨symbol, kind⟩ := (Category.isOperator_eq_true_iff _).mp other
      have total : ∀ left right, ∃ value, symbol.apply limits left right = .ok value :=
        apply_total limits (fun same => undivided (by rw [kind, same]))
          fun same => unraised (by rw [kind, same])
      have stepped : step limits memory stack token = operate limits memory symbol stack := by
        simp only [step, kind]
      rw [needed_operator kind, stepped]
      cases stack with
      | nil =>
          refine .inr ⟨by split <;> simp, rfl⟩
      | cons second rest =>
          rw [List.forall_mem_cons] at resolves
          obtain ⟨⟨right, rightResolved⟩, others⟩ := resolves
          cases rest with
          | nil =>
              cases sign : symbol.isSign with
              | true =>
                  obtain ⟨value, applied⟩ := total 0 right
                  exact .inl ⟨by simp, _,
                    (operate_eq_ok_iff symbol _ _).mpr (.alone sign rightResolved applied)⟩
              | false =>
                  refine .inr ⟨by simp, ?_⟩
                  simp [operate, pop, popLeft, sign, rightResolved]
          | cons first below =>
              rw [List.forall_mem_cons] at others
              obtain ⟨left, leftResolved⟩ := others.1
              obtain ⟨value, applied⟩ := total left right
              refine .inl ⟨by split <;> simp, _, (operate_eq_ok_iff symbol _ _).mpr
                (.both rightResolved leftResolved applied)⟩

end Total

theorem run_total {tokens : List Token}
    (operands : ∀ token ∈ tokens, token.category.isOperand = true →
      Resolves memory (.written token.text))
    (operators : ∀ token ∈ tokens,
      token.category ≠ .operator .divide ∧ token.category ≠ .operator .power)
    {stack : Stack} (resolves : ∀ operand ∈ stack, Resolves memory operand) :
    (Supplied stack.length tokens ∧ ∃ left, run limits memory stack tokens = .ok left ∧
        ∀ operand ∈ left, Resolves memory operand) ∨
      (¬ Supplied stack.length tokens ∧
        run limits memory stack tokens = .error (.invalidExpression .missingOperand)) := by
  induction tokens generalizing stack with
  | nil => exact .inl ⟨trivial, stack, rfl, resolves⟩
  | cons token rest ih =>
      rw [List.forall_mem_cons] at operands operators
      obtain ⟨undivided, unraised⟩ := operators.1
      rw [run_cons]
      rcases step_total limits undivided unraised resolves with
        ⟨found, middle, stepped⟩ | ⟨short, refused⟩
      · have computed : ∀ value, Resolves memory (.computed value) := fun value => ⟨value, rfl⟩
        have kept := step_forall computed operands.1 resolves stepped
        rw [stepped, ok_bind, Supplied, ← (step_depth stepped).2, and_iff_right found]
        exact ih operands.2 operators.2 kept
      · rw [refused, error_bind]
        exact .inr ⟨fun supplied => short supplied.1, rfl⟩

theorem evaluate_total {tokens : List Token}
    (operands : ∀ token ∈ tokens, token.category.isOperand = true →
      Resolves memory (.written token.text))
    (operators : ∀ token ∈ tokens,
      token.category ≠ .operator .divide ∧ token.category ≠ .operator .power) :
    (Supplied 0 tokens ∧ ∃ value, evaluate limits memory tokens = .ok value) ∨
      (¬ Supplied 0 tokens ∧
        evaluate limits memory tokens = .error (.invalidExpression .missingOperand)) := by
  have empty : ∀ operand ∈ ([] : Stack), Resolves memory operand := nofun
  rcases run_total limits operands operators empty with
    ⟨supplied, left, ran, resolves⟩ | ⟨short, refused⟩
  · refine .inl ⟨supplied, ?_⟩
    rw [evaluate, ran, ok_bind]
    cases left with
    | nil => exact ⟨none, rfl⟩
    | cons operand below =>
        obtain ⟨value, resolved⟩ := resolves operand (by simp)
        exact ⟨some value, by rw [result, resolved]; rfl⟩
  · exact .inr ⟨short, by rw [evaluate, refused, error_bind]⟩

/-- Evaluation of a row, told from the depth of the stack. It comes to nothing exactly if the row
has neither operands nor operators, and to a value only if each operator finds as many operands as
it needs. If all operands have values, and there are neither quotients nor powers, that is all it
takes: the row comes to a value exactly if there is anything in it and each operator finds what it
needs, and it is refused as an invalid expression exactly if one does not. -/
theorem evaluate_depth (limits : Limits) (memory : Variables) (tokens : List Token) :
    (evaluate limits memory tokens = .ok none ↔ ∀ token ∈ tokens, token.remains = false) ∧
      (∀ value, evaluate limits memory tokens = .ok (some value) → Supplied 0 tokens) ∧
      ((∀ token ∈ tokens, token.category.isOperand = true →
          ∃ value, (Operand.written token.text).resolve memory = .ok value) →
        (∀ token ∈ tokens,
          token.category ≠ .operator .divide ∧ token.category ≠ .operator .power) →
        ((∃ value, evaluate limits memory tokens = .ok (some value)) ↔
            (∃ token ∈ tokens, token.remains = true) ∧ Supplied 0 tokens) ∧
          ((∃ flaw, evaluate limits memory tokens = .error (.invalidExpression flaw)) ↔
            ¬ Supplied 0 tokens)) := by
  have idle := evaluate_eq_none_iff limits memory tokens
  refine ⟨idle, ?_, ?_⟩
  · intro value done
    obtain ⟨left, ran, -⟩ := (bind_eq_ok_iff _).mp done
    exact (run_depth ran).1
  · intro operands operators
    have used : (∃ token ∈ tokens, token.remains = true) ↔
        ¬ evaluate limits memory tokens = .ok none := by
      rw [idle]
      simp only [Classical.not_forall, Bool.not_eq_false, exists_prop]
    rw [used]
    rcases evaluate_total limits operands operators with
      ⟨supplied, value, evaluated⟩ | ⟨short, refused⟩
    · cases value with
      | none => simp [evaluated, supplied]
      | some value => simp [evaluated, supplied]
    · simp [refused, short]

/-- A sign can do with the product before it, and a product cannot do with the difference. -/
theorem evaluate_depth_sign :
    let a : Token := ⟨['a'], .name⟩
    let two : Token := ⟨['2'], .numeral⟩
    let times : Token := ⟨['*'], .operator .multiply⟩
    let minus : Token := ⟨['-'], .operator .subtract⟩
    let memory : Variables := ⟨[(['a'], 3)]⟩
    Supplied 0 [a, two, times, minus] ∧ ¬ Supplied 0 [a, two, minus, times] ∧
      (∃ value, evaluate {} memory [a, two, times, minus] = .ok (some value)) ∧
      ∃ flaw, evaluate {} memory [a, two, minus, times] = .error (.invalidExpression flaw) := by
  intro a two times minus memory
  have enough : Supplied 0 [a, two, times, minus] := by decide
  have short : ¬ Supplied 0 [a, two, minus, times] := by decide
  have resolves : ∀ token ∈ [a, two, times, minus], token.category.isOperand = true →
      ∃ value, (Operand.written token.text).resolve memory = .ok value := by
    intro token member operand
    simp only [List.mem_cons, List.not_mem_nil, or_false] at member
    rcases member with rfl | rfl | rfl | rfl
    · exact ⟨3, rfl⟩
    · exact ⟨2, rfl⟩
    · cases operand
    · cases operand
  have swapped : [a, two, minus, times].Perm [a, two, times, minus] := by decide
  have first := (evaluate_depth {} memory [a, two, times, minus]).2.2 resolves (by decide)
  have second := (evaluate_depth {} memory [a, two, minus, times]).2.2
    (fun token member => resolves token (swapped.mem_iff.mp member)) (by decide)
  exact ⟨enough, short, first.1.mpr ⟨⟨a, by simp, rfl⟩, enough⟩, second.2.mpr short⟩

end Evaluation

end Reckoner
