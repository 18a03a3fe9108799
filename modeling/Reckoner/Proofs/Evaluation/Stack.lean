import Reckoner.Evaluation
import Reckoner.Proofs.Outcome
import Reckoner.Proofs.Token.Grouping

set_option autoImplicit false

/-!
The stack of operands. What one token does to it, said once for all tokens, and what holds of
every operand on it because it holds of computed values and of the operands of the row.
-/
namespace Reckoner.Evaluation

/-- An operator turns the first stack into the second: it takes a right and a left operand, or as
a sign the only operand that there is, and leaves the value. -/
inductive Operates (limits : Limits) (memory : Variables) (symbol : Operator) :
    Stack → Stack → Prop where
  | alone {operand : Operand} {right value : Int} (sign : symbol.isSign = true)
      (resolved : operand.resolve memory = .ok right)
      (applied : symbol.apply limits 0 right = .ok value) :
      Operates limits memory symbol [operand] [.computed value]
  | both {second first : Operand} {below : Stack} {left right value : Int}
      (rightResolved : second.resolve memory = .ok right)
      (leftResolved : first.resolve memory = .ok left)
      (applied : symbol.apply limits left right = .ok value) :
      Operates limits memory symbol (second :: first :: below) (.computed value :: below)

variable {limits : Limits} {memory : Variables}

theorem operate_eq_ok_iff (symbol : Operator) (stack left : Stack) :
    operate limits memory symbol stack = .ok left ↔ Operates limits memory symbol stack left := by
  constructor
  · intro done
    simp only [operate, bind_eq_ok_iff, pure_eq_ok, Except.ok.injEq] at done
    obtain ⟨right, popped, below, taken, value, applied, rfl⟩ := done
    cases stack with
    | nil => cases popped
    | cons second rest =>
        simp only [pop, bind_eq_ok_iff, pure_eq_ok, Except.ok.injEq] at popped
        obtain ⟨y, rightResolved, rfl⟩ := popped
        cases rest with
        | nil =>
            cases sign : symbol.isSign with
            | true =>
                simp only [popLeft, sign, ↓reduceIte, popOrZero, Except.ok.injEq] at taken
                subst taken
                exact .alone sign rightResolved applied
            | false => simp [popLeft, sign, pop] at taken
        | cons first rest =>
            simp only [popLeft, popOrZero, pop, ite_self, bind_eq_ok_iff, pure_eq_ok,
              Except.ok.injEq] at taken
            obtain ⟨x, leftResolved, rfl⟩ := taken
            exact .both rightResolved leftResolved applied
  · intro operates
    cases operates with
    | alone sign resolved applied =>
        simp only [operate, pop, popLeft, popOrZero, resolved, sign, applied, ↓reduceIte, ok_bind,
          pure_eq_ok]
    | both rightResolved leftResolved applied =>
        simp only [operate, pop, popLeft, popOrZero, rightResolved, leftResolved, applied, ok_bind,
          pure_eq_ok, ite_self]

/-- What one token can do: an operand goes on the stack as it is written, an operator takes its
operands from there, and any other token does nothing. -/
theorem step_cases {stack left : Stack} {token : Token}
    (stepped : step limits memory stack token = .ok left) :
    (token.category.isOperand = true ∧ left = .written token.text :: stack) ∨
      (∃ symbol, token.category = .operator symbol ∧
        Operates limits memory symbol stack left) ∨
      (token.remains = false ∧ left = stack) := by
  cases kind : token.category with
  | operator symbol =>
      simp only [step, kind] at stepped
      exact .inr (.inl ⟨symbol, rfl, (operate_eq_ok_iff symbol stack left).mp stepped⟩)
  | numeral =>
      simp only [step, kind, Except.ok.injEq] at stepped
      exact .inl ⟨rfl, stepped.symm⟩
  | name =>
      simp only [step, kind, Except.ok.injEq] at stepped
      exact .inl ⟨rfl, stepped.symm⟩
  | noise =>
      simp only [step, kind, Except.ok.injEq] at stepped
      exact .inr (.inr ⟨by rw [Token.remains, kind]; rfl, stepped.symm⟩)
  | opening =>
      simp only [step, kind, Except.ok.injEq] at stepped
      exact .inr (.inr ⟨by rw [Token.remains, kind]; rfl, stepped.symm⟩)
  | closing =>
      simp only [step, kind, Except.ok.injEq] at stepped
      exact .inr (.inr ⟨by rw [Token.remains, kind]; rfl, stepped.symm⟩)

theorem run_cons (limits : Limits) (memory : Variables) (stack : Stack) (token : Token)
    (rest : List Token) : run limits memory stack (token :: rest) =
      (do run limits memory (← step limits memory stack token) rest) :=
  List.foldlM_cons

theorem run_append (limits : Limits) (memory : Variables) (stack : Stack)
    (front back : List Token) : run limits memory stack (front ++ back) =
      (do run limits memory (← run limits memory stack front) back) :=
  List.foldlM_append

theorem run_singleton (limits : Limits) (memory : Variables) (stack : Stack) (token : Token) :
    run limits memory stack [token] = step limits memory stack token := by
  simp only [run, List.foldlM_cons, List.foldlM_nil, bind_pure]

theorem step_length_le {stack left : Stack} {token : Token}
    (stepped : step limits memory stack token = .ok left) : left.length ≤ stack.length + 1 := by
  rcases step_cases stepped with ⟨-, rfl⟩ | ⟨symbol, -, operates⟩ | ⟨-, rfl⟩
  · exact Nat.le_refl _
  · cases operates with
    | alone sign resolved applied => exact Nat.le_add_left 1 _
    | both rightResolved leftResolved applied =>
        simp only [List.length_cons]
        omega
  · exact Nat.le_succ _

theorem run_length_le {stack left : Stack} {tokens : List Token}
    (ran : run limits memory stack tokens = .ok left) :
    left.length ≤ stack.length + tokens.length := by
  induction tokens generalizing stack with
  | nil =>
      cases ran
      exact Nat.le_refl _
  | cons token rest ih =>
      rw [run_cons, bind_eq_ok_iff] at ran
      obtain ⟨middle, stepped, later⟩ := ran
      have first := step_length_le stepped
      have others := ih later
      rw [List.length_cons]
      omega

section Invariant

variable {Holds : Operand → Prop} (computed : ∀ value, Holds (.computed value))

include computed

theorem step_forall {stack left : Stack} {token : Token}
    (written : token.category.isOperand = true → Holds (.written token.text))
    (holds : ∀ operand ∈ stack, Holds operand)
    (stepped : step limits memory stack token = .ok left) : ∀ operand ∈ left, Holds operand := by
  rcases step_cases stepped with ⟨kind, rfl⟩ | ⟨symbol, -, operates⟩ | ⟨-, rfl⟩
  · exact List.forall_mem_cons.mpr ⟨written kind, holds⟩
  · cases operates with
    | alone sign resolved applied => exact List.forall_mem_singleton.mpr (computed _)
    | both rightResolved leftResolved applied =>
        refine List.forall_mem_cons.mpr ⟨computed _, ?_⟩
        exact fun operand member => holds operand (by simp [member])
  · exact holds

theorem run_forall {tokens : List Token}
    (written : ∀ token ∈ tokens, token.category.isOperand = true → Holds (.written token.text))
    {stack left : Stack} (holds : ∀ operand ∈ stack, Holds operand)
    (ran : run limits memory stack tokens = .ok left) : ∀ operand ∈ left, Holds operand := by
  induction tokens generalizing stack with
  | nil =>
      cases ran
      exact holds
  | cons token rest ih =>
      rw [List.forall_mem_cons] at written
      rw [run_cons, bind_eq_ok_iff] at ran
      obtain ⟨middle, stepped, later⟩ := ran
      exact ih written.2 (step_forall computed written.1 holds stepped) later

end Invariant

end Reckoner.Evaluation
