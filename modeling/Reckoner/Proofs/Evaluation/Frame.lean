import Reckoner.Proofs.Evaluation.Stack
import Reckoner.Proofs.Expression.Form

set_option autoImplicit false

/-!
Expressions on top of a stack. An expression whose operators all have two operands takes none that
waited before it: what lies below stays as it is and is never looked up, and the one operand that
the expression leaves on top comes to what the expression comes to on its own.
-/
namespace Reckoner.Evaluation

variable (limits : Limits) (memory : Variables)

theorem operate_pair (symbol : Operator) (right left : Operand) (below : Stack) :
    operate limits memory symbol (right :: left :: below) = (do
      let y ← right.resolve memory
      let x ← left.resolve memory
      return .computed (← symbol.apply limits x y) :: below) := by
  simp only [operate, pop, popLeft, popOrZero, ite_self, bind_assoc, ok_bind, pure_eq_ok]

/-- An expression in post-order puts what it is computed to on top of any stack. -/
theorem run_plain (form : Form) (plain : form.tree.Plain) (stack : Stack) :
    run limits memory stack form.postOrder =
      (do return (← form.tree.compute limits memory) :: stack) := by
  -- Any stack, since the right operand of an operator is run on top of the left one.
  induction form generalizing stack with
  | numeral digits => exact run_singleton ..
  | name letters => exact run_singleton ..
  | group inner ih => exact ih plain stack
  | signed sign text right ih => exact False.elim plain
  | binary left symbol text right first second =>
      simp only [Form.postOrder, Form.tree, Tree.compute, run_append, first plain.1,
        second plain.2, run_singleton, step, operate_pair, bind_assoc, ok_bind, pure_eq_ok]

theorem evaluate_plain (form : Form) (plain : form.tree.Plain) :
    evaluate limits memory form.postOrder =
      (do return some (← form.tree.outcome limits memory)) := by
  simp only [evaluate, run_plain limits memory form plain, result, Tree.outcome, bind_assoc,
    ok_bind, pure_eq_ok]

/-- An expression without single operands is refused on every stack as on the empty one, or it
leaves one operand more, which comes to what the expression comes to. So the value of a row that
ends with it is that of the expression, whatever operands the tokens before it leave over. -/
theorem run_framed (form : Form) (plain : form.tree.Plain) :
    (evaluate limits memory form.postOrder =
      (do return some (← form.tree.outcome limits memory))) ∧
    (∀ stack,
      (∃ fault, run limits memory [] form.postOrder = .error fault ∧
        run limits memory stack form.postOrder = .error fault) ∨
      ∃ entry, run limits memory [] form.postOrder = .ok [entry] ∧
        run limits memory stack form.postOrder = .ok (entry :: stack) ∧
        entry.resolve memory = form.tree.outcome limits memory) ∧
    ∀ front left, run limits memory [] front = .ok left →
      evaluate limits memory (front ++ form.postOrder) =
        evaluate limits memory form.postOrder := by
  have ran := run_plain limits memory form plain
  refine ⟨evaluate_plain limits memory form plain, fun stack => ?_, fun front left before => ?_⟩
  · cases computed : form.tree.compute limits memory with
    | error fault =>
        simp only [computed, error_bind] at ran
        exact .inl ⟨fault, ran [], ran stack⟩
    | ok entry =>
        simp only [computed, ok_bind, pure_eq_ok] at ran
        refine .inr ⟨entry, ran [], ran stack, ?_⟩
        simp only [Tree.outcome, computed, ok_bind]
  · simp only [evaluate, run_append, before, ran, result, bind_assoc, ok_bind, pure_eq_ok]

/-- A name without a value, a text that is no operand and a product that nothing takes are left over
below a difference, though a minus may do without a left operand. -/
theorem run_framed_leftover :
    let memory : Variables := ⟨[(['a'], 7)]⟩
    let form : Form := .binary (.name ['a']) .subtract ['-'] (.numeral ['2'])
    let front : List Token := [⟨['b'], .name⟩, ⟨['1', 'x'], .numeral⟩, ⟨['3'], .numeral⟩,
      ⟨['4'], .numeral⟩, ⟨['*'], .operator .multiply⟩]
    let left : Stack := [.computed 12, .written ['1', 'x'], .written ['b']]
    form.tree.Plain ∧ run {} memory [] front = .ok left ∧
      (Operand.written ['b']).resolve memory = .error (.unknownVariable ['b']) ∧
      (Operand.written ['1', 'x']).resolve memory =
        .error (.invalidExpression (.notAnOperand ['1', 'x'])) ∧
      evaluate {} memory (front ++ form.postOrder) = .ok (some 5) := by
  intro memory form front left
  have plain : form.tree.Plain := ⟨trivial, trivial⟩
  have before : run {} memory [] front = .ok left := rfl
  obtain ⟨-, -, ignored⟩ := run_framed {} memory form plain
  exact ⟨plain, before, rfl, rfl, ignored front left before⟩

end Reckoner.Evaluation
