import Reckoner.Proofs.Expression.Form
import Reckoner.Proofs.PostOrder.Tree

set_option autoImplicit false

/-!
Post-order of forms. A form is one way to write a tree of tokens, so that its tokens are put into
the post-order of that tree.
-/
namespace Reckoner

namespace Form

/-- The tree of the tokens of a form. Parentheses leave no trace in it. -/
def tokenTree : Form → TokenTree
  | .numeral digits => .operand ⟨digits, .numeral⟩
  | .name letters => .operand ⟨letters, .name⟩
  | .group inner => inner.tokenTree
  | .signed sign run right => .signed ⟨run, .operator sign⟩ right.tokenTree
  | .binary left symbol run right =>
      .binary left.tokenTree ⟨run, .operator symbol⟩ right.tokenTree

theorem postOrder_tokenTree (form : Form) : form.tokenTree.postOrder = form.postOrder := by
  induction form with
  | numeral digits => rfl
  | name letters => rfl
  | group inner ih => exact ih
  | signed sign run right ih => rw [tokenTree, TokenTree.postOrder, ih, postOrder]
  | binary left symbol run right first second =>
      rw [tokenTree, TokenTree.postOrder, first, second, postOrder]

theorem written_tokens (form : Form) (level : Int) (binds : form.Binds level) :
    form.tokenTree.Written level form.tokens := by
  induction form generalizing level with
  | numeral digits => exact .operand rfl
  | name letters => exact .operand rfl
  | group inner ih => exact .group rfl rfl (ih 1 binds)
  | signed sign run right ih =>
      obtain ⟨isSign, low, strong⟩ := binds
      have one := Operator.precedence_of_isSign isSign
      refine .signed isSign ?_ ?_
      · rw [Category.precedence_operator, one]
        exact low
      · rw [Category.precedence_operator, one]
        exact ih 2 strong
  | binary left symbol run right first second =>
      obtain ⟨low, leftBinds, rightBinds⟩ := binds
      exact .binary rfl low (first _ leftBinds) (second _ rightBinds)

end Form

/-- The post-order of a form's tokens is the form in post-order. -/
theorem PostOrder.ofTokens_form (form : Form) (binds : form.Binds 1) :
    ofTokens form.tokens = .ok form.postOrder := by
  obtain ⟨sent, held, ran, leaves⟩ :=
    run_written (form.written_tokens 1 binds) (by decide) [] (by simp)
  rw [List.append_nil] at ran
  rw [ofTokens_of_run ran leaves.operators, leaves.whole, form.postOrder_tokenTree]

end Reckoner
