import Reckoner.Proofs.Evaluation.Stack
import Reckoner.Proofs.Expression.Form

set_option autoImplicit false

/-!
What the calculator makes of a form. It finds the left operand of a sign on its stack, wherever
that operand stands on the line, so the expression that it evaluates may differ from the one that
the form is meant to be. The two are the same exactly if no operand stands before a parenthesis
that a sign follows.
-/
namespace Reckoner

/-- Applies an operator to the newest expressions of a stack, or to the only one. -/
def Operator.join (symbol : Operator) : List Tree → List Tree
  | [] => []
  | [right] => [.unary symbol right]
  | right :: left :: below => .binary symbol left right :: below

namespace Form

/-- The stack of expressions after a form is evaluated on top of a given one. -/
def readOnto : Form → List Tree → List Tree
  | .numeral digits, stack => .operand digits :: stack
  | .name letters, stack => .operand letters :: stack
  | .group inner, stack => inner.readOnto stack
  | .signed sign _ right, stack => sign.join (right.readOnto stack)
  | .binary left symbol _ right, stack => symbol.join (right.readOnto (left.readOnto stack))

def reading (form : Form) : Tree := (form.readOnto []).headD form.tree

/-- No sign stands behind an opening parenthesis while an operand waits to the left of it. -/
def Clear (waits : Bool) : Form → Prop
  | .numeral _ => True
  | .name _ => True
  | .group inner => inner.Clear waits
  | .signed _ _ right => waits = false ∧ right.Clear false
  | .binary left _ _ right => left.Clear waits ∧ right.Clear true

/-- Operands that have not been given to an operator stay as they are. -/
theorem readOnto_eq (form : Form) (stack : List Tree) (clear : form.Clear (!stack.isEmpty)) :
    form.readOnto stack = form.tree :: stack := by
  induction form generalizing stack with
  | numeral digits => rfl
  | name letters => rfl
  | group inner ih => exact ih stack clear
  | signed sign run right ih =>
      have vanishes : stack = [] := by simpa using clear.1
      subst vanishes
      rw [readOnto, ih [] clear.2]
      rfl
  | binary left symbol run right first second =>
      rw [readOnto, first stack clear.1, second _ (by simpa using clear.2)]
      rfl

theorem length_join (symbol : Operator) (stack : List Tree) (nonempty : stack ≠ []) :
    symbol.join stack ≠ [] ∧ (symbol.join stack).length = max 1 (stack.length - 1) := by
  match stack, nonempty with
  | [right], _ => simp [Operator.join]
  | right :: left :: below, _ => simp [Operator.join]

theorem length_readOnto (form : Form) (stack : List Tree) :
    form.readOnto stack ≠ [] ∧ (form.readOnto stack).length ≤ stack.length + 1 := by
  induction form generalizing stack with
  | numeral digits => simp [readOnto]
  | name letters => simp [readOnto]
  | group inner ih => exact ih stack
  | signed sign run right ih =>
      obtain ⟨nonempty, bound⟩ := ih stack
      obtain ⟨joined, length⟩ := length_join sign _ nonempty
      exact ⟨joined, by rw [readOnto, length]; omega⟩
  | binary left symbol run right first second =>
      obtain ⟨-, leftBound⟩ := first stack
      obtain ⟨nonempty, bound⟩ := second (left.readOnto stack)
      obtain ⟨joined, length⟩ := length_join symbol _ nonempty
      exact ⟨joined, by rw [readOnto, length]; omega⟩

/-- A whole line is evaluated as one expression, with nothing left over. -/
theorem readOnto_nil (form : Form) : form.readOnto [] = [form.reading] := by
  obtain ⟨nonempty, bound⟩ := form.length_readOnto []
  unfold reading
  match found : form.readOnto [] with
  | [] => exact absurd found nonempty
  | [tree] => rfl
  | first :: second :: rest =>
      rw [found] at bound
      simp at bound

end Form

namespace Tree

/-- Operators with a single operand stand on the left edge only. -/
def Edged : Tree → Prop
  | .operand _ => True
  | .unary _ right => right.Edged
  | .binary _ left right => left.Edged ∧ right.Plain

theorem Plain.edged {tree : Tree} (plain : tree.Plain) : tree.Edged := by
  induction tree with
  | operand text => trivial
  | unary symbol right ih => exact False.elim plain
  | binary symbol left right first second => exact ⟨first plain.1, plain.2⟩

/-- A stack of expressions in which only the oldest may have operators with a single operand. -/
def Grounded : List Tree → Prop
  | [] => True
  | [oldest] => oldest.Edged
  | newest :: below => newest.Plain ∧ Grounded below

theorem grounded_cons {newest : Tree} {below : List Tree} (plain : newest.Plain)
    (grounded : Grounded below) : Grounded (newest :: below) := by
  cases below with
  | nil => exact plain.edged
  | cons next rest => exact ⟨plain, grounded⟩

theorem grounded_join (symbol : Operator) (stack : List Tree) (grounded : Grounded stack) :
    Grounded (symbol.join stack) := by
  match stack, grounded with
  | [], _ => trivial
  | [right], grounded => exact grounded
  | [right, left], grounded => exact ⟨grounded.2, grounded.1⟩
  | right :: left :: next :: rest, grounded =>
      exact ⟨⟨grounded.2.1, grounded.1⟩, grounded.2.2⟩

end Tree

namespace Form

theorem grounded_readOnto (form : Form) (stack : List Tree) (grounded : Tree.Grounded stack) :
    Tree.Grounded (form.readOnto stack) := by
  induction form generalizing stack with
  | numeral digits => exact Tree.grounded_cons trivial grounded
  | name letters => exact Tree.grounded_cons trivial grounded
  | group inner ih => exact ih stack grounded
  | signed sign run right ih => exact Tree.grounded_join sign _ (ih stack grounded)
  | binary left symbol run right first second =>
      exact Tree.grounded_join symbol _ (second _ (first stack grounded))

theorem plain_tree_iff (form : Form) : form.tree.Plain ↔ form.Clear true := by
  induction form with
  | numeral digits => exact Iff.rfl
  | name letters => exact Iff.rfl
  | group inner ih => exact ih
  | signed sign run right ih => simp [tree, Tree.Plain, Clear]
  | binary left symbol run right first second => exact and_congr first second

theorem edged_tree_iff (form : Form) : form.tree.Edged ↔ form.Clear false := by
  induction form with
  | numeral digits => exact Iff.rfl
  | name letters => exact Iff.rfl
  | group inner ih => exact ih
  | signed sign run right ih => simpa [tree, Tree.Edged, Clear] using ih
  | binary left symbol run right first second => exact and_congr first right.plain_tree_iff

/-- A form is evaluated as the expression that it is meant to be exactly if no sign stands behind
an opening parenthesis while an operand waits. -/
theorem reading_eq_tree_iff (form : Form) : form.reading = form.tree ↔ form.Clear false := by
  constructor
  · intro same
    have grounded := form.grounded_readOnto [] trivial
    rw [readOnto_nil, same] at grounded
    exact form.edged_tree_iff.mp grounded
  · intro clear
    have whole := form.readOnto_eq [] clear
    rw [readOnto_nil] at whole
    simpa using whole

end Form

namespace Evaluation

variable (limits : Limits) (memory : Variables)

/-- What the calculator has on its stack for a stack of expressions. The oldest is computed
first. -/
def computeAll : List Tree → Except Fault Stack
  | [] => .ok []
  | newest :: below => do
      let rest ← computeAll below
      return (← newest.compute limits memory) :: rest

/-- An operator takes from the stack what it takes from the stack of expressions. -/
theorem operate_computeAll (symbol : Operator) (stack : List Tree) (nonempty : stack ≠ []) :
    (do operate limits memory symbol (← computeAll limits memory stack)) =
      computeAll limits memory (symbol.join stack) := by
  match stack, nonempty with
  | [right], _ =>
      simp only [computeAll, Operator.join, Tree.compute, operate, pop, popLeft, popOrZero,
        bind_assoc, ok_bind, pure_eq_ok]
      cases sign : symbol.isSign with
      | true => simp only [↓reduceIte, ok_bind, bind_assoc]
      | false => simp only [Bool.false_eq_true, ↓reduceIte, error_bind]
  | right :: left :: below, _ =>
      simp only [computeAll, Operator.join, Tree.compute, operate, pop, popLeft, popOrZero,
        bind_assoc, ok_bind, pure_eq_ok, ite_self]

/-- Evaluating a form in post-order computes the stack of expressions that it is read onto. -/
theorem run_postOrder (form : Form) (stack : List Tree) :
    (do run limits memory (← computeAll limits memory stack) form.postOrder) =
      computeAll limits memory (form.readOnto stack) := by
  -- Any stack, since the right operand of an operator is read on top of the left one.
  induction form generalizing stack with
  | numeral digits => exact bind_congr fun rest => run_singleton ..
  | name letters => exact bind_congr fun rest => run_singleton ..
  | group inner ih => exact ih stack
  | signed sign text right ih =>
      have nonempty := (right.length_readOnto stack).1
      simp only [Form.postOrder, run_append, ← bind_assoc, ih, run_singleton, step]
      exact operate_computeAll limits memory sign _ nonempty
  | binary left symbol text right first second =>
      have nonempty := (right.length_readOnto (left.readOnto stack)).1
      simp only [Form.postOrder, run_append, ← bind_assoc, first, second, run_singleton, step]
      exact operate_computeAll limits memory symbol _ nonempty

theorem evaluate_postOrder (form : Form) :
    evaluate limits memory form.postOrder =
      (do return some (← form.reading.outcome limits memory)) := by
  have ran := run_postOrder limits memory form []
  simp only [computeAll, ok_bind, form.readOnto_nil, pure_eq_ok] at ran
  simp only [evaluate, ran, bind_assoc, ok_bind, result, Tree.outcome]

end Evaluation

end Reckoner
