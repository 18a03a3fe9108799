import Reckoner.Proofs.Expression.Tree
import Reckoner.Proofs.Token.Lexing

set_option autoImplicit false

/-!
Expressions as they are written: with their parentheses, and with each operator in the text that
it has on the line. Reading the tokens of a form back from its text gives these tokens again.
-/
namespace Reckoner

def Token.zero : Token := ⟨['0'], .numeral⟩

inductive Form where
  | numeral (digits : Text)
  | name (letters : Text)
  | group (inner : Form)
  | signed (sign : Operator) (run : Text) (right : Form)
  | binary (left : Form) (symbol : Operator) (run : Text) (right : Form)
  deriving Repr, DecidableEq

namespace Form

def tokens : Form → List Token
  | .numeral digits => [⟨digits, .numeral⟩]
  | .name letters => [⟨letters, .name⟩]
  | .group inner => ⟨['('], .opening⟩ :: (inner.tokens ++ [⟨[')'], .closing⟩])
  | .signed sign run right => ⟨run, .operator sign⟩ :: right.tokens
  | .binary left symbol run right => left.tokens ++ ⟨run, .operator symbol⟩ :: right.tokens

/-- The tokens of a form with each operator behind its operands, and without parentheses. -/
def postOrder : Form → List Token
  | .numeral digits => [⟨digits, .numeral⟩]
  | .name letters => [⟨letters, .name⟩]
  | .group inner => inner.postOrder
  | .signed sign run right => right.postOrder ++ [⟨run, .operator sign⟩]
  | .binary left symbol run right =>
      left.postOrder ++ right.postOrder ++ [⟨run, .operator symbol⟩]

/-- The expression that a form is meant to be. -/
def tree : Form → Tree
  | .numeral digits => .operand digits
  | .name letters => .operand letters
  | .group inner => inner.tree
  | .signed sign _ right => .unary sign right.tree
  | .binary left symbol _ right => .binary symbol left.tree right.tree

/-- The operators outside parentheses bind at least as strong as the level. The left operand of
an operator binds at least as strong as the operator does, its right operand stronger. A sign
without a left operand binds like one that has it. -/
def Binds (level : Int) : Form → Prop
  | .numeral _ => True
  | .name _ => True
  | .group inner => inner.Binds 1
  | .signed sign _ right => sign.isSign = true ∧ level ≤ 1 ∧ right.Binds 2
  | .binary left symbol _ right =>
      level ≤ symbol.precedence ∧ left.Binds symbol.precedence ∧
        right.Binds (symbol.precedence + 1)

def StartsSigned : Form → Prop
  | .signed _ _ _ => True
  | .binary left _ _ _ => left.StartsSigned
  | _ => False

theorem not_startsSigned (form : Form) (level : Int) (binds : form.Binds level)
    (strong : 1 < level) : ¬ form.StartsSigned := by
  induction form generalizing level with
  | numeral digits => exact id
  | name letters => exact id
  | group inner ih => exact id
  | signed sign run right ih =>
      have weak := binds.2.1
      omega
  | binary left symbol run right first second =>
      exact first symbol.precedence binds.2.1 (by have := binds.1; omega)

theorem tokens_ne_nil (form : Form) : form.tokens ≠ [] := by
  cases form <;> simp [tokens]

/-- The first token is an operator exactly if it is a sign without a left operand. -/
theorem head_isOperator_iff (form : Form) (rest : List Token) :
    (∀ token ∈ (form.tokens ++ rest).head?, token.category.isOperator = true) ↔
      form.StartsSigned := by
  induction form generalizing rest with
  | numeral digits => simp [tokens, StartsSigned, Category.isOperator]
  | name letters => simp [tokens, StartsSigned, Category.isOperator]
  | group inner ih => simp [tokens, StartsSigned, Category.isOperator]
  | signed sign run right ih => simp [tokens, StartsSigned, Category.isOperator]
  | binary left symbol run right first second =>
      rw [tokens, List.append_assoc]
      exact first _

theorem head_not_isOperator (form : Form) (level : Int) (binds : form.Binds level)
    (strong : 1 < level) (rest : List Token) :
    ∀ token ∈ (form.tokens ++ rest).head?, token.category.isOperator = false := by
  intro token starts
  rw [← Bool.not_eq_true]
  intro operator
  apply form.not_startsSigned level binds strong
  rw [← form.head_isOperator_iff rest]
  intro other same
  rw [Option.mem_unique same starts]
  exact operator

theorem apart_cons (token : Token) (operand : token.category.isOperand = true) (rest : List Token)
    (apart : rest.IsChain fun token next => token.category.joins next.category = false)
    (follows : ∀ next ∈ rest.head?, next.category.isOperator = true ∨ next.category = .closing) :
    (token :: rest).IsChain fun token next => token.category.joins next.category = false := by
  refine List.isChain_cons.mpr ⟨?_, apart⟩
  intro next starts
  apply Category.joins_of_isOperand operand
  rcases follows next starts with operator | closing
  · obtain ⟨symbol, kind⟩ := (Category.isOperator_eq_true_iff _).mp operator
    rw [kind]
    rfl
  · rw [closing]
    rfl

/-- No token of a form joins the next one, whatever operator or closing parenthesis follows. -/
theorem apart_append (form : Form) (level : Int) (binds : form.Binds level) (rest : List Token)
    (apart : rest.IsChain fun token next => token.category.joins next.category = false)
    (follows : ∀ next ∈ rest.head?, next.category.isOperator = true ∨ next.category = .closing) :
    (form.tokens ++ rest).IsChain
      fun token next => token.category.joins next.category = false := by
  induction form generalizing level rest with
  | numeral digits => exact apart_cons ⟨digits, .numeral⟩ rfl rest apart follows
  | name letters => exact apart_cons ⟨letters, .name⟩ rfl rest apart follows
  | group inner ih =>
      have behind : (⟨[')'], .closing⟩ :: rest : List Token).IsChain
          fun token next => token.category.joins next.category = false :=
        List.isChain_cons.mpr ⟨fun next _ => by simp [Category.joins, Category.isGroup], apart⟩
      have inside := ih 1 binds (⟨[')'], .closing⟩ :: rest) behind (by simp)
      rw [tokens, List.cons_append, List.append_assoc]
      exact List.isChain_cons.mpr
        ⟨fun next _ => by simp [Category.joins, Category.isGroup], inside⟩
  | signed sign run right ih =>
      refine List.isChain_cons.mpr ⟨?_, ih 2 binds.2.2 rest apart follows⟩
      intro next starts
      exact Category.joins_operator sign
        (right.head_not_isOperator 2 binds.2.2 (by decide) rest next starts)
  | binary left symbol run right first second =>
      rw [tokens, List.append_assoc, List.cons_append]
      refine first symbol.precedence binds.2.1 _ ?_ (by simp [Category.isOperator])
      refine List.isChain_cons.mpr ⟨?_, second _ binds.2.2 rest apart follows⟩
      intro next starts
      exact Category.joins_operator symbol
        (right.head_not_isOperator _ binds.2.2 (by have := symbol.precedence_pos; omega) rest next
          starts)

end Form

end Reckoner
