import Reckoner.Proofs.Operand
import Reckoner.Proofs.Token.Division
import Reckoner.Proofs.Token.Grouping
import Reckoner.Calculator

set_option autoImplicit false

/-!
Operands of an expression. Each is a numeral or a name of the text, without a sign, and an operand
of either kind is looked up in one way only.
-/
namespace Reckoner

namespace Token.Regular

variable {token : Token}

theorem digits (regular : token.Regular) (kind : token.category = .numeral) :
    token.text ≠ [] ∧ ∀ c ∈ token.text, Text.digit c = true := by
  obtain ⟨text, category⟩ := token
  subst kind
  exact regular

theorem letters (regular : token.Regular) (kind : token.category = .name) :
    token.text ≠ [] ∧ ∀ c ∈ token.text, Text.letter c = true := by
  obtain ⟨text, category⟩ := token
  subst kind
  exact regular

theorem isLiteral (regular : token.Regular) (kind : token.category = .numeral) :
    isLiteral token.text = true := by
  obtain ⟨nonempty, digits⟩ := regular.digits kind
  exact (isLiteral_eq_true_iff token.text).mpr ⟨[], token.text, .inl rfl, nonempty, digits, rfl⟩

theorem isName (regular : token.Regular) (kind : token.category = .name) :
    isName token.text = true := by
  obtain ⟨nonempty, letters⟩ := regular.letters kind
  exact (isName_eq_true_iff token.text).mpr ⟨[], token.text, .inl rfl, nonempty, letters, rfl⟩

theorem resolve_numeral (regular : token.Regular) (kind : token.category = .numeral)
    (memory : Variables) :
    (Operand.written token.text).resolve memory = .ok (Decimal.value token.text) := by
  rw [Operand.resolve_literal memory (regular.isLiteral kind)]
  have digits := (regular.digits kind).2
  exact congrArg Except.ok (literalValue_append [] token.text (.inl rfl) digits)

theorem resolve_name_eq_ok_iff (regular : token.Regular) (kind : token.category = .name)
    (memory : Variables) (value : Int) :
    (Operand.written token.text).resolve memory = .ok value ↔
      memory.get? token.text = some value := by
  cases found : memory.get? token.text with
  | none => simp [Operand.resolve_unset (regular.isName kind) found]
  | some present => simp [Operand.resolve_name (regular.isName kind) found]

end Token.Regular

/-- The expression has the name as a token. -/
def Text.Names (text name : Text) : Prop :=
  ∃ row, Token.scan text = .ok row ∧ ⟨name, .name⟩ ∈ row

/-- The tokens that are evaluated are the operands and operators of the text, whose parentheses
are nested. -/
theorem Calculator.postOrder_eq_ok {text : Text} {sent : List Token}
    (ordered : postOrder text = .ok sent) :
    ∃ row, Token.scan text = .ok row ∧ Token.Settled row text.essence ∧
      Nested Token.opens Token.closes row ∧ sent.Perm (row.filter Token.remains) := by
  obtain ⟨row, scanned, ordered⟩ := (bind_eq_ok_iff _).mp ordered
  obtain ⟨nested, kept⟩ := PostOrder.nested_of_ofTokens ordered
  exact ⟨row, scanned, Token.settled_of_scan scanned, nested, kept⟩

end Reckoner
