import Reckoner.Proofs.Calculator.Operands
import Reckoner.Proofs.Evaluation.Refusal
import Reckoner.Proofs.Number.Numeral

set_option autoImplicit false

/-!
Resolution of the operands of an expression. What an expression asks for is a name or a numeral, so
that a name which is not set is the only operand without a value, and an expression is an invalid
one for its operators only.
-/
namespace Reckoner

theorem Category.not_admits_both {word : Text} (name : Category.name.Admits word) :
    ¬ Category.numeral.Admits word := by
  intro numeral
  have letters : Token.Regular ⟨word, .name⟩ := name
  have digits : Token.Regular ⟨word, .numeral⟩ := numeral
  have named : Reckoner.isName word = true := letters.isName rfl
  rw [isName_eq_false_of_isLiteral (digits.isLiteral rfl)] at named
  cases named

namespace Operand

variable {word : Text} (memory : Variables)

/-- The operand is a name or a numeral without a sign, or else a value that was computed. -/
def Grammatical : Operand → Prop
  | .written word => Category.name.Admits word ∨ Category.numeral.Admits word
  | .computed _ => True

theorem resolve_of_name (name : Category.name.Admits word) :
    (∃ value, memory.get? word = some value ∧ (written word).resolve memory = .ok value) ∨
      (memory.get? word = none ∧
        (written word).resolve memory = .error (.unknownVariable word)) := by
  have letters : Token.Regular ⟨word, .name⟩ := name
  have named : isName word = true := letters.isName rfl
  cases found : memory.get? word with
  | some value => exact .inl ⟨value, rfl, resolve_name named found⟩
  | none => exact .inr ⟨rfl, resolve_unset named found⟩

theorem resolve_of_numeral (numeral : Category.numeral.Admits word) :
    ∃ value, Numeral.read word = .ok value ∧ (written word).resolve memory = .ok value := by
  have digits : Token.Regular ⟨word, .numeral⟩ := numeral
  have literal : isLiteral word = true := digits.isLiteral rfl
  exact ⟨literalValue word, Numeral.read_literal ((isLiteral_eq_true_iff word).mp literal),
    resolve_literal memory literal⟩

/-- Only a name that is not set has no value. -/
theorem Grammatical.unresolved {operand : Operand} (grammatical : operand.Grammatical)
    {memory : Variables} {fault : Fault} (unresolved : operand.resolve memory = .error fault) :
    ∃ name, operand = .written name ∧ Category.name.Admits name ∧ memory.get? name = none ∧
      fault = .unknownVariable name := by
  cases operand with
  | computed value => cases unresolved
  | written word =>
      rcases grammatical with name | numeral
      · rcases resolve_of_name memory name with ⟨value, -, resolved⟩ | ⟨unset, refused⟩
        · rw [resolved] at unresolved
          cases unresolved
        · rw [refused] at unresolved
          exact ⟨word, rfl, name, unset, (Except.error.inj unresolved).symm⟩
      · obtain ⟨value, -, resolved⟩ := resolve_of_numeral memory numeral
        rw [resolved] at unresolved
        cases unresolved

end Operand

namespace Calculator

open Evaluation (Asked Meets Blocked evaluate)

/-- The operands that an expression asks for are tokens of its text, or were computed. -/
theorem grammatical_of_asked {limits : Limits} {memory : Variables} {text : Text}
    {sent : List Token} (ordered : postOrder text = .ok sent) {operand : Operand}
    (asked : Asked limits memory sent operand) : operand.Grammatical := by
  obtain ⟨row, -, settled, -, kept⟩ := postOrder_eq_ok ordered
  refine asked.holds (fun _ => trivial) ?_
  intro token member kind
  have inside : token ∈ row := (List.mem_filter.mp (kept.subset member)).1
  have regular := settled.regular token inside
  rcases (Category.isOperand_eq_true_iff token.category).mp kind with numeral | name
  · exact .inr (regular.digits numeral)
  · exact .inl (regular.letters name)

/-- Operands of an expression. What an expression asks for is either a name, which has the value
that is set for it, or a numeral, which is read whatever its length. So an expression is refused for
an unknown variable exactly if it asks for a name that is not set, and as an invalid expression
exactly if an operator finds too few operands, the divisor is zero, or a power is beyond the
limits. -/
theorem operands_resolve (limits : Limits) (memory : Variables) {text : Text} {sent : List Token}
    (ordered : postOrder text = .ok sent) :
    (∀ word, Asked limits memory sent (.written word) →
        (Category.name.Admits word ∧ ¬ Category.numeral.Admits word ∧
            ((∃ value, memory.get? word = some value ∧
                (Operand.written word).resolve memory = .ok value) ∨
              (memory.get? word = none ∧
                (Operand.written word).resolve memory = .error (.unknownVariable word)))) ∨
          (Category.numeral.Admits word ∧ ¬ Category.name.Admits word ∧
            ∃ value, Numeral.read word = .ok value ∧
              (Operand.written word).resolve memory = .ok value)) ∧
      (∀ name, evaluate limits memory sent = .error (.unknownVariable name) ↔
        Asked limits memory sent (.written name) ∧ Category.name.Admits name ∧
          memory.get? name = none) ∧
      ∀ flaw, evaluate limits memory sent = .error (.invalidExpression flaw) ↔
        ∃ token stack, Meets limits memory sent token stack ∧
          Blocked limits memory token stack flaw := by
  refine ⟨?_, ?_, ?_⟩
  · intro word asked
    rcases grammatical_of_asked ordered asked with name | numeral
    · exact .inl ⟨name, Category.not_admits_both name, Operand.resolve_of_name memory name⟩
    · exact .inr ⟨numeral, fun name => Category.not_admits_both name numeral,
        Operand.resolve_of_numeral memory numeral⟩
  · intro name
    rw [Evaluation.evaluate_eq_error_iff]
    constructor
    · intro cause
      rcases cause with ⟨operand, asked, unresolved⟩ | ⟨flaw, other, -⟩
      · obtain ⟨word, rfl, letters, unset, same⟩ :=
          (grammatical_of_asked ordered asked).unresolved unresolved
        cases same
        exact ⟨asked, letters, unset⟩
      · cases other
    · intro cause
      obtain ⟨asked, letters, unset⟩ := cause
      rcases Operand.resolve_of_name memory letters with ⟨value, set, -⟩ | ⟨-, refused⟩
      · rw [unset] at set
        cases set
      · exact .inl ⟨.written name, asked, refused⟩
  · intro flaw
    rw [Evaluation.evaluate_eq_error_iff]
    constructor
    · intro cause
      rcases cause with ⟨operand, asked, unresolved⟩ | ⟨other, same, blocked⟩
      · obtain ⟨word, -, -, -, other⟩ :=
          (grammatical_of_asked ordered asked).unresolved unresolved
        cases other
      · cases same
        exact blocked
    · intro blocked
      exact .inr ⟨flaw, rfl, blocked⟩

/-- A digit of another script is noise. With the name set, the quotient is refused for its divisor,
and else it is refused for the name. -/
theorem operands_resolve_quotient :
    let sent : List Token := [⟨['6', '0'], .numeral⟩, ⟨['n'], .name⟩, ⟨['n'], .name⟩,
      ⟨['-'], .operator .subtract⟩, ⟨['/'], .operator .divide⟩]
    let memory : Variables := ⟨[(['n'], 4)]⟩
    postOrder "6\u06630/(n-n)".toList = .ok sent ∧
      Asked {} memory sent (.written ['6', '0']) ∧ ¬ Category.name.Admits ['6', '0'] ∧
      evaluate {} memory sent = .error (.invalidExpression .zeroDivisor) ∧
      evaluate {} Table.empty sent = .error (.unknownVariable ['n']) := by
  intro sent memory
  have ordered : postOrder "6\u06630/(n-n)".toList = .ok sent := by decide
  obtain ⟨words, -, invalid⟩ := operands_resolve {} memory ordered
  obtain ⟨-, unknown, -⟩ := operands_resolve {} Table.empty ordered
  have dividend : Asked {} memory sent (.written ['6', '0']) :=
    .inl ⟨_, [.computed 0, .written ['6', '0']], ⟨sent.take 4, [], rfl, rfl⟩, .left rfl rfl⟩
  have name : Asked {} Table.empty sent (.written ['n']) :=
    .inl ⟨_, [.written ['n'], .written ['n'], .written ['6', '0']],
      ⟨sent.take 3, _, rfl, rfl⟩, .right rfl⟩
  refine ⟨ordered, dividend, ?_, ?_, ?_⟩
  · rcases words _ dividend with ⟨-, other, -⟩ | ⟨-, unnamed, -⟩
    · exact absurd (by decide) other
    · exact unnamed
  · exact (invalid _).mpr ⟨_, [.computed 0, .written ['6', '0']], ⟨sent.take 4, [], rfl, rfl⟩,
      .zeroDivisor rfl rfl rfl⟩
  · exact (unknown _).mpr ⟨name, by decide, rfl⟩

end Calculator

end Reckoner
