import Reckoner.Text.Blank
import Reckoner.Token.Basic

set_option autoImplicit false

/-!
Characters by category: which characters make a numeral, a name or an operator, and how
categories of neighbours grow together.
-/
namespace Reckoner

namespace Operator

def mark : Operator → Char
  | .add => '+'
  | .subtract => '-'
  | .multiply => '*'
  | .divide => '/'
  | .power => '^'

theorem precedence_pos (symbol : Operator) : 0 < symbol.precedence := by
  cases symbol <;> decide

theorem precedence_of_isSign {symbol : Operator} (sign : symbol.isSign = true) :
    symbol.precedence = 1 := by
  cases symbol <;> first | rfl | cases sign

end Operator

namespace Category

theorem ofChar_digit {c : Char} (digit : Text.digit c = true) : ofChar c = .numeral := by
  simp only [ofChar, digit, ↓reduceIte]

theorem digit_eq_true_iff (c : Char) : Text.digit c = true ↔ 0x30 ≤ c.toNat ∧ c.toNat ≤ 0x39 := by
  simp [Text.digit, Text.inRanges]

theorem letter_eq_true_iff (c : Char) : Text.letter c = true ↔
    (0x41 ≤ c.toNat ∧ c.toNat ≤ 0x5A) ∨ (0x61 ≤ c.toNat ∧ c.toNat ≤ 0x7A) := by
  simp [Text.letter, Text.inRanges]

theorem ofChar_letter {c : Char} (letter : Text.letter c = true) : ofChar c = .name := by
  have apart : Text.digit c = false := by
    rw [letter_eq_true_iff] at letter
    rw [← Bool.not_eq_true, digit_eq_true_iff]
    omega
  simp only [ofChar, apart, letter, Bool.false_eq_true, ↓reduceIte]

@[simp] theorem ofChar_mark (symbol : Operator) : ofChar symbol.mark = .operator symbol := by
  cases symbol <;> rfl

/-- Each character is a digit, a letter, an operator's mark, a parenthesis, or noise. -/
theorem ofChar_cases (c : Char) :
    (Text.digit c = true ∧ ofChar c = .numeral) ∨ (Text.letter c = true ∧ ofChar c = .name) ∨
      (∃ symbol : Operator, c = symbol.mark ∧ ofChar c = .operator symbol) ∨
      (c = '(' ∧ ofChar c = .opening) ∨ (c = ')' ∧ ofChar c = .closing) ∨
      ofChar c = .noise := by
  by_cases digit : Text.digit c = true
  · exact .inl ⟨digit, ofChar_digit digit⟩
  by_cases letter : Text.letter c = true
  · exact .inr (.inl ⟨letter, ofChar_letter letter⟩)
  simp only [ofChar, digit, letter, Bool.false_eq_true, ↓reduceIte]
  split
  · exact .inr (.inr (.inl ⟨.add, rfl, rfl⟩))
  · exact .inr (.inr (.inl ⟨.subtract, rfl, rfl⟩))
  · exact .inr (.inr (.inl ⟨.multiply, rfl, rfl⟩))
  · exact .inr (.inr (.inl ⟨.divide, rfl, rfl⟩))
  · exact .inr (.inr (.inl ⟨.power, rfl, rfl⟩))
  · exact .inr (.inr (.inr (.inl ⟨rfl, rfl⟩)))
  · exact .inr (.inr (.inr (.inr (.inl ⟨rfl, rfl⟩))))
  · simp

theorem ofChar_blank {c : Char} (blank : Text.blankChar c = true) : ofChar c = .noise := by
  have bound : c.toNat < 0x21 ∨ 0x7F < c.toNat := by
    simp [Text.blankChar, Text.inRanges, Text.blankRanges] at blank
    omega
  rcases ofChar_cases c with ⟨digit, -⟩ | ⟨letter, -⟩ | ⟨symbol, rfl, -⟩ | ⟨rfl, -⟩ | ⟨rfl, -⟩ |
    noise
  · rw [digit_eq_true_iff] at digit
    omega
  · rw [letter_eq_true_iff] at letter
    omega
  · exact absurd blank (by cases symbol <;> decide)
  · exact absurd blank (by decide)
  · exact absurd blank (by decide)
  · exact noise

theorem blankChar_eq_false {c : Char} (counts : ofChar c ≠ .noise) : Text.blankChar c = false := by
  rw [← Bool.not_eq_true]
  exact fun blank => counts (ofChar_blank blank)

def isSign : Category → Bool
  | .operator symbol => symbol.isSign
  | _ => false

theorem isOperand_eq_true_iff (category : Category) :
    category.isOperand = true ↔ category = .numeral ∨ category = .name := by
  cases category <;> simp [isOperand]

theorem isOperator_eq_true_iff (category : Category) :
    category.isOperator = true ↔ ∃ symbol, category = .operator symbol := by
  cases category <;> simp [isOperator]

theorem isOperator_eq_false {category : Category} (operand : category.isOperand = true) :
    category.isOperator = false := by
  rcases (isOperand_eq_true_iff _).mp operand with rfl | rfl
  · rfl
  · rfl

@[simp] theorem precedence_operator (symbol : Operator) :
    (operator symbol).precedence = symbol.precedence := rfl

/-- Signs join signs, and all but parentheses joins its own category. -/
theorem joins_eq_true_iff (pending incoming : Category) :
    pending.joins incoming = true ↔
      (pending.isSign = true ∧ incoming.isSign = true) ∨
        (pending = incoming ∧ pending.isGroup = false) := by
  cases pending <;> cases incoming <;> simp [joins, isSign, isGroup]

theorem joins_eq_false_iff (pending incoming : Category) :
    pending.joins incoming = false ↔
      ¬ (pending.isSign = true ∧ incoming.isSign = true) ∧
        ¬ (pending = incoming ∧ pending.isGroup = false) := by
  rw [← not_or, ← joins_eq_true_iff, Bool.not_eq_true]

theorem joins_of_isOperand {pending incoming : Category} (operand : pending.isOperand = true)
    (other : incoming.isOperand = false) : pending.joins incoming = false := by
  have unsigned : pending.isSign = false := by
    cases pending <;> first | rfl | cases operand
  rw [joins_eq_false_iff]
  refine ⟨fun signs => ?_, fun same => ?_⟩
  · rw [unsigned] at signs
    cases signs.1
  · rw [← same.1, operand] at other
    cases other

theorem joins_operator (symbol : Operator) {next : Category} (other : next.isOperator = false) :
    (operator symbol).joins next = false := by
  cases next <;> simp_all [joins, isOperator]

end Category

end Reckoner
