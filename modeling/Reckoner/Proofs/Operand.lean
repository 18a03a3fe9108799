import Reckoner.Operand
import Reckoner.Proofs.Token.Character

set_option autoImplicit false

/-!
Operands as they are written. Names and literals are rows of letters or digits with at most a
sign before them; a text is never both, and only these two have a value.
-/
namespace Reckoner

/-- A row of characters of one class, at least one, with at most a sign before it. -/
def Text.Signed (kind : Char → Bool) (text : Text) : Prop :=
  ∃ sign body, (sign = [] ∨ sign = ['+'] ∨ sign = ['-']) ∧ body ≠ [] ∧
    (∀ c ∈ body, kind c = true) ∧ text = sign ++ body

theorem Decimal.splitSign_unsigned (text : Text) (plus : text.head? ≠ some '+')
    (minus : text.head? ≠ some '-') : splitSign text = (none, text) := by
  unfold splitSign
  split
  · exact absurd rfl plus
  · exact absurd rfl minus
  · rfl

theorem Decimal.splitSign_uniform {kind : Char → Bool} (plus : kind '+' = false)
    (minus : kind '-' = false) (text : Text) (uniform : ∀ c ∈ text, kind c = true) :
    splitSign text = (none, text) := by
  apply splitSign_unsigned
  · intro starts
    have counts := uniform _ (List.mem_of_mem_head? starts)
    rw [plus] at counts
    cases counts
  · intro starts
    have counts := uniform _ (List.mem_of_mem_head? starts)
    rw [minus] at counts
    cases counts

theorem Text.signed_iff {kind : Char → Bool} (plus : kind '+' = false) (minus : kind '-' = false)
    (text : Text) : Text.Signed kind text ↔
      (Decimal.splitSign text).2 ≠ [] ∧ ∀ c ∈ (Decimal.splitSign text).2, kind c = true := by
  constructor
  · intro signed
    obtain ⟨sign, body, signs, nonempty, uniform, parts⟩ := signed
    subst parts
    rcases signs with rfl | rfl | rfl
    · rw [List.nil_append, Decimal.splitSign_uniform plus minus body uniform]
      exact ⟨nonempty, uniform⟩
    · exact ⟨nonempty, uniform⟩
    · exact ⟨nonempty, uniform⟩
  · unfold Decimal.splitSign
    split
    · next rest =>
        intro row
        obtain ⟨nonempty, uniform⟩ := row
        exact ⟨['+'], rest, by simp, nonempty, uniform, rfl⟩
    · next rest =>
        intro row
        obtain ⟨nonempty, uniform⟩ := row
        exact ⟨['-'], rest, by simp, nonempty, uniform, rfl⟩
    · intro row
      obtain ⟨nonempty, uniform⟩ := row
      exact ⟨[], text, by simp, nonempty, uniform, rfl⟩

theorem isName_eq_true_iff (text : Text) : isName text = true ↔ Text.Signed Text.letter text := by
  rw [Text.signed_iff rfl rfl]
  simp [isName]

theorem isLiteral_eq_true_iff (text : Text) :
    isLiteral text = true ↔ Text.Signed Text.digit text := by
  rw [Text.signed_iff rfl rfl]
  simp [isLiteral]

/-- A literal counts by its digits, and a minus sign before them turns it round. -/
theorem literalValue_append (sign body : Text) (signs : sign = [] ∨ sign = ['+'] ∨ sign = ['-'])
    (digits : ∀ c ∈ body, Text.digit c = true) :
    literalValue (sign ++ body) =
      if sign = ['-'] then -(Decimal.value body : Int) else (Decimal.value body : Int) := by
  rcases signs with rfl | rfl | rfl
  · have parts := Decimal.splitSign_uniform (by decide) (by decide) body digits
    simp [literalValue, parts, Decimal.signed]
  · simp [literalValue, Decimal.splitSign, Decimal.signed]
  · simp [literalValue, Decimal.splitSign, Decimal.signed]

theorem isName_eq_false_of_isLiteral {text : Text} (literal : isLiteral text = true) :
    isName text = false := by
  simp only [isLiteral, Bool.and_eq_true, Bool.not_eq_true', List.all_eq_true] at literal
  obtain ⟨nonempty, digits⟩ := literal
  obtain ⟨c, member⟩ := List.exists_mem_of_ne_nil _ (by simpa using nonempty)
  have digit := digits c member
  have other : Text.letter c = false := by
    rw [Category.digit_eq_true_iff] at digit
    rw [← Bool.not_eq_true, Category.letter_eq_true_iff]
    omega
  simp only [isName, Bool.and_eq_false_iff, List.all_eq_false]
  exact .inr ⟨c, member, by simp [other]⟩

namespace Operand

variable {memory : Variables} {text : Text}

@[simp] theorem resolve_computed (value : Int) : (computed value).resolve memory = .ok value := rfl

theorem resolve_name {value : Int} (named : isName text = true)
    (present : memory.get? text = some value) :
    (written text).resolve memory = .ok value := by
  simp only [resolve, named, ↓reduceIte, present]

theorem resolve_unset (named : isName text = true) (absent : memory.get? text = none) :
    (written text).resolve memory = .error (.unknownVariable text) := by
  simp only [resolve, named, ↓reduceIte, absent]

theorem resolve_literal (memory : Variables) (literal : isLiteral text = true) :
    (written text).resolve memory = .ok (literalValue text) := by
  simp only [resolve, isName_eq_false_of_isLiteral literal, literal, Bool.false_eq_true, ↓reduceIte]

theorem resolve_neither (memory : Variables) (unnamed : isName text = false)
    (other : isLiteral text = false) :
    (written text).resolve memory = .error (.invalidExpression (.notAnOperand text)) := by
  simp only [resolve, unnamed, other, Bool.false_eq_true, ↓reduceIte]

theorem resolve_congr {other : Variables} (same : memory.get? text = other.get? text) :
    (written text).resolve memory = (written text).resolve other := by
  simp only [resolve, same]

end Operand

end Reckoner
