import Reckoner.Calculator
import Reckoner.Proofs.Expression.PostOrder
import Reckoner.Proofs.Expression.Reading

set_option autoImplicit false

/-!
Lines on which a form is written out, with blanks between its tokens. Such a line shows the
outcome of the expression that the form is read as.
-/
namespace Reckoner

/-- The texts of tokens in a row, with blanks around and between them. -/
inductive Token.Spells : List Token → Text → Prop where
  | done {gap : Text} (blank : gap.isBlank = true) : Spells [] gap
  | next {token : Token} {rest : List Token} {gap behind : Text} (blank : gap.isBlank = true)
      (spells : Spells rest behind) : Spells (token :: rest) (gap ++ token.text ++ behind)

namespace Token

theorem Regular.essence {token : Token} (regular : token.Regular) :
    token.text.essence = token.text :=
  Text.essence_eq_self regular.counts

namespace Spells

variable {tokens : List Token} {text : Text}

theorem essence_eq (spells : Spells tokens text) (regular : ∀ token ∈ tokens, token.Regular) :
    text.essence = tokens.flatMap Token.text := by
  induction spells with
  | done blank => exact Text.essence_isBlank blank
  | next blank spells ih =>
      rw [Text.essence_append, Text.essence_append, Text.essence_isBlank blank,
        (regular _ (by simp)).essence, ih fun token member => regular token (by simp [member])]
      rfl

/-- An equals sign would be neither blank nor part of a token. -/
theorem no_equals (spells : Spells tokens text) (regular : ∀ token ∈ tokens, token.Regular) :
    '=' ∉ text := by
  induction spells with
  | done blank =>
      intro member
      exact absurd (Text.mem_isBlank blank member) (by decide)
  | next blank spells ih =>
      simp only [List.mem_append, not_or]
      refine ⟨⟨?_, ?_⟩, ih fun token member => regular token (by simp [member])⟩
      · intro member
        exact absurd (Text.mem_isBlank blank member) (by decide)
      · intro member
        exact (regular _ (by simp)).counts '=' member rfl

/-- The tokens are read back from the text, if no two neighbours could be one token. -/
theorem scan_eq (spells : Spells tokens text) (regular : ∀ token ∈ tokens, token.Regular)
    (apart : tokens.IsChain fun token next => token.category.joins next.category = false) :
    scan text = .ok tokens := by
  rw [← scan_essence, spells.essence_eq regular]
  exact scan_flatMap tokens regular apart

theorem trim_isBlank (spells : Spells tokens text) (regular : ∀ token ∈ tokens, token.Regular)
    (nonempty : tokens ≠ []) : text.trim.isBlank = false := by
  rw [← Bool.not_eq_true]
  intro blank
  have whole := spells.essence_eq regular
  rw [← Text.essence_trim, Text.essence_isBlank blank] at whole
  cases tokens with
  | nil => exact nonempty rfl
  | cons token rest =>
      have vanishes := (List.append_eq_nil_iff.mp whole.symm).1
      exact (regular token (by simp)).nonempty vanishes

end Spells

end Token

namespace Calculator

def shown : Except Fault Int → Text
  | .ok value => (toString value).toList
  | .error fault => fault.message

/-- A line without an equals sign, not blank and not too long, shows what its expression comes
to and changes no variable. -/
theorem line_expression (limits : Limits) (memory : Variables) (text : Text)
    (occupied : text.trim.isBlank = false) (short : text.trim.length ≤ limits.maxInputLength)
    (plain : '=' ∉ text) {result : Except Fault Int}
    (outcome : expression limits memory text.trim = some <$> result) :
    line limits memory text = (shown result, memory) := by
  have absent : '=' ∉ text.trim := fun member => plain (Text.mem_of_mem_trim member)
  have inside : ¬ limits.maxInputLength < (text.trim.length : Int) := by omega
  simp only [line, calculate, occupied, Bool.false_eq_true, ↓reduceIte, inside,
    Text.splitFirst_of_notMem '=' _ absent, outcome]
  cases result with
  | ok value => simp [shown, showValue, Decimal.ofInt_eq]
  | error fault => simp [shown]

/-- A line on which a form is written out shows the outcome of the expression that the form is
read as. -/
theorem line_form (limits : Limits) (memory : Variables) (form : Form) (binds : form.Binds 1)
    (regular : ∀ token ∈ form.tokens, token.Regular) (text : Text)
    (spells : Token.Spells form.tokens text)
    (short : text.trim.length ≤ limits.maxInputLength) :
    line limits memory text = (shown (form.reading.outcome limits memory), memory) := by
  have apart := form.apart_append 1 binds [] List.isChain_nil (by simp)
  rw [List.append_nil] at apart
  have scanned : Token.scan text.trim = .ok form.tokens := by
    rw [Token.scan_trim]
    exact spells.scan_eq regular apart
  apply line_expression limits memory text
  · exact spells.trim_isBlank regular form.tokens_ne_nil
  · exact short
  · exact spells.no_equals regular
  · simp only [expression, postOrder, scanned, ok_bind, PostOrder.ofTokens_form form binds,
      Evaluation.evaluate_postOrder]
    rfl

end Calculator

end Reckoner
