import Reckoner.Proofs.Calculator.Result
import Reckoner.Proofs.PostOrder.Run
import Reckoner.Proofs.Token.Folding

set_option autoImplicit false

/-!
Spellings of one expression. Neither noise nor the way that a run of signs is spelled makes a
difference to what a line shows, be the line well formed or not.
-/
namespace Reckoner

namespace Evaluation

section Relabelled

variable {limits : Limits} {memory : Variables} {f : Token → Token}
  (same : ∀ token, (f token).category = token.category)
  (kept : ∀ token : Token, token.category.isOperand = true → (f token).text = token.text)

include same kept

/-- A token does the same to the stack whatever its text, unless it is an operand. -/
theorem step_relabelled (stack : Stack) (token : Token) :
    step limits memory stack (f token) = step limits memory stack token := by
  unfold step
  rw [same]
  cases kind : token.category with
  | numeral => simp only [kept token (by rw [kind]; rfl)]
  | name => simp only [kept token (by rw [kind]; rfl)]
  | _ => rfl

/-- Evaluation looks at the texts of operands alone. -/
theorem evaluate_map (tokens : List Token) :
    evaluate limits memory (tokens.map f) = evaluate limits memory tokens := by
  simp only [evaluate, run, List.foldlM_map, step_relabelled same kept]

end Relabelled

end Evaluation

namespace Calculator

variable (limits : Limits) (memory : Variables)

theorem expression_normal (text : Text) :
    expression limits memory text.normal = expression limits memory text := by
  simp only [expression, postOrder, Token.scan_normal]
  cases Token.scan text with
  | error fault => rfl
  | ok row =>
      simp only [Except.map, ok_bind, PostOrder.ofTokens_map Token.folded_category]
      cases PostOrder.ofTokens row with
      | error fault => rfl
      | ok sent =>
          exact Evaluation.evaluate_map Token.folded_category (fun _ => Token.folded_text) sent

/-- A line without an equals sign, and the line without its noise and with each run of signs
written as one sign. Unless the first is too long, both come to the same value, to nothing or to
the same fault, and show the same. Nothing is left to do to the second. -/
theorem line_normal {text : Text} (absent : '=' ∉ text)
    (short : text.trim.length ≤ limits.maxInputLength) :
    calculate limits memory text.normal.trim = calculate limits memory text.trim ∧
      line limits memory text.normal = line limits memory text ∧
      text.normal.normal = text.normal := by
  have shorter : text.normal.length ≤ limits.maxInputLength := by
    have bound := Text.length_normal_le text
    omega
  have first := calculate_plain limits memory short fun member =>
    absent (Text.mem_of_mem_trim member)
  have second := calculate_plain limits memory shorter fun member =>
    Text.normal_counts _ member rfl
  rw [expression_trim] at first
  rw [expression_normal] at second
  have same : calculate limits memory text.normal.trim = calculate limits memory text.trim := by
    rw [Text.normal_trim, first, second]
  exact ⟨same, by simp only [line, same], Text.normal_normal text⟩

/-- Signs are counted across the noise between them, and a parenthesis that is left open is as
wrong in one line as in the other. -/
theorem line_normal_signs :
    let sum : Text := "7 ?- -+ 2_".toList
    let left : Text := "(#--\tx".toList
    sum.normal = "7+2".toList ∧ left.normal = "(+x".toList ∧
      line {} ⟨[]⟩ sum = ("9".toList, ⟨[]⟩) ∧
      line {} ⟨[]⟩ left = ("Invalid expression".toList, ⟨[]⟩) := by
  intro sum left
  have sumFolded : sum.normal = "7+2".toList := by
    have kept : sum.essence = ['7', '-', '-', '+', '2'] := by decide
    simp [Text.normal, kept, Text.foldSigns, Text.signChar, Token.signOf, Operator.mark]
  have leftFolded : left.normal = "(+x".toList := by
    have kept : left.essence = ['(', '-', '-', 'x'] := by decide
    simp [Text.normal, kept, Text.foldSigns, Text.signChar, Token.signOf, Operator.mark]
  have sumSame := (line_normal {} ⟨[]⟩ (show '=' ∉ sum by decide) (by decide)).2.1
  have leftSame := (line_normal {} ⟨[]⟩ (show '=' ∉ left by decide) (by decide)).2.1
  rw [sumFolded] at sumSame
  rw [leftFolded] at leftSame
  exact ⟨sumFolded, leftFolded, sumSame.symm, leftSame.symm⟩

end Calculator

end Reckoner
