import Reckoner.Proofs.Calculator.Result
import Reckoner.Proofs.Expression.Tree
import Reckoner.Proofs.Session.Dropping

set_option autoImplicit false

/-!
Wider limits. Limits refuse what goes beyond them and change nothing else, so that a session
without failures goes on in the same way if they are raised.
-/
namespace Reckoner

/-- No limit of the second setting is below that of the first. -/
structure Limits.Widened (narrow wide : Limits) : Prop where
  length : narrow.maxInputLength ≤ wide.maxInputLength
  exponent : narrow.maxExponent ≤ wide.maxExponent
  bits : narrow.maxResultBits ≤ wide.maxResultBits

section Stages

variable {narrow wide : Limits} (widened : narrow.Widened wide) (memory : Variables)

include widened

/-- Only powers are limited, and their value does not depend on the limits. -/
theorem Operator.apply_persists (symbol : Operator) (left right : Int) :
    Persists (symbol.apply narrow left right) (symbol.apply wide left right) := by
  intro value applied
  rw [apply_eq_ok_iff] at applied ⊢
  cases symbol with
  | add => exact applied
  | subtract => exact applied
  | multiply => exact applied
  | divide => exact applied
  | power =>
      simp only [Operator.value, Option.ite_none_right_eq_some] at applied ⊢
      obtain ⟨⟨natural, exponent, bits⟩, same⟩ := applied
      have within := Int.le_trans exponent widened.exponent
      have small := Int.le_trans bits widened.bits
      exact ⟨⟨natural, within, small⟩, same⟩

namespace Evaluation

theorem operate_persists (symbol : Operator) (stack : Stack) :
    Persists (operate narrow memory symbol stack) (operate wide memory symbol stack) := by
  refine (Persists.refl (pop memory stack)).bind fun right => ?_
  refine (Persists.refl (popLeft symbol memory right.2)).bind fun left => ?_
  exact (symbol.apply_persists widened left.1 right.1).bind fun value => .refl _

theorem step_persists (stack : Stack) (token : Token) :
    Persists (step narrow memory stack token) (step wide memory stack token) := by
  cases kind : token.category with
  | operator symbol =>
      simp only [step, kind]
      exact operate_persists widened memory symbol stack
  | numeral => simp only [step, kind, Persists.refl]
  | name => simp only [step, kind, Persists.refl]
  | noise => simp only [step, kind, Persists.refl]
  | opening => simp only [step, kind, Persists.refl]
  | closing => simp only [step, kind, Persists.refl]

theorem run_persists (stack : Stack) (tokens : List Token) :
    Persists (run narrow memory stack tokens) (run wide memory stack tokens) := by
  induction tokens generalizing stack with
  | nil => exact .refl _
  | cons token rest ih =>
      rw [run_cons, run_cons]
      exact (step_persists widened memory stack token).bind ih

theorem evaluate_persists (tokens : List Token) :
    Persists (evaluate narrow memory tokens) (evaluate wide memory tokens) :=
  (run_persists widened memory [] tokens).bind fun stack => .refl (result memory stack)

end Evaluation

namespace Calculator

theorem expression_persists (text : Text) :
    Persists (expression narrow memory text) (expression wide memory text) :=
  (Persists.refl (postOrder text)).bind (Evaluation.evaluate_persists widened memory)

/-- What is not too long for the first limits is not too long for the second ones. -/
theorem calculate_persists (text : Text) :
    Persists (calculate narrow memory text) (calculate wide memory text) := by
  cases occupied : text.isBlank with
  | true =>
      rw [calculate_blank narrow memory occupied, calculate_blank wide memory occupied]
      exact .refl _
  | false =>
      by_cases long : narrow.maxInputLength < (text.length : Int)
      · rw [calculate_tooLong narrow memory occupied long]
        exact .of_error _ _
      · have short : ¬ wide.maxInputLength < (text.length : Int) := by
          have length := widened.length
          omega
        simp only [calculate, occupied, Bool.false_eq_true, ↓reduceIte, long, short]
        cases text.splitFirst '=' with
        | some parts => exact .refl _
        | none => exact (expression_persists widened memory text).bind fun value => .refl _

end Calculator

end Stages

theorem Route.answer_failed (route : Route) (fault : Fault) :
    (route.answer (.error fault)).Failed := by
  cases route with
  | calculate => trivial
  | report => exact rfl
  | line => exact ⟨fault, rfl⟩
  | command => exact ⟨fault, rfl⟩

namespace Session

section Widened

variable {narrow wide : Limits} (widened : narrow.Widened wide)

include widened

/-- A request that does not fail is answered in the same way, and leaves the same variables. -/
theorem step_widened (memory : Variables) (request : Step)
    (succeeds : ¬ (step narrow memory request).1.Failed) :
    step wide memory request = step narrow memory request := by
  have entered (route : Route) (text : Text)
      (answered : ¬ (step narrow memory (route.request text)).1.Failed) :
      step wide memory (route.request text) = step narrow memory (route.request text) := by
    cases takes : route.passed text with
    | none => rw [step_eq_reply _ _ _ _ takes, step_eq_reply _ _ _ _ takes]
    | some passed =>
        rw [step_of_passed _ _ _ _ _ takes] at answered ⊢
        rw [step_of_passed _ _ _ _ _ takes]
        cases done : Calculator.calculate narrow memory passed with
        | ok result =>
            rw [Calculator.calculate_persists widened memory passed result done]
        | error fault =>
            rw [done] at answered
            exact absurd (route.answer_failed fault) answered
  cases request with
  | line text => exact entered .line text succeeds
  | command text => exact entered .command text succeeds
  | calculate text => exact entered .calculate text succeeds
  | report text => exact entered .report text succeeds
  | assign name operand => rfl
  | set name value => rfl
  | get name => rfl
  | contains name => rfl
  | size => rfl

/-- A session in which nothing fails is the same under wider limits, request by request, in what is
answered and in what is left of the variables. -/
theorem run_widened (memory : Variables) (steps : List Step)
    (succeeds : ∀ outcome ∈ run narrow memory steps, ¬ outcome.1.Failed) :
    run wide memory steps = run narrow memory steps := by
  induction steps generalizing memory with
  | nil => rfl
  | cons request rest ih =>
      rw [run, List.forall_mem_cons] at succeeds
      have same := step_widened widened memory request succeeds.1
      have later := ih _ succeeds.2
      simp only [run, same, later]

end Widened

/-- Each limit is met exactly: nine characters, an exponent of three, and nine binary digits. -/
theorem run_widened_cube :
    let narrow : Limits := ⟨9, 3, 9⟩
    let steps : List Step := [.line "x = 7".toList, .report "x ^ 3 / 2".toList,
      .command "/help".toList, .assign ['y'] ['x'], .calculate "y - 9".toList]
    narrow.Widened {} ∧ (∀ outcome ∈ run narrow ⟨[]⟩ steps, ¬ outcome.1.Failed) ∧
      run {} ⟨[]⟩ steps = run narrow ⟨[]⟩ steps := by
  intro narrow steps
  have widened : narrow.Widened {} := ⟨by decide, by decide, by decide⟩
  have succeeds : ∀ outcome ∈ run narrow ⟨[]⟩ steps, ¬ outcome.1.Failed := by decide
  exact ⟨widened, succeeds, run_widened widened ⟨[]⟩ steps succeeds⟩

end Session

end Reckoner
