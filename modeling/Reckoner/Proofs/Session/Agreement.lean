import Reckoner.Proofs.Calculator.Result
import Reckoner.Proofs.Expression.Spelling
import Reckoner.Proofs.Session.Route

set_option autoImplicit false

/-!
One line by all routes. The routes trim the line, look for commands and put faults into words each
on their own, and still they come to one outcome, show it alike and leave the same variables.
-/
namespace Reckoner

namespace Report

/-- The report is on the outcome: a result and no fault, or the message and the code of one fault
and no result. -/
def Tells (report : Report) : Except Fault (Option Int) → Prop
  | .ok value => report.ok = true ∧ report.result = value.map Decimal.ofInt ∧
      report.error = none ∧ report.errorCode = none
  | .error fault => report.ok = false ∧ report.result = none ∧
      report.error = some fault.message ∧ report.errorCode = some fault.code

def shown (report : Report) : Text :=
  if report.ok then report.result.getD [] else report.error.getD []

theorem ofOutcome_tells (outcome : Except Fault (Option Int)) :
    (ofOutcome outcome).Tells outcome := by
  cases outcome with
  | ok value => exact ⟨rfl, rfl, rfl, rfl⟩
  | error fault => exact ⟨rfl, rfl, rfl, rfl⟩

end Report

theorem Route.answer_shown (outcome : Except Fault (Option Int)) :
    answer .line outcome = .text (Report.ofOutcome outcome).shown ∧
      answer .command outcome = .text (Report.ofOutcome outcome).shown := by
  cases outcome with
  | error fault => exact ⟨rfl, rfl⟩
  | ok value =>
      cases value with
      | none => exact ⟨rfl, rfl⟩
      | some value => exact ⟨rfl, rfl⟩

namespace Calculator

variable (limits : Limits) (memory : Variables)

/-- The blanks around a text do not matter, unless they make it too long. -/
theorem calculate_trim (text : Text)
    (fits : text.isBlank = true ∨ text.length ≤ limits.maxInputLength) :
    calculate limits memory text.trim = calculate limits memory text := by
  cases occupied : text.isBlank with
  | true =>
      have vanishes : text.trim.isBlank = true := by rw [Text.isBlank_trim, occupied]
      rw [calculate_blank limits memory occupied, calculate_blank limits memory vanishes]
  | false =>
      have short : text.length ≤ limits.maxInputLength := by simpa [occupied] using fits
      have trimmed := text.length_trim_le
      by_cases equals : '=' ∈ text
      · obtain ⟨left, right, rfl, absent⟩ := List.eq_append_cons_of_mem equals
        have inside : '=' ∉ left.dropWhile Text.blankChar :=
          fun member => absent (List.dropWhile_subset _ member)
        have shorter : (Text.trim (left ++ '=' :: right)).length ≤ limits.maxInputLength := by
          omega
        rw [Text.trim_append_mark rfl] at shorter ⊢
        rw [calculate_append _ _ inside shorter, calculate_append _ _ absent short,
          Text.trim_dropWhile, Text.trim_rdropWhile]
      · have absent : '=' ∉ text.trim := fun member => equals (Text.mem_of_mem_trim member)
        have remains : text.trim.isBlank = false := by rw [Text.isBlank_trim, occupied]
        rw [calculate_expression limits memory remains (by omega) absent,
          calculate_expression limits memory occupied short equals, expression_trim]

end Calculator

namespace Session

/-- What the calculator gets from a route decides what the route comes to. -/
theorem step_of_same (limits : Limits) (memory : Variables) (text : Text) :
    ∃ outcome after, ∀ (route : Route) (passed : Text), route.passed text = some passed →
      Calculator.calculate limits memory passed = Calculator.calculate limits memory text.trim →
      step limits memory (route.request text) = (route.answer outcome, after) := by
  cases done : Calculator.calculate limits memory text.trim with
  | ok result =>
      refine ⟨.ok result.1, result.2, ?_⟩
      intro route passed takes same
      rw [step_of_passed limits memory route text passed takes, same]
  | error fault =>
      refine ⟨.error fault, memory, ?_⟩
      intro route passed takes same
      rw [step_of_passed limits memory route text passed takes, same]

/-- One line by all routes. There is one outcome and one state of the variables: the report tells
this outcome, the line shows what the report stands for, and so does a command that is none. The
calculator comes to it from the line as it stands, if this is blank or not too long. -/
theorem step_agrees (limits : Limits) (memory : Variables) (text : Text) :
    ∃ report outcome after,
      step limits memory (.report text) = (.report report, after) ∧ report.Tells outcome ∧
      step limits memory (.line text) = (.text report.shown, after) ∧
      (Calculator.isCommand text.trim = false →
        step limits memory (.command text) = (.text report.shown, after)) ∧
      (text.isBlank = true ∨ text.length ≤ limits.maxInputLength →
        step limits memory (.calculate text) = (Route.answer .calculate outcome, after)) := by
  obtain ⟨outcome, after, enters⟩ := step_of_same limits memory text
  obtain ⟨line, command⟩ := Route.answer_shown outcome
  refine ⟨.ofOutcome outcome, outcome, after, enters .report _ rfl rfl,
    Report.ofOutcome_tells outcome, ?_, ?_, ?_⟩
  · rw [← line]
    exact enters .line _ rfl rfl
  · intro other
    have takes : Route.passed .command text = some text.trim := by simp [Route.passed, other]
    rw [← command]
    exact enters .command _ takes rfl
  · intro fits
    exact enters .calculate _ rfl (Calculator.calculate_trim limits memory text fits).symm

/-- An assignment with blanks around it. The report on it has no result and no fault, so nothing is
shown, and the calculator comes to nothing. -/
theorem step_agrees_assignment :
    let text : Text := "\t x = 7 ".toList
    let memory : Variables := ⟨[(['x'], 7)]⟩
    Calculator.isCommand text.trim = false ∧ text.length ≤ (10 : Int) ∧
      step ⟨10, 3, 8⟩ ⟨[]⟩ (.command text) = (.text [], memory) ∧
      step ⟨10, 3, 8⟩ ⟨[]⟩ (.calculate text) = (.value none, memory) := by
  intro text memory
  obtain ⟨report, outcome, after, reported, tells, -, commanded, calculated⟩ :=
    step_agrees ⟨10, 3, 8⟩ ⟨[]⟩ text
  have known : step ⟨10, 3, 8⟩ ⟨[]⟩ (.report text) = (.report { ok := true }, memory) := by decide
  rw [known] at reported
  cases reported
  cases outcome with
  | error fault => cases tells.1
  | ok value =>
      have absent : value = none := Option.map_eq_none_iff.mp tells.2.1.symm
      rw [absent] at calculated
      exact ⟨by decide, by decide, commanded (by decide), calculated (.inr (by decide))⟩

end Session

end Reckoner
