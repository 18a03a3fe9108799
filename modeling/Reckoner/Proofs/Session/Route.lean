import Reckoner.Proofs.Text.Trim
import Reckoner.Session

set_option autoImplicit false

/-!
The ways in which a line enters a session. They differ in the text that they hand to the
calculator and in how they put its outcome, and in nothing else.
-/
namespace Reckoner

inductive Route where
  | line
  | command
  | calculate
  | report
  deriving Repr, DecidableEq

namespace Route

def request : Route → Text → Step
  | .line => .line
  | .command => .command
  | .calculate => .calculate
  | .report => .report

/-- The text that the calculator gets, unless the request is taken as a command. -/
def passed : Route → Text → Option Text
  | .calculate, text => some text
  | .command, text => if Calculator.isCommand text.trim then none else some text.trim
  | _, text => some text.trim

/-- The calculator gets the text as it stands, or without the blanks around it. -/
theorem passed_cases {route : Route} {text passed : Text}
    (takes : route.passed text = some passed) : passed = text ∨ passed = text.trim := by
  cases route with
  | calculate => exact .inl (Option.some.inj takes).symm
  | command =>
      obtain ⟨-, same⟩ := Option.ite_none_left_eq_some.mp takes
      exact .inr (Option.some.inj same).symm
  | line => exact .inr (Option.some.inj takes).symm
  | report => exact .inr (Option.some.inj takes).symm

/-- How the outcome of a calculation is put. -/
def answer : Route → Except Fault (Option Int) → Answer
  | .calculate, .ok value => .value value
  | .calculate, .error fault => .refused fault
  | .report, outcome => .report (.ofOutcome outcome)
  | _, .ok value => .text (Calculator.showValue value)
  | _, .error fault => .text fault.message

end Route

namespace Calculator

variable (limits : Limits) (memory : Variables)

/-- What is no command is a line. -/
theorem command_eq_line (text : Text) (other : isCommand text.trim = false) :
    command limits memory text = line limits memory text := by
  have help : text.trim ≠ helpCommand := by
    intro same
    rw [same] at other
    cases other
  have exit : text.trim ≠ exitCommand := by
    intro same
    rw [same] at other
    cases other
  simp only [command, help, exit, other, Bool.false_eq_true, ↓reduceIte, line, Text.trim_trim]

/-- What a command shows. One that is not known is refused. -/
def reply (command : Text) : Text :=
  if command = helpCommand then helpText
  else if command = exitCommand then []
  else FaultKind.unknownCommand.message

/-- A command has its reply, whatever the limits and the variables. -/
theorem command_eq_reply (text : Text) (meant : isCommand text.trim = true) :
    command limits memory text = (reply text.trim, memory) := by
  unfold command reply
  split
  · rfl
  split
  · rfl
  · rfl

theorem command_memory (text : Text) (meant : isCommand text.trim = true) :
    (command limits memory text).2 = memory := by
  rw [command_eq_reply limits memory text meant]

end Calculator

namespace Session

variable (limits : Limits) (memory : Variables)

/-- A line that the calculator gets is answered by its outcome. It changes the variables as the
calculator does, and not at all if it is refused. -/
theorem step_of_passed (route : Route) (text passed : Text)
    (takes : route.passed text = some passed) :
    step limits memory (route.request text) =
      match Calculator.calculate limits memory passed with
      | .ok (value, after) => (route.answer (.ok value), after)
      | .error fault => (route.answer (.error fault), memory) := by
  cases route with
  | line =>
      obtain rfl := Option.some.inj takes
      simp only [Route.request, step, Calculator.line]
      cases Calculator.calculate limits memory text.trim with
      | ok result => rfl
      | error fault => rfl
  | command =>
      cases meant : Calculator.isCommand text.trim with
      | true => simp [Route.passed, meant] at takes
      | false =>
          simp only [Route.passed, meant, Bool.false_eq_true, ↓reduceIte, Option.some.injEq]
            at takes
          subst passed
          simp only [Route.request, step, Calculator.command_eq_line limits memory text meant,
            Calculator.line]
          cases Calculator.calculate limits memory text.trim with
          | ok result => rfl
          | error fault => rfl
  | calculate =>
      obtain rfl := Option.some.inj takes
      rfl
  | report =>
      obtain rfl := Option.some.inj takes
      simp only [Route.request, step, Calculator.report]
      cases Calculator.calculate limits memory text.trim with
      | ok result => rfl
      | error fault => rfl

/-- What a line is answered depends on the outcome of the calculation alone. -/
theorem answer_of_passed (route : Route) (text passed : Text)
    (takes : route.passed text = some passed) :
    (step limits memory (route.request text)).1 =
      route.answer ((Calculator.calculate limits memory passed).map Prod.fst) := by
  rw [step_of_passed limits memory route text passed takes]
  cases Calculator.calculate limits memory passed with
  | ok result => rfl
  | error fault => rfl

theorem step_eq_reply (route : Route) (text : Text) (taken : route.passed text = none) :
    step limits memory (route.request text) = (.text (Calculator.reply text.trim), memory) := by
  cases route with
  | line => cases taken
  | calculate => cases taken
  | report => cases taken
  | command =>
      cases meant : Calculator.isCommand text.trim with
      | true =>
          simp only [Route.request, step, Calculator.command_eq_reply limits memory text meant]
      | false => simp [Route.passed, meant] at taken

theorem step_of_command (route : Route) (text : Text) (taken : route.passed text = none) :
    (step limits memory (route.request text)).2 = memory := by
  rw [step_eq_reply limits memory route text taken]

end Session

end Reckoner
