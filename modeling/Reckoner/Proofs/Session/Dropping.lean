import Reckoner.Proofs.Session.Effect
import Reckoner.Proofs.Session.Run

set_option autoImplicit false

/-!
Requests that leave no trace. What cannot have assigned anything may be taken out of a session, and
the rest of the session goes on as if nothing had been taken out.
-/
namespace Reckoner

/-- The answer tells of a failure. -/
def Answer.Failed : Answer → Prop
  | .refused _ => True
  | .report outcome => outcome.ok = false
  | .text content => ∃ fault : Fault, content = fault.message
  | _ => False

theorem Fault.exists_message_iff (content : Text) :
    (∃ fault : Fault, content = fault.message) ↔ content = FaultKind.unknownVariable.message ∨
      content = FaultKind.invalidIdentifier.message ∨
      content = FaultKind.invalidExpression.message := by
  constructor
  · intro shows
    obtain ⟨fault, rfl⟩ := shows
    cases fault with
    | unknownVariable name => exact .inl rfl
    | invalidIdentifier name => exact .inr (.inl rfl)
    | invalidExpression flaw => exact .inr (.inr rfl)
  · rintro (rfl | rfl | rfl)
    · exact ⟨.unknownVariable [], rfl⟩
    · exact ⟨.invalidIdentifier [], rfl⟩
    · exact ⟨.invalidExpression .missingOperand, rfl⟩

instance : (answer : Answer) → Decidable answer.Failed
  | .refused _ => isTrue trivial
  | .report outcome => inferInstanceAs (Decidable (outcome.ok = false))
  | .text content => decidable_of_iff' _ (Fault.exists_message_iff content)
  | .value _ => isFalse not_false
  | .done => isFalse not_false
  | .flag _ => isFalse not_false
  | .count _ => isFalse not_false

/-- What may be taken out of a session, by the request and its answer. -/
inductive Droppable : Step → Answer → Prop where
  | plain (route : Route) {text : Text} (absent : '=' ∉ text) (answer : Answer) :
      Droppable (route.request text) answer
  | command {text : Text} (meant : Calculator.isCommand text.trim = true) (answer : Answer) :
      Droppable (.command text) answer
  | failed (request : Step) {answer : Answer} (failed : answer.Failed) : Droppable request answer

theorem FaultKind.message_ne_nil (kind : FaultKind) : kind.message ≠ [] := by
  cases kind with
  | calculator => decide
  | unknownVariable => decide
  | invalidIdentifier => decide
  | invalidExpression => decide
  | unknownCommand => decide

namespace Route

theorem mem_of_mem_passed {route : Route} {text passed : Text} {c : Char}
    (takes : route.passed text = some passed) (member : c ∈ passed) : c ∈ text := by
  rcases passed_cases takes with rfl | rfl
  · exact member
  · exact Text.mem_of_mem_trim member

theorem answer_assigned (route : Route) : ¬ (route.answer (.ok none)).Failed := by
  cases route with
  | calculate => exact not_false
  | report => exact Bool.noConfusion
  | line =>
      intro failed
      obtain ⟨fault, same⟩ := failed
      exact fault.kind.message_ne_nil same.symm
  | command =>
      intro failed
      obtain ⟨fault, same⟩ := failed
      exact fault.kind.message_ne_nil same.symm

end Route

namespace Session

variable {limits : Limits} {memory : Variables}

/-- A request that failed changed nothing. -/
theorem step_failed (request : Step) (failed : (step limits memory request).1.Failed) :
    (step limits memory request).2 = memory := by
  have entered (route : Route) (text : Text)
      (refused : (step limits memory (route.request text)).1.Failed) :
      (step limits memory (route.request text)).2 = memory := by
    rcases step_cases limits memory route text with same | ⟨_, _, _, _, _, assigned⟩
    · exact same
    · rw [assigned] at refused
      exact absurd refused route.answer_assigned
  cases request with
  | line text => exact entered .line text failed
  | command text => exact entered .command text failed
  | calculate text => exact entered .calculate text failed
  | report text => exact entered .report text failed
  | get name => rfl
  | contains name => rfl
  | size => rfl
  | set name value => cases failed
  | assign name operand =>
      cases done : Calculator.assign memory name operand with
      | error fault => simp only [step, done]
      | ok after =>
          rw [step, done] at failed
          cases failed

/-- What may be taken out changed nothing. -/
theorem step_droppable {request : Step}
    (droppable : Droppable request (step limits memory request).1) :
    (step limits memory request).2 = memory := by
  generalize answered : (step limits memory request).1 = answer at droppable
  cases droppable with
  | @plain route text absent =>
      rcases step_cases limits memory route text with same | ⟨passed, _, _, takes, assigns, _⟩
      · exact same
      · obtain ⟨left, right, -, parts, -⟩ := assigns.parts
        exact absurd (Route.mem_of_mem_passed takes (by simp [parts])) absent
  | command meant => exact Calculator.command_memory limits memory _ meant
  | failed request failed =>
      rw [← answered] at failed
      exact step_failed request failed

/-- The requests that are kept are answered as they were among the others. -/
theorem run_kept_of_droppable (memory : Variables) (steps : List Step) (marks : List Bool)
    (aligned : marks.length = steps.length)
    (dropped : ∀ request outcome,
      (false, request, outcome) ∈ marks.zip (steps.zip (run limits memory steps)) →
        Droppable request outcome.1) :
    run limits memory (kept marks steps) = kept marks (run limits memory steps) := by
  induction steps generalizing memory marks with
  | nil =>
      rw [List.length_nil, List.length_eq_zero_iff] at aligned
      rw [aligned]
      rfl
  | cons request rest ih =>
      obtain ⟨mark, behind, rfl⟩ := List.exists_cons_of_length_eq_add_one aligned
      have later := ih (step limits memory request).2 behind (Nat.succ.inj aligned)
        fun other outcome member => dropped other outcome (List.mem_cons_of_mem _ member)
      cases mark with
      | true => simp only [run, kept_true, later]
      | false =>
          have same := step_droppable (dropped request _ (List.mem_cons_self ..))
          simp only [run, kept_false]
          rw [← later, same]

/-- Requests that had no equals sign, were commands or failed may be taken out of a session: the
others get the answers and leave the variables that they did before. A request that is made again
at once is answered in the same way and leaves the same variables. -/
theorem run_kept (limits : Limits) (memory : Variables) :
    (∀ (steps : List Step) (marks : List Bool), marks.length = steps.length →
      (∀ request outcome,
        (false, request, outcome) ∈ marks.zip (steps.zip (run limits memory steps)) →
          Droppable request outcome.1) →
      run limits memory (kept marks steps) = kept marks (run limits memory steps)) ∧
    ∀ request, step limits (step limits memory request).2 request = step limits memory request :=
  ⟨run_kept_of_droppable memory, step_again limits memory⟩

/-- An expression, a command and two failures are taken out. -/
theorem run_kept_ends :
    let steps : List Step := [.line "a = 5".toList, .line "a * 2".toList, .command "/help".toList,
      .report "b = c".toList, .assign "1".toList "2".toList, .calculate "a + 1".toList]
    let memory : Variables := ⟨[(['a'], 5)]⟩
    run {} ⟨[]⟩ (kept [true, false, false, false, false, true] steps) =
      [(.text [], memory), (.value (some 6), memory)] := by
  intro steps memory
  have answered : run {} ⟨[]⟩ steps = [(.text [], memory), (.text "10".toList, memory),
      (.text Calculator.helpText, memory),
      (.report (.ofOutcome (.error (.unknownVariable ['c']))), memory),
      (.refused (.invalidIdentifier ['1']), memory), (.value (some 6), memory)] := by decide
  rw [(run_kept {} ⟨[]⟩).1 steps [true, false, false, false, false, true] rfl, answered]
  · rfl
  intro request outcome member
  rw [answered] at member
  simp only [steps, List.zip_cons_cons, List.zip_nil_left, List.mem_cons, Prod.mk.injEq,
    Bool.false_eq_true, false_and, false_or, true_and, List.not_mem_nil, or_false] at member
  rcases member with ⟨rfl, rfl⟩ | ⟨rfl, rfl⟩ | ⟨rfl, rfl⟩ | ⟨rfl, rfl⟩
  · exact .plain .line (by decide) _
  · exact .command rfl _
  · exact .failed _ rfl
  · exact .failed _ trivial

end Session

end Reckoner
