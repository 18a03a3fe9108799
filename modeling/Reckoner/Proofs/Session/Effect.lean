import Reckoner.Proofs.Session.Assignment

set_option autoImplicit false

/-!
What a request leaves behind. Only assignments change the variables, and a request that is made
again at once is answered again in the same way.
-/
namespace Reckoner

namespace Text.Denotes

variable {memory : Variables} {text : Text} {value : Int}

theorem of_resolve (resolved : (Operand.written text).resolve memory = .ok value) :
    text.Denotes memory value := by
  simp only [Operand.resolve] at resolved
  split at resolved
  · next named =>
      split at resolved
      · next found =>
          cases resolved
          exact .inr ⟨(isName_eq_true_iff text).mp named, found⟩
      · cases resolved
  split at resolved
  · next literal =>
      cases resolved
      exact .inl ⟨(isLiteral_eq_true_iff text).mp literal, rfl⟩
  · cases resolved

/-- An operand keeps its value when a name is given that value, even if it is that name. -/
theorem set (denotes : text.Denotes memory value) (name : Text) :
    text.Denotes (memory.set name value) value := by
  refine denotes.imp_right fun present => ⟨present.1, ?_⟩
  rw [Table.get?_set, present.2, ite_self]

end Text.Denotes

namespace Calculator

variable {limits : Limits} {memory : Variables}

theorem assign_eq_ok_iff (name operand : Text) (after : Variables) :
    assign memory name operand = .ok after ↔ isName name = true ∧ ∃ value,
      (Operand.written operand).resolve memory = .ok value ∧ after = memory.set name value := by
  simp only [assign, assignedValue, bind_eq_ok_iff, pure_eq_ok, Except.ok.injEq]
  cases isName name with
  | true => simp [eq_comm]
  | false => simp

theorem assign_assign {name operand : Text} {after : Variables}
    (assigned : assign memory name operand = .ok after) :
    assign after name operand = .ok after := by
  rw [assign_eq_ok_iff] at assigned ⊢
  obtain ⟨named, value, resolved, rfl⟩ := assigned
  refine ⟨named, value, ((Text.Denotes.of_resolve resolved).set name).resolve_eq, ?_⟩
  exact (Table.set_set memory name value value).symm

theorem Assigns.again {text name : Text} {value : Int}
    (assigns : Assigns limits memory text name value) :
    Assigns limits (memory.set name value) text name value := by
  obtain ⟨occupied, short, left, right, absent, parts, trimmed, named, denotes⟩ := assigns
  exact ⟨occupied, short, left, right, absent, parts, trimmed, named, denotes.set name⟩

theorem calculate_cases {text : Text} {value : Option Int} {after : Variables}
    (done : calculate limits memory text = .ok (value, after)) :
    after = memory ∨ ∃ name content, Assigns limits memory text name content ∧ value = none ∧
      after = memory.set name content := by
  by_cases equals : '=' ∈ text
  · obtain ⟨left, right, rfl, absent⟩ := List.eq_append_cons_of_mem equals
    rcases assigns_or_refuses limits memory left right absent with
      ⟨name, content, assigns⟩ | ⟨fault, refuses⟩
    · rw [calculate_of_assigns assigns] at done
      cases done
      exact .inr ⟨name, content, assigns, rfl, rfl⟩
    · rw [calculate_of_refuses absent refuses] at done
      cases done
  · exact .inl (calculate_memory text equals value after done)

end Calculator

namespace Session

variable (limits : Limits) (memory : Variables)

/-- A line is a successful assignment, or it leaves the variables as they are. -/
theorem step_cases (route : Route) (text : Text) :
    (step limits memory (route.request text)).2 = memory ∨
      ∃ passed name content, route.passed text = some passed ∧
        Calculator.Assigns limits memory passed name content ∧
        step limits memory (route.request text) =
          (route.answer (.ok none), memory.set name content) := by
  cases takes : route.passed text with
  | none => exact .inl (step_of_command limits memory route text takes)
  | some passed =>
      have taken := step_of_passed limits memory route text passed takes
      cases done : Calculator.calculate limits memory passed with
      | error fault => exact .inl (by rw [taken, done])
      | ok result =>
          obtain ⟨value, after⟩ := result
          rw [done] at taken
          rcases Calculator.calculate_cases done with rfl | ⟨name, content, assigns, rfl, rfl⟩
          · exact .inl (by rw [taken])
          · exact .inr ⟨passed, name, content, rfl, assigns, taken⟩

theorem route_again (route : Route) (text : Text) :
    step limits (step limits memory (route.request text)).2 (route.request text) =
      step limits memory (route.request text) := by
  rcases step_cases limits memory route text with
    same | ⟨passed, name, content, takes, assigns, assigned⟩
  · rw [same]
  · rw [assigned, step_of_passed limits _ route text passed takes,
      Calculator.calculate_of_assigns assigns.again, Table.set_set]

/-- A request that is made twice is answered twice in the same way. -/
theorem step_again (request : Step) :
    step limits (step limits memory request).2 request = step limits memory request := by
  cases request with
  | line text => exact route_again limits memory .line text
  | command text => exact route_again limits memory .command text
  | calculate text => exact route_again limits memory .calculate text
  | report text => exact route_again limits memory .report text
  | get name => rfl
  | contains name => rfl
  | size => rfl
  | set name value => simp only [step, Table.set_set]
  | assign name operand =>
      cases done : Calculator.assign memory name operand with
      | error fault => simp only [step, done]
      | ok after => simp only [step, done, Calculator.assign_assign done]

end Session

end Reckoner
