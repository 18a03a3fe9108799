import Reckoner.Proofs.Operand
import Reckoner.Proofs.Outcome
import Reckoner.Proofs.Process.Session
import Reckoner.Proofs.Session.Route
import Reckoner.Proofs.Table

set_option autoImplicit false

/-!
Assignments. They are the only lines that change variables, each changes one variable, and a line
with an equals sign that is none is refused for the first thing that is wrong with it.
-/
namespace Reckoner

/-- The text is a literal of the value, or a name that has the value. -/
def Text.Denotes (memory : Variables) (text : Text) (value : Int) : Prop :=
  (Text.Signed Text.digit text ∧ literalValue text = value) ∨
    (Text.Signed Text.letter text ∧ memory.get? text = some value)

theorem Text.Denotes.resolve_eq {memory : Variables} {text : Text} {value : Int}
    (denotes : text.Denotes memory value) : (Operand.written text).resolve memory = .ok value := by
  rcases denotes with ⟨digits, rfl⟩ | ⟨letters, present⟩
  · exact Operand.resolve_literal memory ((isLiteral_eq_true_iff text).mpr digits)
  · exact Operand.resolve_name ((isName_eq_true_iff text).mpr letters) present

namespace Calculator

/-- The text gives the name the value: it is cut at its first equals sign, and it is neither
blank nor too long. -/
structure Assigns (limits : Limits) (memory : Variables) (text name : Text) (value : Int) :
    Prop where
  occupied : text.isBlank = false
  short : text.length ≤ limits.maxInputLength
  parts : ∃ left right : Text, '=' ∉ left ∧ text = left ++ '=' :: right ∧ left.trim = name ∧
    Text.Signed Text.letter name ∧ Text.Denotes memory right.trim value

/-- Why a text is refused that has the parts on the two sides of its first equals sign. A text
that is too long is refused for that, else one for its left side if this is no name, and else for
its right side: an unset name, or what is neither a name nor a literal. -/
inductive Refuses (limits : Limits) (memory : Variables) (left right : Text) : Fault → Prop where
  | tooLong (long : limits.maxInputLength < (left ++ '=' :: right).length) :
      Refuses limits memory left right
        (.invalidExpression (.tooLong (left ++ '=' :: right).length))
  | identifier (short : (left ++ '=' :: right).length ≤ limits.maxInputLength)
      (unnamed : ¬ Text.Signed Text.letter left.trim) :
      Refuses limits memory left right (.invalidIdentifier left.trim)
  | unset (short : (left ++ '=' :: right).length ≤ limits.maxInputLength)
      (named : Text.Signed Text.letter left.trim) (name : Text.Signed Text.letter right.trim)
      (absent : memory.get? right.trim = none) :
      Refuses limits memory left right (.unknownVariable right.trim)
  | operand (short : (left ++ '=' :: right).length ≤ limits.maxInputLength)
      (named : Text.Signed Text.letter left.trim) (unnamed : ¬ Text.Signed Text.letter right.trim)
      (other : ¬ Text.Signed Text.digit right.trim) :
      Refuses limits memory left right (.invalidExpression (.notAnOperand right.trim))

variable {limits : Limits} {memory : Variables}

theorem isBlank_append (left right : Text) : Text.isBlank (left ++ '=' :: right) = false :=
  List.all_eq_false.mpr ⟨'=', by simp, by decide⟩

/-- A text with an equals sign is cut at the first one. -/
theorem calculate_append (left right : Text) (absent : '=' ∉ left)
    (short : (left ++ '=' :: right).length ≤ limits.maxInputLength) :
    calculate limits memory (left ++ '=' :: right) =
      (do return (none, ← assign memory left.trim right.trim)) := by
  have occupied := isBlank_append left right
  have inside : ¬ limits.maxInputLength < ((left ++ '=' :: right).length : Int) := by omega
  simp only [calculate, occupied, Bool.false_eq_true, ↓reduceIte, inside,
    Text.splitFirst_append '=' left right absent]

theorem calculate_memory (text : Text) (absent : '=' ∉ text) (value : Option Int)
    (after : Variables) (done : calculate limits memory text = .ok (value, after)) :
    after = memory := by
  simp only [calculate, Text.splitFirst_of_notMem '=' text absent, pure_eq_ok] at done
  split at done
  · cases done
    rfl
  split at done
  · cases done
  · obtain ⟨found, -, same⟩ := (bind_eq_ok_iff _).mp done
    cases same
    rfl

/-- A name on the left side is given what the right side comes to. -/
theorem calculate_named (left right : Text) (absent : '=' ∉ left)
    (short : (left ++ '=' :: right).length ≤ limits.maxInputLength)
    (named : Text.Signed Text.letter left.trim) :
    calculate limits memory (left ++ '=' :: right) = (do
      return (none, memory.set left.trim (← (Operand.written right.trim).resolve memory))) := by
  have isName := (isName_eq_true_iff _).mpr named
  simp only [calculate_append left right absent short, assign, assignedValue, isName, ↓reduceIte,
    bind_assoc, pure_eq_ok, ok_bind]

theorem calculate_of_assigns {text name : Text} {value : Int}
    (assigns : Assigns limits memory text name value) :
    calculate limits memory text = .ok (none, memory.set name value) := by
  obtain ⟨-, short, left, right, absent, rfl, rfl, named, denotes⟩ := assigns
  rw [calculate_named left right absent short named, denotes.resolve_eq]
  rfl

theorem calculate_of_refuses {left right : Text} {fault : Fault} (absent : '=' ∉ left)
    (refuses : Refuses limits memory left right fault) :
    calculate limits memory (left ++ '=' :: right) = .error fault := by
  cases refuses with
  | tooLong long =>
      have occupied := isBlank_append left right
      simp only [calculate, occupied, Bool.false_eq_true, ↓reduceIte, long]
  | identifier short unnamed =>
      rw [← isName_eq_true_iff, Bool.not_eq_true] at unnamed
      rw [calculate_append left right absent short, assign, assignedValue, unnamed]
      rfl
  | unset short named name missing =>
      rw [← isName_eq_true_iff] at name
      rw [calculate_named left right absent short named, Operand.resolve_unset name missing]
      rfl
  | operand short named unnamed other =>
      rw [← isName_eq_true_iff, Bool.not_eq_true] at unnamed
      rw [← isLiteral_eq_true_iff, Bool.not_eq_true] at other
      rw [calculate_named left right absent short named,
        Operand.resolve_neither memory unnamed other]
      rfl

/-- A text with an equals sign is an assignment, or there is a reason to refuse it. -/
theorem assigns_or_refuses (limits : Limits) (memory : Variables) (left right : Text)
    (absent : '=' ∉ left) :
    (∃ name value, Assigns limits memory (left ++ '=' :: right) name value) ∨
      ∃ fault, Refuses limits memory left right fault := by
  by_cases long : limits.maxInputLength < (left ++ '=' :: right).length
  · exact .inr ⟨_, .tooLong long⟩
  have short : (left ++ '=' :: right).length ≤ limits.maxInputLength := by omega
  by_cases named : Text.Signed Text.letter left.trim
  swap
  · exact .inr ⟨_, .identifier short named⟩
  have assigns (value : Int) (denotes : Text.Denotes memory right.trim value) :
      Assigns limits memory (left ++ '=' :: right) left.trim value :=
    ⟨isBlank_append left right, short, left, right, absent, rfl, rfl, named, denotes⟩
  by_cases name : Text.Signed Text.letter right.trim
  · cases found : memory.get? right.trim with
    | none => exact .inr ⟨_, .unset short named name found⟩
    | some value => exact .inl ⟨_, _, assigns value (.inr ⟨name, found⟩)⟩
  by_cases literal : Text.Signed Text.digit right.trim
  · exact .inl ⟨_, _, assigns _ (.inl ⟨literal, rfl⟩)⟩
  · exact .inr ⟨_, .operand short named name literal⟩

end Calculator

/-- The message and the code that a fault is known by. -/
inductive Fault.Worded : Fault → Text → Text → Prop where
  | unknownVariable (name : Text) :
      Worded (.unknownVariable name) "Unknown variable".toList "UNKNOWN_VARIABLE".toList
  | invalidIdentifier (name : Text) :
      Worded (.invalidIdentifier name) "Invalid identifier".toList "INVALID_IDENTIFIER".toList
  | invalidExpression (flaw : Flaw) :
      Worded (.invalidExpression flaw) "Invalid expression".toList "INVALID_EXPRESSION".toList

theorem Fault.worded (fault : Fault) : fault.Worded fault.message fault.code := by
  cases fault with
  | unknownVariable name => exact .unknownVariable name
  | invalidIdentifier name => exact .invalidIdentifier name
  | invalidExpression flaw => exact .invalidExpression flaw

namespace Route

/-- The route answers that a line was an assignment: it succeeds, and there is nothing to show. -/
inductive Assigned : Route → Answer → Prop where
  | line : Assigned .line (.text [])
  | command : Assigned .command (.text [])
  | calculate : Assigned .calculate (.value none)
  | report {report : Report} (ok : report.ok = true) (result : report.result = none)
      (error : report.error = none) (errorCode : report.errorCode = none) :
      Assigned .report (.report report)

/-- The route answers that a line was refused, in the words for the fault. -/
inductive Refused (fault : Fault) : Route → Answer → Prop where
  | line {message code : Text} (worded : fault.Worded message code) :
      Refused fault .line (.text message)
  | command {message code : Text} (worded : fault.Worded message code) :
      Refused fault .command (.text message)
  | calculate : Refused fault .calculate (.refused fault)
  | report {report : Report} {message code : Text} (worded : fault.Worded message code)
      (ok : report.ok = false) (result : report.result = none)
      (error : report.error = some message) (errorCode : report.errorCode = some code) :
      Refused fault .report (.report report)

theorem assigned_answer (route : Route) : route.Assigned (route.answer (.ok none)) := by
  cases route with
  | line => exact .line
  | command => exact .command
  | calculate => exact .calculate
  | report => exact .report rfl rfl rfl rfl

theorem refused_answer (route : Route) (fault : Fault) :
    route.Refused fault (route.answer (.error fault)) := by
  cases route with
  | line => exact .line fault.worded
  | command => exact .command fault.worded
  | calculate => exact .calculate
  | report => exact .report fault.worded rfl rfl rfl rfl

end Route

namespace Session

variable (limits : Limits) (memory : Variables) (route : Route) (text : Text)

theorem step_of_assigns {passed name : Text} {value : Int}
    (takes : route.passed text = some passed)
    (assigns : Calculator.Assigns limits memory passed name value) :
    step limits memory (route.request text) = (route.answer (.ok none), memory.set name value) := by
  rw [step_of_passed limits memory route text passed takes, Calculator.calculate_of_assigns assigns]

/-- What is no assignment leaves the variables as they are, and is refused if it has an equals
sign. -/
theorem step_of_unassigned (unassigned : ∀ passed name value, route.passed text = some passed →
      ¬ Calculator.Assigns limits memory passed name value) :
    (step limits memory (route.request text)).2 = memory ∧
      ∀ passed, route.passed text = some passed → '=' ∈ passed →
        ∃ (left right : Text) (fault : Fault), '=' ∉ left ∧ passed = left ++ '=' :: right ∧
          Calculator.Refuses limits memory left right fault ∧
          (step limits memory (route.request text)).1 = route.answer (.error fault) := by
  cases takes : route.passed text with
  | none => exact ⟨step_of_command limits memory route text takes, by simp⟩
  | some passed =>
      rw [step_of_passed limits memory route text passed takes]
      by_cases equals : '=' ∈ passed
      · obtain ⟨left, right, rfl, absent⟩ := List.eq_append_cons_of_mem equals
        rcases Calculator.assigns_or_refuses limits memory left right absent with
          ⟨name, value, assigns⟩ | ⟨fault, refuses⟩
        · exact absurd assigns (unassigned _ name value takes)
        rw [Calculator.calculate_of_refuses absent refuses]
        refine ⟨rfl, ?_⟩
        intro other same _
        cases same
        exact ⟨left, right, fault, absent, rfl, refuses, rfl⟩
      · refine ⟨?_, ?_⟩
        · cases done : Calculator.calculate limits memory passed with
          | ok result => exact Calculator.calculate_memory passed equals result.1 result.2 done
          | error fault => rfl
        · intro other same member
          cases same
          exact absurd member equals

end Session

namespace Work

/-- What a line does to the variables that it is worked out on, whichever way it enters. An
assignment succeeds without a result and rebinds its name. Everything else leaves the whole process
as it is, also where it is refused, and if it has an equals sign and is no command, it is. -/
theorem step_assignment (process : Process) (address : Nat) (route : Route) (text : Text) :
    let limits := process.limits
    let memory := process.memory address
    let stepped := (step address (route.request text)).run process
    (∀ passed name value, route.passed text = some passed →
      Calculator.Assigns limits memory passed name value →
      ∃ answer after, memory.Rebinds after name value ∧ route.Assigned answer ∧
        stepped = .ok answer (process.write address after) ∧
        Session.step limits memory (route.request text) = (answer, after)) ∧
    ((∀ passed name value, route.passed text = some passed →
        ¬ Calculator.Assigns limits memory passed name value) →
      ∃ answer, stepped = .ok answer process ∧
        Session.step limits memory (route.request text) = (answer, memory) ∧
        ∀ passed, route.passed text = some passed → '=' ∈ passed →
          ∃ (left right : Text) (fault : Fault), '=' ∉ left ∧ passed = left ++ '=' :: right ∧
            Calculator.Refuses limits memory left right fault ∧ route.Refused fault answer) := by
  intro limits memory stepped
  have runs := step_run process address (route.request text)
  constructor
  · intro passed name value takes assigns
    have done := Session.step_of_assigns limits memory route text takes assigns
    refine ⟨_, memory.set name value, memory.set_rebinds name value, route.assigned_answer, ?_,
      done⟩
    rw [done] at runs
    exact runs
  · intro unassigned
    obtain ⟨same, refused⟩ := Session.step_of_unassigned limits memory route text unassigned
    refine ⟨(Session.step limits memory (route.request text)).1, ?_, Prod.ext rfl same, ?_⟩
    · rw [same, process.write_same] at runs
      exact runs
    · intro passed takes equals
      obtain ⟨left, right, fault, absent, parts, refuses, answered⟩ := refused passed takes equals
      exact ⟨left, right, fault, absent, parts, refuses, answered ▸ route.refused_answer fault⟩

/-- A name is given the value of another name, and a sum is refused. -/
theorem step_assignment_operand :
    let memory : Variables := ⟨[(['x'], 7)]⟩
    let process : Process := ⟨{}, 4300, fun _ => memory, 1⟩
    let report : Report :=
      { ok := false, error := some "Invalid expression".toList,
        errorCode := some "INVALID_EXPRESSION".toList }
    (Route.command.passed " y = x ".toList = some "y = x".toList ∧
      Calculator.Assigns {} memory "y = x".toList ['y'] 7 ∧
      (step 0 (.command " y = x ".toList)).run process =
        .ok (.text []) (process.write 0 ⟨[(['x'], 7), (['y'], 7)]⟩)) ∧
    ((∀ passed name value, Route.report.passed "y = x+1".toList = some passed →
        ¬ Calculator.Assigns {} memory passed name value) ∧
      (step 0 (.report "y = x+1".toList)).run process = .ok (.report report) process) := by
  intro memory process report
  have passed : Route.command.passed " y = x ".toList = some "y = x".toList := by decide
  have assigns : Calculator.Assigns {} memory "y = x".toList ['y'] 7 := by
    refine ⟨by decide, by decide, "y ".toList, " x".toList, by decide, by decide, by decide, ?_, ?_⟩
    · exact (isName_eq_true_iff ['y']).mp (by decide)
    · exact .inr ⟨(isName_eq_true_iff ['x']).mp (by decide), by decide⟩
  have unassigned (given name : Text) (value : Int)
      (takes : Route.report.passed "y = x+1".toList = some given) :
      ¬ Calculator.Assigns {} memory given name value := by
    intro assigns
    obtain rfl := Option.some.inj takes
    have done := Calculator.calculate_of_assigns assigns
    have refused : Calculator.calculate {} memory (Text.trim "y = x+1".toList) =
        .error (.invalidExpression (.notAnOperand "x+1".toList)) := by decide
    rw [refused] at done
    cases done
  obtain ⟨answer, after, -, -, stepped, done⟩ :=
    (step_assignment process 0 .command " y = x ".toList).1 _ _ _ passed assigns
  obtain ⟨refusal, left, told, -⟩ :=
    (step_assignment process 0 .report "y = x+1".toList).2 unassigned
  have written : Session.step {} memory (.command " y = x ".toList) =
      (.text [], ⟨[(['x'], 7), (['y'], 7)]⟩) := by decide
  have reported : Session.step {} memory (.report "y = x+1".toList) = (.report report, memory) := by
    decide
  obtain ⟨rfl, rfl⟩ := Prod.mk.inj (written.symm.trans done)
  obtain ⟨rfl, -⟩ := Prod.mk.inj (reported.symm.trans told)
  exact ⟨⟨passed, assigns, stepped⟩, unassigned, left⟩

end Work

end Reckoner
