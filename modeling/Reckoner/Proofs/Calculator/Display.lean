import Reckoner.Proofs.Calculator.Frailty
import Reckoner.Proofs.Calculator.Result
import Reckoner.Proofs.Number.Canonical

set_option autoImplicit false

/-!
What a line shows. There are five kinds of text that it may show, no two of them overlap, and which
one it is tells what the line came to.
-/
namespace Reckoner

/-- The kinds of text that a line may show. -/
inductive Display where
  | nothing
  | decimal
  | unknownVariable
  | invalidIdentifier
  | invalidExpression
  deriving Repr, DecidableEq

namespace Display

def Fits : Display → Text → Prop
  | .nothing, text => text = []
  | .decimal, text => Decimal.Canonical text
  | .unknownVariable, text => text = "Unknown variable".toList
  | .invalidIdentifier, text => text = "Invalid identifier".toList
  | .invalidExpression, text => text = "Invalid expression".toList

def of : Except Fault (Option Int × Variables) → Display
  | .ok (none, _) => .nothing
  | .ok (some _, _) => .decimal
  | .error (.unknownVariable _) => .unknownVariable
  | .error (.invalidIdentifier _) => .invalidIdentifier
  | .error (.invalidExpression _) => .invalidExpression

/-- The kind of a text. What is none of the other kinds is taken for a decimal. -/
def ofText (text : Text) : Display :=
  if text = [] then .nothing
  else if text = "Unknown variable".toList then .unknownVariable
  else if text = "Invalid identifier".toList then .invalidIdentifier
  else if text = "Invalid expression".toList then .invalidExpression
  else .decimal

/-- A canonical decimal is no message. -/
theorem decimal_ne_message {text : Text} (canonical : Decimal.Canonical text) (fault : Fault) :
    text ≠ fault.message := by
  obtain ⟨c, rest, rfl, starts⟩ := canonical.starts
  intro same
  have lead : some c = fault.message.head? := by rw [← same]; rfl
  have letter : c = 'U' ∨ c = 'I' := by
    cases fault with
    | unknownVariable name => exact .inl (Option.some.inj lead)
    | invalidIdentifier name => exact .inr (Option.some.inj lead)
    | invalidExpression flaw => exact .inr (Option.some.inj lead)
  rcases starts with rfl | digit
  · simp at letter
  · rcases letter with rfl | rfl
    · exact absurd digit (by decide)
    · exact absurd digit (by decide)

theorem ofText_eq {display : Display} {text : Text} (fits : display.Fits text) :
    ofText text = display := by
  cases display with
  | nothing => rw [show text = [] from fits]; rfl
  | unknownVariable => rw [show text = "Unknown variable".toList from fits]; rfl
  | invalidIdentifier => rw [show text = "Invalid identifier".toList from fits]; rfl
  | invalidExpression => rw [show text = "Invalid expression".toList from fits]; rfl
  | decimal =>
      obtain ⟨c, rest, parts, -⟩ := Decimal.Canonical.starts fits
      have occupied : text ≠ [] := by simp [parts]
      have variable_ : text ≠ "Unknown variable".toList :=
        decimal_ne_message fits (.unknownVariable [])
      have identifier : text ≠ "Invalid identifier".toList :=
        decimal_ne_message fits (.invalidIdentifier [])
      have expression : text ≠ "Invalid expression".toList :=
        decimal_ne_message fits (.invalidExpression .missingOperand)
      simp only [ofText, occupied, variable_, identifier, expression, ↓reduceIte]

end Display

namespace Calculator

variable (limits : Limits) (memory : Variables)

theorem line_fits (text : Text) :
    (Display.of (calculate limits memory text.trim)).Fits (line limits memory text).1 := by
  unfold line
  cases calculate limits memory text.trim with
  | ok result =>
      obtain ⟨value, after⟩ := result
      cases value with
      | none => rfl
      | some value => exact Decimal.ofInt_canonical value
  | error fault =>
      cases fault with
      | unknownVariable name => rfl
      | invalidIdentifier name => rfl
      | invalidExpression flaw => rfl

theorem fits_line_iff (text : Text) (display : Display) :
    display.Fits (line limits memory text).1 ↔
      display = .of (calculate limits memory text.trim) := by
  constructor
  · intro fits
    rw [← Display.ofText_eq fits, Display.ofText_eq (line_fits limits memory text)]
  · intro same
    rw [same]
    exact line_fits limits memory text

/-- Nothing is shown for what comes to nothing. -/
theorem line_eq_nil_iff (text : Text) : (line limits memory text).1 = [] ↔
    ∃ after, calculate limits memory text.trim = .ok (none, after) := by
  have shown := fits_line_iff limits memory text .nothing
  refine Iff.trans shown ?_
  cases calculate limits memory text.trim with
  | error fault => cases fault <;> simp [Display.of]
  | ok result =>
      obtain ⟨value, after⟩ := result
      cases value <;> simp [Display.of]

/-- Every text comes to a value, to nothing or to one of three kinds of fault, also on steps that
break down where they can. A fault in a name takes an equals sign. A line shows one of five kinds
of text, by what it comes to, and nothing at all exactly if it is empty, is an assignment, or is an
expression of nested parentheses alone. -/
theorem line_displays (text : Text) :
    ((∃ result, calculate limits memory text = .ok result ∧
          Frail.calculate limits memory text = .ok result) ∨
      ∃ fault, calculate limits memory text = .error fault ∧
          Frail.calculate limits memory text = .error (.fault fault) ∧
          (fault.kind = .invalidExpression ∨ fault.kind = .unknownVariable ∨
            (fault.kind = .invalidIdentifier ∧ '=' ∈ text))) ∧
      (∀ display : Display, display.Fits (line limits memory text).1 ↔
        display = .of (calculate limits memory text.trim)) ∧
      ((line limits memory text).1 = [] ↔
        text.trim = [] ∨ (∃ name value, Assigns limits memory text.trim name value) ∨
          (text.trim.length ≤ limits.maxInputLength ∧ '=' ∉ text.trim ∧ text.trim.Hollow)) := by
  refine ⟨?_, fits_line_iff limits memory text, ?_⟩
  · rw [Frail.calculate_eq]
    cases done : calculate limits memory text with
    | ok result => exact .inl ⟨result, rfl, rfl⟩
    | error fault =>
        refine .inr ⟨fault, rfl, rfl, ?_⟩
        cases fault with
        | unknownVariable name => exact .inr (.inl rfl)
        | invalidExpression flaw => exact .inl rfl
        | invalidIdentifier name =>
            refine .inr (.inr ⟨rfl, ?_⟩)
            by_contra absent
            exact calculate_within limits memory text absent _ done rfl
  · rw [line_eq_nil_iff, calculate_eq_none_iff, Text.isBlank_trim_iff]

end Calculator

end Reckoner
