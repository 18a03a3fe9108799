import Reckoner.Text.Basic

set_option autoImplicit false

/-!
Faults. A fault is the reason why a line was refused; its kind is all that a client is told, as
a message for people and a code for programs.
-/
namespace Reckoner

/-- What is wrong with an expression. -/
inductive Flaw where
  | tooLong (length : Nat)
  | repeatedOperator
  | unbalancedGroups
  | missingOperand
  | notAnOperand (text : Text)
  | zeroDivisor
  | exponentOutOfRange (exponent : Int)
  | resultTooLarge (bits : Nat)
  deriving Repr, DecidableEq

/-- Why a line was refused. -/
inductive Fault where
  | unknownVariable (name : Text)
  | invalidIdentifier (name : Text)
  | invalidExpression (flaw : Flaw)
  deriving Repr, DecidableEq

/-- The kinds of fault that a client can tell apart. -/
inductive FaultKind where
  | calculator
  | unknownVariable
  | invalidIdentifier
  | invalidExpression
  | unknownCommand
  deriving Repr, DecidableEq

namespace FaultKind

/-- What people are told. -/
def message : FaultKind → Text
  | .calculator => "Calculator error".toList
  | .unknownVariable => "Unknown variable".toList
  | .invalidIdentifier => "Invalid identifier".toList
  | .invalidExpression => "Invalid expression".toList
  | .unknownCommand => "Unknown command".toList

/-- What programs are told. -/
def code : FaultKind → Text
  | .calculator => "CALCULATOR_ERROR".toList
  | .unknownVariable => "UNKNOWN_VARIABLE".toList
  | .invalidIdentifier => "INVALID_IDENTIFIER".toList
  | .invalidExpression => "INVALID_EXPRESSION".toList
  | .unknownCommand => "UNKNOWN_COMMAND".toList

end FaultKind

structure Notice where
  message : Text
  code : Text
  deriving Repr, DecidableEq

namespace Notice

/-- A chosen text, or the usual one where none was chosen or the choice is empty. -/
def choose (choice : Option Text) (usual : Text) : Text :=
  match choice with
  | some (c :: rest) => c :: rest
  | _ => usual

/-- The notice of a kind of fault, in words of one's own where they are given. -/
def ofKind (kind : FaultKind) (message code : Option Text) : Notice :=
  ⟨choose message kind.message, choose code kind.code⟩

end Notice

namespace Fault

def kind : Fault → FaultKind
  | .unknownVariable _ => .unknownVariable
  | .invalidIdentifier _ => .invalidIdentifier
  | .invalidExpression _ => .invalidExpression

def message (fault : Fault) : Text := fault.kind.message

def code (fault : Fault) : Text := fault.kind.code

end Fault

end Reckoner
