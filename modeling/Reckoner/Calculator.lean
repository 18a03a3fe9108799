import Reckoner.Evaluation
import Reckoner.Text.Blank
import Reckoner.Token.PostOrder

set_option autoImplicit false

/-!
The calculator. A line is an assignment if it holds an equals sign, else an expression. A line
that is refused changes no variable, and an expression never does.
-/
namespace Reckoner.Calculator

def postOrder (text : Text) : Except Fault (List Token) := do
  PostOrder.ofTokens (← Token.scan text)

/-- The value of an expression; none if it has no operand. -/
def expression (limits : Limits) (memory : Variables) (text : Text) :
    Except Fault (Option Int) := do
  Evaluation.evaluate limits memory (← postOrder text)

/-- The value that a name is to be given: that of a single operand. -/
def assignedValue (memory : Variables) (name operand : Text) : Except Fault Int :=
  if isName name then (Operand.written operand).resolve memory
  else .error (.invalidIdentifier name)

def assign (memory : Variables) (name operand : Text) : Except Fault Variables := do
  return memory.set name (← assignedValue memory name operand)

/-- One line as it stands: its value, if it has one, and the variables after it. -/
def calculate (limits : Limits) (memory : Variables) (text : Text) :
    Except Fault (Option Int × Variables) :=
  if text.isBlank then .ok (none, memory)
  else if limits.maxInputLength < text.length then
    .error (.invalidExpression (.tooLong text.length))
  else
    match text.splitFirst '=' with
    | some (name, operand) => do return (none, ← assign memory name.trim operand.trim)
    | none => do return (← expression limits memory text, memory)

/-- A value in decimal; nothing if there is no value. -/
def showValue : Option Int → Text
  | none => []
  | some value => Decimal.ofInt value

/-- One line without the blanks around it: the text to show, and the variables after it. -/
def line (limits : Limits) (memory : Variables) (text : Text) : Text × Variables :=
  match calculate limits memory text.trim with
  | .ok (value, after) => (showValue value, after)
  | .error fault => (fault.message, memory)

def helpCommand : Text := "/help".toList

def exitCommand : Text := "/exit".toList

def helpText : Text :=
  "The program calculates operations with integer numbers and variables (+ - * / ^).".toList

def isCommand : Text → Bool
  | '/' :: _ => true
  | _ => false

/-- A command, or a line if it is none: the text to show, and the variables after it. -/
def command (limits : Limits) (memory : Variables) (text : Text) : Text × Variables :=
  if text.trim = helpCommand then (helpText, memory)
  else if text.trim = exitCommand then ([], memory)
  else if isCommand text.trim then (FaultKind.unknownCommand.message, memory)
  else line limits memory text.trim

end Reckoner.Calculator
