import Reckoner.Calculator
import Reckoner.Journal.Entry
import Reckoner.Number.Numeral

set_option autoImplicit false

/-!
Events: what the calculator tells of its work, stage by stage. Which events a line has is read
off what its stages yield, so that telling them cannot change any result.
-/
namespace Reckoner

/-- What the calculator can tell. The limit on exponents is missing where none is left. -/
inductive Event where
  | scanned (text : Text) (tokens : List Token)
  | reordered (tokens : List Token)
  | exponentRefused (limit : Option Int)
  | powerRefused (bits : Nat) (limit : Int)
  | operandsIgnored (count : Nat)
  | inputRefused (length : Nat)
  | assigned (name : Text) (bits : Nat)
  | lineFailed (text : Text) (fault : Fault)
  | evaluationFailed (text : Text) (fault : Fault)
  | dialogueStarted (format : Text)
  deriving Repr, DecidableEq

namespace Event

def source : Event → Text
  | .scanned _ _ => "lexer".toList
  | .reordered _ => "parser".toList
  | .exponentRefused _ => "evaluator".toList
  | .powerRefused _ _ => "evaluator".toList
  | .operandsIgnored _ => "evaluator".toList
  | .inputRefused _ => "calculator".toList
  | .assigned _ _ => "calculator".toList
  | .lineFailed _ _ => "calculator".toList
  | .evaluationFailed _ _ => "api".toList
  | .dialogueStarted _ => "cli".toList

/-- What is told of an event. Texts that a user wrote are quoted. There is no message if it would
name a limit that is not left, or a number with too many digits. -/
def message : Event → Option Text
  | .scanned text tokens =>
      "Tokens for ".toList ++ text.quoted ++ ": ".toList ++ Token.renderAll tokens
  | .reordered tokens => "Postfix: ".toList ++ Token.renderAll tokens
  | .exponentRefused limit => do
      return "Exponent outside 0..".toList ++ (← Numeral.writeShort? (← limit))
  | .powerRefused bits limit => do
      return "Power result of ~".toList ++ (← Numeral.writeShort? bits) ++
        " bits exceeds ".toList ++ (← Numeral.writeShort? limit)
  | .operandsIgnored count => do
      return "Ignoring ".toList ++ (← Numeral.writeShort? count) ++ " leftover operand(s)".toList
  | .inputRefused length => do
      return "Input of ".toList ++ (← Numeral.writeShort? length) ++
        " characters exceeds limit".toList
  | .assigned name bits => do
      return "Assigned ".toList ++ name ++ " (".toList ++ (← Numeral.writeShort? bits) ++
        " bits)".toList
  | .lineFailed text fault =>
      "Line ".toList ++ text.quoted ++ " failed: ".toList ++ fault.message
  | .evaluationFailed text fault =>
      "Evaluation of ".toList ++ text.quoted ++ " failed: ".toList ++ fault.message
  | .dialogueStarted format => "Starting REPL (format=".toList ++ format ++ [')']

def code : Event → Option Text
  | .lineFailed _ fault => some fault.code
  | .evaluationFailed _ fault => some fault.code
  | _ => none

/-- An event as an entry of the journal. What has no message leaves no entry. -/
def entry (event : Event) : Option Entry :=
  event.message.map fun message => ⟨Level.debug, event.source, message, event.code⟩

end Event

namespace Calculator

def evaluationEvents (limits : Limits) (memory : Variables) (tokens : List Token) :
    List Event :=
  match Evaluation.run limits memory [] tokens with
  | .error (.invalidExpression (.exponentOutOfRange _)) =>
      [.exponentRefused (some limits.maxExponent)]
  | .error (.invalidExpression (.resultTooLarge bits)) =>
      [.powerRefused bits limits.maxResultBits]
  | .error _ => []
  | .ok stack => if 1 < stack.length then [.operandsIgnored (stack.length - 1)] else []

def readingEvents (text : Text) : List Event :=
  match Token.scan text with
  | .error _ => []
  | .ok tokens =>
      .scanned text tokens ::
        match PostOrder.ofTokens tokens with
        | .error _ => []
        | .ok ordered => [.reordered ordered]

def expressionEvents (limits : Limits) (memory : Variables) (text : Text) : List Event :=
  readingEvents text ++
    match postOrder text with
    | .error _ => []
    | .ok ordered => evaluationEvents limits memory ordered

def assignmentEvents (memory : Variables) (name operand : Text) : List Event :=
  match assignedValue memory name operand with
  | .ok value => [.assigned name (bitLength value)]
  | .error _ => []

/-- What is told while a line is worked out as it stands. -/
def calculationEvents (limits : Limits) (memory : Variables) (text : Text) : List Event :=
  if text.isBlank then []
  else if limits.maxInputLength < text.length then [.inputRefused text.length]
  else
    match text.splitFirst '=' with
    | some (name, operand) => assignmentEvents memory name.trim operand.trim
    | none => expressionEvents limits memory text

/-- What is told of a line: how it was worked out, and last how it failed, if it did. -/
def lineEvents (limits : Limits) (memory : Variables) (text : Text) : List Event :=
  calculationEvents limits memory text.trim ++
    match calculate limits memory text.trim with
    | .ok _ => []
    | .error fault => [.lineFailed text fault]

/-- What is told of a line that a report is asked on. -/
def reportEvents (limits : Limits) (memory : Variables) (text : Text) : List Event :=
  calculationEvents limits memory text.trim ++
    match calculate limits memory text.trim with
    | .ok _ => []
    | .error fault => [.evaluationFailed text fault]

/-- What is told of a command: nothing, unless it is a line. -/
def commandEvents (limits : Limits) (memory : Variables) (text : Text) : List Event :=
  if isCommand text.trim then [] else lineEvents limits memory text.trim

end Calculator

end Reckoner
