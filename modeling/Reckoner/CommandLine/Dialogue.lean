import Reckoner.CommandLine.Breakdown
import Reckoner.Report.Json
import Reckoner.Text.Lines

set_option autoImplicit false

/-!
Dialogues: a user types lines, and one calculator answers each until the user leaves or a line
breaks the run.
-/
namespace Reckoner

/-- What comes of one line of a dialogue. -/
structure Turn where
  output : Text
  memory : Variables
  events : List Event
  breakdown : Option Breakdown := none
  deriving Repr, DecidableEq

namespace Dialogue

def leaves (line : Text) : Bool := line.trim == Calculator.exitCommand

/-- A text to show, on a line of its own unless there is nothing to see. -/
def shownLine (text : Text) : Text := if text.isBlank then [] else Format.outputLine text

/-- Answers a line that does not break the run. Commands are answered in words in either
format. -/
def reply (limits : Limits) (format : Format) (memory : Variables) (line : Text) : Turn :=
  if format = .json ∧ Calculator.isCommand line.trim = false then
    let (report, after) := Calculator.report limits memory line
    { output := format.output report.record, memory := after,
      events := Calculator.reportEvents limits memory line }
  else
    let (shown, after) := Calculator.command limits memory line
    { output := shownLine shown, memory := after,
      events := Calculator.commandEvents limits memory line }

def turn (bounds : Bounds) (format : Format) (memory : Variables) (line : Text) : Turn :=
  if bounds.answerBreaks memory line then
    { output := [], memory, events := Calculator.readingEvents line.trim,
      breakdown := some .exponentNotJudged }
  else
    let answered := reply bounds.limits format memory line
    { answered with events := answered.events.map bounds.told }

def turns (bounds : Bounds) (format : Format) (memory : Variables) : List Text → List Turn
  | [] => []
  | line :: rest =>
      if leaves line then []
      else
        let first := turn bounds format memory line
        if first.breakdown.isSome then [first]
        else first :: turns bounds format first.memory rest

def farewell : Text := Format.outputLine "Bye!".toList

def breakdown (turns : List Turn) : Option Breakdown := turns.findSome? Turn.breakdown

/-- Everything that a dialogue shows. After a breakdown there are no last words. -/
def output (turns : List Turn) : Text :=
  turns.flatMap Turn.output ++ if (breakdown turns).isSome then [] else farewell

/-- Everything that is told of a dialogue, in which the form of results has the given name. -/
def events (format : Text) (turns : List Turn) : List Event :=
  .dialogueStarted format :: turns.flatMap Turn.events

end Dialogue

end Reckoner
