import Reckoner.CommandLine.Dialogue
import Reckoner.CommandLine.HealthCheck
import Reckoner.CommandLine.Request
import Reckoner.CommandLine.Usage
import Reckoner.Journal.Loss

set_option autoImplicit false

/-!
Runs of the program: from settings, arguments and input to output, journal and exit code.
-/
namespace Reckoner

/-- What a run leaves behind. The journal file is there as soon as a request is taken up; the run
ends where it cannot be opened. -/
structure Execution where
  exit : Nat
  output : Text
  complaint : Text := []
  journal : List Event := []
  journalFile : Option Text := none
  unopened : Option Text := none
  breakdown : Option Breakdown := none
  deriving Repr, DecidableEq

/-- A run is over at once, or it goes on as a dialogue. -/
inductive Start where
  | finished (execution : Execution)
  | dialogue (bounds : Bounds) (request : Request) (setup : JournalSetup)
  deriving Repr, DecidableEq

def Start.journalFile : Start → Option Text
  | .finished execution => execution.journalFile
  | .dialogue _ _ setup => setup.file

namespace CommandLine

def version : Text := "1.0.0".toList

/-- The events that a journal takes in. -/
def journalled (setup : JournalSetup) (events : List Event) : List Event :=
  if setup.writesEvents then events else []

def finish (setup : JournalSetup) (exit : Nat) (output : Text) (events : List Event) : Execution :=
  { exit, output, journal := journalled setup events, journalFile := setup.file }

def breakOff (setup : JournalSetup) (output : Text) (events : List Event)
    (breakdown : Breakdown) : Execution :=
  { finish setup 1 output events with breakdown := some breakdown }

/-- One expression, assignment or command by itself. -/
def evaluateOnce (bounds : Bounds) (format : Format) (setup : JournalSetup) (text : Text) :
    Execution :=
  if Calculator.isCommand text then
    let shown := (Calculator.command bounds.limits Table.empty text).1
    finish setup (if text = Calculator.helpCommand ∨ text = Calculator.exitCommand then 0 else 1)
      (if shown.isEmpty then [] else Format.outputLine shown) []
  else if bounds.breaks Table.empty text then
    breakOff setup [] (Calculator.readingEvents text) .exponentNotJudged
  else
    let report := (Calculator.report bounds.limits Table.empty text).1
    finish setup (if report.ok then 0 else 1) (format.output report.record)
      ((Calculator.reportEvents bounds.limits Table.empty text).map bounds.told)

/-- The limits of the settings, with the largest exponent as it was chosen. -/
def boundsOf (limits : Limits) : Choice Int → Bounds
  | .unsaid => ⟨limits, true⟩
  | .withdrawn => .withoutExponents limits
  | .said maxExponent => ⟨{ limits with maxExponent }, true⟩

/-- Takes up a request: the version comes before the health check, and that before anything to
evaluate. -/
def takeUp (settings : Settings) (request : Request) : Start :=
  let setup := JournalSetup.ofSettings settings request.logLevel.value? request.logFile.value?
  let bounds := boundsOf settings.limits request.maxExponent
  if request.version then .finished (finish setup 0 (Format.outputLine version) [])
  else if request.healthCheck then
    .finished (finish setup (if HealthCheck.healthy bounds then 0 else 1)
      (HealthCheck.report bounds) (HealthCheck.events bounds))
  else
    match request.evaluate with
    | .said text => .finished (evaluateOnce bounds request.shownFormat setup text.trim)
    | .withdrawn => .finished (breakOff setup [] [] .nothingToEvaluate)
    | .unsaid => .dialogue bounds request setup

/-- Shows help, unless it cannot be written. -/
def help (settings : Settings) : Execution :=
  match Usage.help settings with
  | .ok output => { exit := 0, output }
  | .error fault => { exit := 1, output := [], breakdown := some (.help fault) }

def start (settings : Settings) (arguments : List Text) : Start :=
  match Request.parse arguments with
  | .error fault => .finished { exit := 2, output := [], complaint := Usage.complaint fault }
  | .ok .help => .finished (help settings)
  | .ok (.request request) => takeUp settings request

def converse (bounds : Bounds) (request : Request) (setup : JournalSetup) (input : Text) :
    Execution :=
  let turns := Dialogue.turns bounds request.shownFormat Table.empty input.lines
  let output := Dialogue.output turns
  let events := Dialogue.events request.formatTold turns
  match Dialogue.breakdown turns with
  | some breakdown => breakOff setup output events breakdown
  | none => finish setup 0 output events

def conclude (input : Text) : Start → Execution
  | .finished execution => execution
  | .dialogue bounds request setup => converse bounds request setup input

/-- Opens the file of the journal, if there is one. The run ends if that is denied, for the reason
that is given for the path. -/
def launch (denied : Text → Option Text) (start : Start) : Start :=
  match start.journalFile.bind denied with
  | some reason => .finished { exit := 1, output := [], unopened := some reason }
  | none => start

def run (settings : Settings) (arguments : List Text) (input : Text)
    (denied : Text → Option Text := fun _ => none) : Execution :=
  conclude input (launch denied (start settings arguments))

end CommandLine

/-- The calls under way where a run loses an event, and where it breaks down. -/
structure Traces where
  records : Nat → Place → Trace := fun _ _ => {}
  last : Text := []

namespace Execution

/-- What the journal of a run brings to a place, if its events make the given lines. -/
def journalAt (execution : Execution) (traces : Traces) (place : Place)
    (lines : List (Option Text)) : Text :=
  place.arrivals (Event.deliveries (Place.ofFile execution.journalFile) traces.records
    (execution.journal.zip lines))

/-- What the journal of a run brings to a place, without times. -/
def received (execution : Execution) (traces : Traces) (place : Place) : Text :=
  execution.journalAt traces place (execution.journal.map Event.line)

/-- What a run writes into the file of its journal. -/
def journalText (execution : Execution) (traces : Traces := {}) : Text :=
  match execution.journalFile with
  | some path => execution.received traces (.file path)
  | none => []

def failure (execution : Execution) : Option Text :=
  execution.unopened.orElse fun _ => execution.breakdown.map Breakdown.shown

/-- What a run that ends before its time writes last. -/
def lastWords (execution : Execution) (traces : Traces) : Text :=
  match execution.failure with
  | some reason =>
      "Traceback (most recent call last):\n".toList ++ traces.last ++ reason ++ ['\n']
  | none => []

/-- What a run writes beside its output: its complaint, or its journal, and its last words. -/
def errorText (execution : Execution) (traces : Traces := {}) : Text :=
  execution.complaint ++ execution.received traces .standardError ++ execution.lastWords traces

end Execution

end Reckoner
