import Reckoner.CommandLine.Run
import Reckoner.Journal.Line
import Std.Time.DateTime.Timestamp

set_option autoImplicit false

/-!
The program. It fetches arguments, environment and input, and puts out what a run yields; a
dialogue is put out turn by turn.
-/
namespace Reckoner.Main

def environment : IO (String → Option Text) := do
  let names := ["INTCALC_MAX_INPUT_LENGTH", "INTCALC_MAX_EXPONENT", "INTCALC_MAX_RESULT_BITS",
    "INTCALC_LOG_LEVEL", "INTCALC_LOG_FILE"]
  let found ← names.filterMapM fun name => do
    return (← IO.getEnv name).map fun value => (name, value.toList)
  return fun name => found.lookup name

structure Journal where
  path : Option Text
  file : Option IO.FS.Handle

/-- Opens the file of a journal at its end, or says why that is denied. -/
def openJournal (path : Option Text) : IO (Except Text Journal) := do
  try
    let file ← path.mapM fun path => IO.FS.Handle.mk (String.ofList path) .append
    return .ok ⟨path, file⟩
  catch fault => return .error fault.toString.toList

def deliver (journal : Journal) (text : Text) : Place → IO Unit
  | .standardError => do (← IO.getStderr).putStr (String.ofList text)
  | .file _ =>
      journal.file.forM fun handle => do
        handle.putStr (String.ofList text)
        handle.flush

def presentLine (event : Event) : IO (Option Text) :=
  event.entry.mapM fun entry => do
    let now ← Std.Time.Timestamp.now
    let remark := Remark.ofEntry now.toMillisecondsSinceUnixEpoch.val entry
    return match remark.line with
      | .ok line => line
      | .error _ => entry.line

/-- Writes events at the places of the journal, each with its time. No calls are under way that
could be named. -/
def writeJournal (journal : Journal) (events : List Event) : IO Unit :=
  events.forM fun event => do
    let line ← presentLine event
    (Event.deliveries (Place.ofFile journal.path) (fun _ _ => {}) [(event, line)]).forM
      fun delivery => deliver journal delivery.2 delivery.1

def put (text : Text) : IO Unit := do
  let out ← IO.getStdout
  out.putStr (String.ofList text)
  out.flush

def lament (execution : Execution) : IO Unit := do
  (← IO.getStderr).putStr (String.ofList (execution.lastWords {}))

inductive Standing where
  | ongoing (memory : Variables)
  | over (exit : UInt32)

/-- Answers the lines that one read yields. -/
def answer (bounds : Bounds) (request : Request) (setup : JournalSetup)
    (journal : Journal) (memory : Variables) : List Text → IO Standing
  | [] => return .ongoing memory
  | line :: rest => do
      if Dialogue.leaves line then
        put Dialogue.farewell
        return .over 0
      let turn := Dialogue.turn bounds request.shownFormat memory line
      writeJournal journal (CommandLine.journalled setup turn.events)
      put turn.output
      if let some breakdown := turn.breakdown then
        lament (CommandLine.breakOff setup [] [] breakdown)
        return .over 1
      answer bounds request setup journal turn.memory rest

/-- Reads and answers until the input ends, the user leaves or the run breaks down. -/
partial def converse (bounds : Bounds) (request : Request) (setup : JournalSetup)
    (journal : Journal) (memory : Variables) : IO UInt32 := do
  let read ← (← IO.getStdin).getLine
  if read.isEmpty then
    put Dialogue.farewell
    return 0
  match ← answer bounds request setup journal memory (Text.lines read.toList) with
  | .ongoing after => converse bounds request setup journal after
  | .over exit => return exit

def carryOut (journal : Journal) : Start → IO UInt32
  | .finished execution => do
      (← IO.getStderr).putStr (String.ofList execution.complaint)
      writeJournal journal execution.journal
      put execution.output
      lament execution
      return execution.exit.toUInt32
  | .dialogue bounds request setup => do
      writeJournal journal
        (CommandLine.journalled setup [Event.dialogueStarted request.formatTold])
      converse bounds request setup journal Table.empty

end Reckoner.Main

open Reckoner in
def main (arguments : List String) : IO UInt32 := do
  match Settings.read (← Main.environment) with
  | .error fault =>
      (← IO.getStderr).putStr (String.ofList (fault.message ++ ['\n']))
      return 1
  | .ok settings =>
      let start := CommandLine.start settings (arguments.map String.toList)
      match ← Main.openJournal start.journalFile with
      | .ok journal => Main.carryOut journal start
      | .error reason =>
          Main.carryOut ⟨none, none⟩ (CommandLine.launch (fun _ => some reason) start)

