import Reckoner.Report.Basic

set_option autoImplicit false

/-!
Sessions: steps on one calculator, and on several that have their own variables or share them.
-/
namespace Reckoner

inductive Step where
  | line (text : Text)
  | command (text : Text)
  | calculate (text : Text)
  | assign (name operand : Text)
  | report (text : Text)
  | set (name : Text) (value : Int)
  | get (name : Text)
  | contains (name : Text)
  | size
  deriving Repr, DecidableEq

inductive Answer where
  | text (content : Text)
  | value (value : Option Int)
  | done
  | report (report : Report)
  | flag (value : Bool)
  | count (value : Nat)
  | refused (fault : Fault)
  deriving Repr, DecidableEq

namespace Session

/-- One step: its answer, and the variables after it. -/
def step (limits : Limits) (memory : Variables) : Step → Answer × Variables
  | .line text =>
      let (shown, after) := Calculator.line limits memory text
      (.text shown, after)
  | .command text =>
      let (shown, after) := Calculator.command limits memory text
      (.text shown, after)
  | .calculate text =>
      match Calculator.calculate limits memory text with
      | .ok (value, after) => (.value value, after)
      | .error fault => (.refused fault, memory)
  | .assign name operand =>
      match Calculator.assign memory name operand with
      | .ok after => (.done, after)
      | .error fault => (.refused fault, memory)
  | .report text =>
      let (report, after) := Calculator.report limits memory text
      (.report report, after)
  | .set name value => (.done, memory.set name value)
  | .get name => (.value (memory.get? name), memory)
  | .contains name => (.flag (memory.contains name), memory)
  | .size => (.count memory.size, memory)

/-- The steps of a session, each with its answer and the variables after it. -/
def run (limits : Limits) (memory : Variables) : List Step → List (Answer × Variables)
  | [] => []
  | first :: rest =>
      let (answer, after) := step limits memory first
      (answer, after) :: run limits after rest

end Session

/-- Several calculators. Each works on the variables at its seat, and calculators at one seat
share their variables. -/
structure Ensemble where
  seat : Nat → Nat
  memory : Nat → Variables

namespace Ensemble

def apart (memory : Nat → Variables) : Ensemble := ⟨id, memory⟩

def shared (memory : Variables) : Ensemble := ⟨fun _ => 0, fun _ => memory⟩

/-- One step on one of the calculators: its answer, its variables after it, and the ensemble. -/
def step (limits : Limits) (ensemble : Ensemble) (calculator : Nat) (request : Step) :
    (Answer × Variables) × Ensemble :=
  let seat := ensemble.seat calculator
  let (answer, after) := Session.step limits (ensemble.memory seat) request
  ((answer, after),
    { ensemble with memory := fun other => if other = seat then after else ensemble.memory other })

/-- Steps on numbered calculators, each with its answer and the variables of its calculator. -/
def run (limits : Limits) (ensemble : Ensemble) : List (Nat × Step) → List (Answer × Variables)
  | [] => []
  | (calculator, request) :: rest =>
      let (answer, after) := step limits ensemble calculator request
      answer :: run limits after rest

end Ensemble

end Reckoner
