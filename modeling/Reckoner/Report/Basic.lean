import Reckoner.Calculator
import Reckoner.Datum

set_option autoImplicit false

/-!
Reports: what a client is told about one line, as named fields.
-/
namespace Reckoner

/-- Fields in the order in which they were set. -/
abbrev Record := Table Datum

/-- Success with a result or without, or failure with a message and a code. -/
structure Report where
  ok : Bool
  result : Option Text := none
  error : Option Text := none
  errorCode : Option Text := none
  deriving Repr, DecidableEq

namespace Report

def ofOutcome : Except Fault (Option Int) → Report
  | .ok value => { ok := true, result := value.map Decimal.ofInt }
  | .error fault => { ok := false, error := some fault.message, errorCode := some fault.code }

/-- A field, unless there is nothing to put into it. -/
def field (name : String) : Option Text → List (Text × Datum)
  | some content => [(name.toList, .text content)]
  | none => []

/-- The fields of a report that hold something. -/
def record (report : Report) : Record :=
  ⟨("ok".toList, .flag report.ok) :: field "result" report.result ++ field "error" report.error ++
    field "error_code" report.errorCode⟩

/-- A report on one line for a programmer's eye. -/
def describe (report : Report) : Text :=
  if report.ok then
    "EvalResult(ok=True, result=".toList ++ (Datum.ofOption report.result).quoted ++ [')']
  else
    "EvalResult(ok=False, error=".toList ++ (Datum.ofOption report.error).quoted ++
      ", error_code=".toList ++ (Datum.ofOption report.errorCode).quoted ++ [')']

end Report

/-- One line without the blanks around it: the report on it, and the variables after it. -/
def Calculator.report (limits : Limits) (memory : Variables) (text : Text) :
    Report × Variables :=
  match calculate limits memory text.trim with
  | .ok (value, after) => (.ofOutcome (.ok value), after)
  | .error fault => (.ofOutcome (.error fault), memory)

end Reckoner
