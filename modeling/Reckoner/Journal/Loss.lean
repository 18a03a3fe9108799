import Reckoner.Journal.Event

set_option autoImplicit false

/-!
Losses: what standard error is told of an event that leaves no entry. That names the calls under
way, which depend on where the program is installed and are left open here.
-/
namespace Reckoner

/-- The calls under way at a loss: those from where it is noticed down to the fault, and those from
the start of the program to where the event is told. -/
structure Trace where
  inner : Text := []
  outer : Text := []
  deriving Repr, DecidableEq

namespace Event

/-- Why an event leaves no entry: the limit that it would name is none, or one of its numbers has
too many digits. -/
def lossReason : Event → Text
  | .exponentRefused none => "TypeError: %d format: a real number is required, not list".toList
  | _ =>
      "ValueError: Exceeds the limit (".toList ++ Decimal.ofNat Numeral.maxDigits ++
        (" digits) for integer string conversion; use sys.set_int_max_str_digits() " ++
          "to increase the limit").toList

/-- The event in raw form. Numbers with too many digits cannot be shown so either. -/
def lossRemains : Event → Text
  | .exponentRefused none => "Message: 'Exponent outside 0..%d'\nArguments: ([],)\n".toList
  | _ =>
      ("Unable to print the message and arguments - possible formatting error.\n" ++
        "Use the traceback above to help find the error.\n").toList

def lossNotice (event : Event) (trace : Trace) : Text :=
  "--- Logging error ---\nTraceback (most recent call last):\n".toList ++ trace.inner ++
    event.lossReason ++ "\nCall stack:\n".toList ++ trace.outer ++ event.lossRemains

/-- The line of an event, but for the time before it. -/
def line (event : Event) : Option Text := event.entry.map Entry.line

/-- Events with the lines made of them, as they come to the places of a journal. The calls under way
may differ from one event and one place to the next. -/
def deliveries (places : List Place) (traces : Nat → Place → Trace) :
    List (Event × Option Text) → List (Place × Text)
  | [] => []
  | (event, line) :: rest =>
      Place.deliver places (fun place => event.lossNotice (traces 0 place)) line ++
        deliveries places (fun index => traces (index + 1)) rest

end Event

end Reckoner
