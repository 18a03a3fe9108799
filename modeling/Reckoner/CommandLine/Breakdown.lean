import Reckoner.Journal.Event
import Reckoner.Template.Fault

set_option autoImplicit false

/-!
Breakdowns: what ends a run before its time. A parameter whose value was taken back leaves nothing
to work with, and a help text may be a template that cannot be filled.
-/
namespace Reckoner

/-- Why a run ends before its time. -/
inductive Breakdown where
  | help (fault : TemplateFault)
  | nothingToEvaluate
  | exponentNotJudged
  deriving Repr, DecidableEq

namespace Breakdown

def message : Breakdown → Text
  | .help fault => fault.message
  | .nothingToEvaluate => "'list' object has no attribute 'strip'".toList
  | .exponentNotJudged => "'>' not supported between instances of 'int' and 'list'".toList

def kind : Breakdown → Text
  | .help fault => fault.kind
  | .nothingToEvaluate => "AttributeError".toList
  | .exponentNotJudged => "TypeError".toList

/-- The last line of what a run that breaks down writes. -/
def shown (breakdown : Breakdown) : Text :=
  breakdown.kind ++ if breakdown.message.isEmpty then [] else ": ".toList ++ breakdown.message

end Breakdown

/-- The limits of a run. Where nothing is left that exponents could be judged by, the largest
exponent is set below zero, so that every power is refused, and those that had to be judged can
be told apart. -/
structure Bounds where
  limits : Limits
  exponentsJudged : Bool := true
  deriving Repr, DecidableEq

namespace Bounds

def withoutExponents (limits : Limits) : Bounds := ⟨{ limits with maxExponent := -1 }, false⟩

/-- Working out the line comes to a power whose exponent cannot be judged. An exponent below zero
needs no judging. -/
def breaks (bounds : Bounds) (memory : Variables) (line : Text) : Bool :=
  !bounds.exponentsJudged &&
    match Calculator.calculate bounds.limits memory line.trim with
    | .error (.invalidExpression (.exponentOutOfRange exponent)) => 0 ≤ exponent
    | _ => false

/-- Answering the line breaks the run. Commands never do. -/
def answerBreaks (bounds : Bounds) (memory : Variables) (line : Text) : Bool :=
  !Calculator.isCommand line.trim && bounds.breaks memory line

/-- An event as it is told under the bounds. Where exponents cannot be judged, there is no limit
on them to be named. -/
def told (bounds : Bounds) : Event → Event
  | .exponentRefused limit => .exponentRefused (if bounds.exponentsJudged then limit else none)
  | event => event

end Bounds

end Reckoner
