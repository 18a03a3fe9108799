import Reckoner.Number.Decimal
import Reckoner.Text.Quoted

set_option autoImplicit false

/-!
Plain data: what a field of a report holds and what is put into a message.
-/
namespace Reckoner

/-- A text, a whole number, a flag, or nothing. -/
inductive Datum where
  | text (content : Text)
  | number (value : Int)
  | flag (value : Bool)
  | nothing
  deriving Repr, DecidableEq

namespace Datum

/-- A datum as people read it. -/
def plain : Datum → Text
  | .text content => content
  | .number value => Decimal.ofInt value
  | .flag true => "True".toList
  | .flag false => "False".toList
  | .nothing => "None".toList

def quoted : Datum → Text
  | .text content => content.quoted
  | other => other.plain

def ofOption : Option Text → Datum
  | some content => .text content
  | none => .nothing

/-- A datum counts as true unless it is empty, zero, false or nothing. -/
def holds : Datum → Bool
  | .text content => !content.isEmpty
  | .number value => value != 0
  | .flag value => value
  | .nothing => false

end Datum

end Reckoner
