import Reckoner.Journal.Entry
import Reckoner.Journal.Timestamp
import Reckoner.Template.Basic

set_option autoImplicit false

/-!
Lines of the journal: what is told at a point in time, as a template with its data.
-/
namespace Reckoner

/-- A thing told at a point in time, `milliseconds / parts` milliseconds after the start of the
year 1970. -/
structure Remark where
  milliseconds : Int
  parts : Nat := 1
  level : Int
  source : Text
  template : Text
  data : List Datum := []
  code : Option Text := none
  deriving Repr, DecidableEq

inductive RemarkFault where
  | time (fault : TimeFault)
  | message (fault : TemplateFault)
  deriving Repr, DecidableEq

namespace RemarkFault

def text : RemarkFault → Text
  | .time fault => fault.message
  | .message fault => fault.message

end RemarkFault

namespace Remark

def ofEntry (milliseconds : Int) (entry : Entry) : Remark :=
  { milliseconds, level := entry.level, source := entry.source, template := entry.message,
    code := entry.code }

/-- The line of a remark. Its time is written first. -/
def line (remark : Remark) : Except RemarkFault Text :=
  match Timestamp.render remark.milliseconds remark.parts with
  | .error fault => .error (.time fault)
  | .ok stamp =>
      match Template.message remark.template remark.data with
      | .error fault => .error (.message fault)
      | .ok message =>
          .ok (Entry.stampedLine stamp ⟨remark.level, remark.source, message, remark.code⟩)

end Remark

end Reckoner
