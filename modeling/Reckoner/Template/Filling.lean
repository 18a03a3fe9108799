import Reckoner.Datum

set_option autoImplicit false

/-!
Fillings: what a template can know of a datum that is put into it.
-/
namespace Reckoner

/-- The sort of a datum by name, its text with and without quotation marks, and its value if it
is a whole number. -/
structure Filling where
  sort : Text
  plain : Text
  quoted : Text
  number : Option Int := none
  deriving Repr, DecidableEq

namespace Filling

def character? (filling : Filling) : Option Char :=
  match filling.plain with
  | [c] => if filling.sort = "str".toList then some c else none
  | _ => none

/-- The quoted text in ASCII, with other characters spelled by their code points. -/
def quotedAscii (filling : Filling) : Text :=
  filling.quoted.flatMap fun c => if c.toNat < 0x80 then [c] else Text.spellCodePoint c

end Filling

/-- A datum as a filling. A flag counts as 1 or 0. -/
def Datum.filling (datum : Datum) : Filling :=
  match datum with
  | .text _ => ⟨"str".toList, datum.plain, datum.quoted, none⟩
  | .number value => ⟨"int".toList, datum.plain, datum.quoted, some value⟩
  | .flag value => ⟨"bool".toList, datum.plain, datum.quoted, some (if value then 1 else 0)⟩
  | .nothing => ⟨"NoneType".toList, datum.plain, datum.quoted, none⟩

end Reckoner
