import Reckoner.Number.Decimal
import Reckoner.Text.Quoted

set_option autoImplicit false

/-!
Faults of templates: why a template and its data do not go together.
-/
namespace Reckoner

/-- Why a template cannot be filled. The sort of a datum is named where it is the wrong one.
Widths and precisions may be too large as they are written, or as they are taken from the data. -/
inductive TemplateFault where
  | tooFewData
  | tooManyData
  | realExpected (conversion : Char) (sort : Text)
  | wholeExpected (conversion : Char) (sort : Text)
  | numberExpected (sort : Text)
  | characterExpected
  | characterOutOfRange
  | widthExpected
  | widthTooLarge
  | precisionTooLarge
  | widthNotCounted
  | precisionNotCounted
  | digitsTooMany
  | numberTooLarge
  | noRoom
  | namesExpected
  | nameUnfinished
  | nameUnknown (name : Text)
  | placeUnfinished
  | unsupported (conversion : Char) (index : Nat)
  deriving Repr, DecidableEq

namespace TemplateFault

/-- A letter as a complaint shows it: anything but ASCII is masked. -/
def shownLetter (letter : Char) : Char :=
  if 31 ≤ letter.toNat ∧ letter.toNat ≤ 126 then letter else '?'

def message : TemplateFault → Text
  | .tooFewData => "not enough arguments for format string".toList
  | .tooManyData => "not all arguments converted during string formatting".toList
  | .realExpected conversion sort =>
      '%' :: conversion :: " format: a real number is required, not ".toList ++ sort
  | .wholeExpected conversion sort =>
      '%' :: conversion :: " format: an integer is required, not ".toList ++ sort
  | .numberExpected sort => "must be real number, not ".toList ++ sort
  | .characterExpected => "%c requires int or char".toList
  | .characterOutOfRange => "%c arg not in range(0x110000)".toList
  | .widthExpected => "* wants int".toList
  | .widthTooLarge => "width too big".toList
  | .precisionTooLarge => "precision too big".toList
  | .widthNotCounted => "Python int too large to convert to C ssize_t".toList
  | .precisionNotCounted => "Python int too large to convert to C int".toList
  | .digitsTooMany => "precision too large".toList
  | .numberTooLarge => "int too large to convert to float".toList
  | .noRoom => []
  | .namesExpected => "format requires a mapping".toList
  | .nameUnfinished => "incomplete format key".toList
  | .nameUnknown name => name.quoted
  | .placeUnfinished => "incomplete format".toList
  | .unsupported conversion index =>
      "unsupported format character '".toList ++ shownLetter conversion :: "' (0x".toList ++
        Nat.toDigits 16 conversion.toNat ++ ") at index ".toList ++ Decimal.ofNat index

/-- The sort of a fault, as it is named where it ends a run. -/
def kind : TemplateFault → Text
  | .widthTooLarge => "ValueError".toList
  | .precisionTooLarge => "ValueError".toList
  | .nameUnfinished => "ValueError".toList
  | .placeUnfinished => "ValueError".toList
  | .unsupported _ _ => "ValueError".toList
  | .nameUnknown _ => "KeyError".toList
  | .characterOutOfRange => "OverflowError".toList
  | .widthNotCounted => "OverflowError".toList
  | .precisionNotCounted => "OverflowError".toList
  | .digitsTooMany => "OverflowError".toList
  | .numberTooLarge => "OverflowError".toList
  | .noRoom => "MemoryError".toList
  | _ => "TypeError".toList

end TemplateFault

end Reckoner
