import Reckoner.Number.Decimal
import Reckoner.Text.Blank
import Reckoner.Text.Quoted

set_option autoImplicit false

/-!
Numerals as people write them: blanks around, a sign, digits of any script, and single
underscores between digits.
-/
namespace Reckoner

inductive NumeralFault where
  | malformed (text : Text)
  | tooLong (digits : Nat)
  deriving Repr, DecidableEq

namespace Numeral

/-- The most digits that a numeral may have where its length is limited. -/
def maxDigits : Nat := 4300

/-- The digits of a numeral: at least one, with single underscores between neighbours at most. -/
def digits? : Text → Option (List Nat)
  | [] => none
  | [c] => (Text.digitValue? c).map ([·])
  | c :: '_' :: rest => do return (← Text.digitValue? c) :: (← digits? rest)
  | c :: rest => do return (← Text.digitValue? c) :: (← digits? rest)

/-- Blanks that may stand around a numeral. The information separators may not. -/
def margin (c : Char) : Bool := Text.blankChar c && !Text.separatorChar c

def parts? (text : Text) : Option (Option Char × List Nat) :=
  let (sign, rest) := Decimal.splitSign (Text.trimBy margin text)
  (digits? rest).map fun digits => (sign, digits)

def value (digits : List Nat) : Nat := digits.foldl (fun n digit => 10 * n + digit) 0

def read (text : Text) : Except NumeralFault Int :=
  match parts? text with
  | none => .error (.malformed text)
  | some (sign, digits) => .ok (Decimal.signed sign (value digits))

/-- A digit of any script, or an underscore. -/
def digitOrMark (c : Char) : Bool := (Text.digitValue? c).isSome || c == '_'

/-- How many digits a text begins with, behind blanks and a sign. -/
def leadingDigits (text : Text) : Nat :=
  let unsigned := (Decimal.splitSign (text.dropWhile margin)).2
  ((digits? (unsigned.takeWhile digitOrMark)).getD []).length

/-- Reads a numeral of at most `maxDigits` digits. The digits are counted before anything behind
them is looked at. -/
def readShort (text : Text) : Except NumeralFault Int :=
  if maxDigits < leadingDigits text then .error (.tooLong (leadingDigits text)) else read text

/-- Writes a number in decimal, unless it has more than `maxDigits` digits. -/
def writeShort? (n : Int) : Option Text :=
  if maxDigits < (Decimal.ofNat n.natAbs).length then none else some (Decimal.ofInt n)

end Numeral

namespace NumeralFault

/-- How much of a quoted text a fault shows at most. -/
def shownLength : Nat := 200

def message : NumeralFault → Text
  | .malformed text =>
      "invalid literal for int() with base 10: ".toList ++ text.quoted.take shownLength
  | .tooLong digits =>
      "Exceeds the limit (".toList ++ Decimal.ofNat Numeral.maxDigits ++
        " digits) for integer string conversion: value has ".toList ++ Decimal.ofNat digits ++
        " digits; use sys.set_int_max_str_digits() to increase the limit".toList

end NumeralFault

end Reckoner
