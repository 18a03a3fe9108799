import Reckoner.Number.Rounding
import Reckoner.Template.Fault
import Reckoner.Template.Filling
import Reckoner.Template.Piece

set_option autoImplicit false

/-!
Conversions. A letter says how a datum is written: as text (`s`, `r`, `a`), as a whole number
(`d`, `i`, `u`, `o`, `x`, `X`), with a point or an exponent (`f`, `e`, `g` and their capitals),
or as a single character (`c`). A layout says how it is set into the text.
-/
namespace Reckoner

/-- How a datum is set: at the left of its room, with a sign or a space before numbers that are
not negative, in the alternate form, with zeros before numbers, in how much room, and with how
many characters or digits. -/
structure Layout where
  left : Bool := false
  signed : Bool := false
  spaced : Bool := false
  alternate : Bool := false
  zeros : Bool := false
  width : Option Nat := none
  precision : Option Nat := none
  deriving Repr, DecidableEq

namespace Layout

/-- What a place leaves over of its room. -/
def gap (layout : Layout) (c : Char) (shown : List Piece) : Piece :=
  .run c (layout.width.getD 0 - Piece.total shown)

def set (layout : Layout) (shown : List Piece) : List Piece :=
  if layout.left then shown ++ [layout.gap ' ' shown] else layout.gap ' ' shown :: shown

/-- Sets the digits of a number behind its sign and mark. Zeros come between them. -/
def setNumber (layout : Layout) (mark : Text) (digits : List Piece) : List Piece :=
  let shown := .text mark :: digits
  if layout.zeros ∧ layout.left = false then .text mark :: layout.gap '0' shown :: digits
  else layout.set shown

def sign (layout : Layout) (value : Int) : Text :=
  if value < 0 then ['-'] else if layout.signed then ['+'] else if layout.spaced then [' '] else []

def mostRoom : Nat := Nat.pow 10 10

def mostDigits : Nat := Nat.pow 2 31 - 4

end Layout

namespace Conversion

def text (layout : Layout) (content : Text) : List Piece :=
  layout.set [.text (match layout.precision with
    | some length => content.take length
    | none => content)]

def base (letter : Char) : Nat :=
  if letter = 'o' then 8 else if letter = 'x' ∨ letter = 'X' then 16 else 10

/-- The mark before digits of a base that is not ten, in the alternate form. -/
def mark (layout : Layout) (letter : Char) : Text :=
  if layout.alternate ∧ base letter ≠ 10 then ['0', letter.toLower] else []

/-- A whole number, with at least as many digits as the precision says. -/
def whole (layout : Layout) (letter : Char) (value : Int) : List Piece :=
  let digits := if base letter = 10 then Decimal.ofNat value.natAbs
    else Nat.toDigits (base letter) value.natAbs
  let shown (part : Text) : Text := if letter = 'X' then part.map Char.toUpper else part
  layout.setNumber (layout.sign value ++ shown (mark layout letter))
    [.run '0' (layout.precision.getD 0 - digits.length), .text (shown digits)]

/-- The leading digits of a number, zeros behind them, and the exponent of ten of the first. -/
structure Leading where
  digits : Text
  zeros : Nat
  power : Nat
  deriving Repr, DecidableEq

/-- The leading digits of a number, `count` of them with the zeros. -/
def leading (count value : Nat) : Leading :=
  let digits := Decimal.ofNat value
  if digits.length ≤ count then ⟨digits, count - digits.length, digits.length - 1⟩
  else
    let rounded := Decimal.ofNat (roundedQuotient value (Nat.pow 10 (digits.length - count)))
    if count < rounded.length then ⟨rounded.take count, 0, digits.length⟩
    else ⟨rounded, 0, digits.length - 1⟩

/-- The digits of a fraction behind their point. The alternate form has the point even without
digits. -/
def fraction (layout : Layout) (places : List Piece) : List Piece :=
  if Piece.total places = 0 ∧ layout.alternate = false then [] else .text ['.'] :: places

/-- The digits of a fraction without zeros at their end, but for the alternate form. -/
def significantPlaces (layout : Layout) (digits : Text) (zeros : Nat) : List Piece :=
  if layout.alternate then [.text digits, .run '0' zeros]
  else [.text (digits.reverse.dropWhile (· == '0')).reverse]

/-- An exponent of ten behind its letter, with two digits at least. -/
def exponent (letter : Char) (value : Nat) : Piece :=
  let digits := Decimal.ofNat value
  .text (letter :: '+' :: (if digits.length < 2 then '0' :: digits else digits))

/-- A number with a point or an exponent, without its sign. A number is held with as many digits
as a binary fraction keeps. -/
def pointed (layout : Layout) (letter : Char) (value : Nat) : List Piece :=
  let held := (BinaryFraction.nearest value 1).whole
  let precision := layout.precision.getD 6
  let mark := if letter.isUpper then 'E' else 'e'
  match letter.toLower with
  | 'f' => .text (Decimal.ofNat held) :: fraction layout [.run '0' precision]
  | 'e' =>
      let found := leading (precision + 1) held
      .text (found.digits.take 1) ::
        fraction layout [.text (found.digits.drop 1), .run '0' found.zeros] ++
        [exponent mark found.power]
  | _ =>
      let count := max precision 1
      let found := leading count held
      let before := if found.power < count then found.power + 1 else 1
      .text (found.digits.take before) ::
        fraction layout (significantPlaces layout (found.digits.drop before) found.zeros) ++
        (if found.power < count then [] else [exponent mark found.power])

/-- A single character, or the one with the given code point. -/
def character (layout : Layout) (filling : Filling) : Except TemplateFault (List Piece) :=
  match filling.number with
  | some value =>
      if 0 ≤ value ∧ value < 0x110000 then .ok (layout.set [.text [Char.ofNat value.toNat]])
      else .error .characterOutOfRange
  | none =>
      match filling.character? with
      | some c => .ok (layout.set [.text [c]])
      | none => .error .characterExpected

def textLetters : Text := "sra".toList

def wholeLetters : Text := "diuoxX".toList

def pointedLetters : Text := "eEfFgG".toList

def textOf (letter : Char) (filling : Filling) : Text :=
  if letter = 's' then filling.plain
  else if letter = 'r' then filling.quoted
  else filling.quotedAscii

def noNumber (letter : Char) (filling : Filling) : TemplateFault :=
  if letter ∈ pointedLetters then .numberExpected filling.sort
  else if base letter = 10 then .realExpected letter filling.sort
  else .wholeExpected letter filling.sort

/-- A number. One with a point or an exponent must be held as a binary fraction. -/
def number (layout : Layout) (letter : Char) (filling : Filling) :
    Except TemplateFault (List Piece) :=
  match filling.number with
  | none => .error (noNumber letter filling)
  | some value =>
      if letter ∈ wholeLetters then
        if Layout.mostDigits < layout.precision.getD 0 then .error .digitsTooMany
        else .ok (whole layout letter value)
      else if BinaryFraction.bound ≤ (BinaryFraction.nearest value.natAbs 1).whole then
        .error .numberTooLarge
      else .ok (layout.setNumber (layout.sign value) (pointed layout letter value.natAbs))

/-- A datum as the letter and the layout of its place ask for it. The index is that of the
letter in the template. -/
def convert (layout : Layout) (letter : Char) (index : Nat) (filling : Filling) :
    Except TemplateFault (List Piece) := do
  let shown ←
    if letter ∈ textLetters then .ok (text layout (textOf letter filling))
    else if letter ∈ wholeLetters ∨ letter ∈ pointedLetters then number layout letter filling
    else if letter = 'c' then character layout filling
    else .error (.unsupported letter index)
  if Layout.mostRoom < layout.width.getD 0 then .error .noRoom else return shown

end Conversion

end Reckoner
