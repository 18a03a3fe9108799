import Reckoner.Text.Basic

set_option autoImplicit false

/-!
Blank characters: the white space of Unicode and the four information separators.
-/
namespace Reckoner.Text

/-- Closed ranges of the blank characters, ascending and apart. -/
def blankRanges : List (Nat × Nat) :=
  [(0x09, 0x0D), (0x1C, 0x20), (0x85, 0x85), (0xA0, 0xA0), (0x1680, 0x1680), (0x2000, 0x200A),
   (0x2028, 0x2029), (0x202F, 0x202F), (0x205F, 0x205F), (0x3000, 0x3000)]

/-- The character is white space or an information separator. -/
def blankChar (c : Char) : Bool := inRanges blankRanges c

/-- One of the four characters that separate files, groups, records and units. -/
def separatorChar (c : Char) : Bool := inRanges [(0x1C, 0x1F)] c

/-- The text shows nothing: it is empty or holds blank characters only. -/
def isBlank (text : Text) : Bool := text.all blankChar

/-- Drops the characters of a class from both ends. -/
def trimBy (drop : Char → Bool) (text : Text) : Text :=
  ((text.dropWhile drop).reverse.dropWhile drop).reverse

def trim (text : Text) : Text := trimBy blankChar text

end Reckoner.Text
