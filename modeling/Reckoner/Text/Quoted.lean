import Reckoner.Text.Printable

set_option autoImplicit false

/-!
Quoted texts. A quoted text stands on one line whatever it holds: each character that does not
print is spelled by its code point in lower-case hexadecimal digits.
-/
namespace Reckoner.Text

/-- The low `width` hexadecimal digits of a number, most significant first. -/
def hex : Nat → Nat → Text
  | 0, _ => []
  | width + 1, n => hex width (n / 16) ++ [Nat.digitChar (n % 16)]

/-- A code point behind a backslash: two, four or eight digits, the first that suffice. -/
def spellCodePoint (c : Char) : Text :=
  if c.toNat < 0x100 then '\\' :: 'x' :: hex 2 c.toNat
  else if c.toNat < 0x10000 then '\\' :: 'u' :: hex 4 c.toNat
  else '\\' :: 'U' :: hex 8 c.toNat

/-- A character as it stands between the given quotation marks. -/
def quoteChar (mark c : Char) : Text :=
  if c = mark ∨ c = '\\' then ['\\', c]
  else if c = '\n' then ['\\', 'n']
  else if c = '\r' then ['\\', 'r']
  else if c = '\t' then ['\\', 't']
  else if printable c then [c]
  else spellCodePoint c

/-- Single marks, unless only double marks spare an escape. -/
def quotationMark (text : Text) : Char :=
  if '\'' ∈ text ∧ '"' ∉ text then '"' else '\''

/-- The text between quotation marks, on one line. -/
def quoted (text : Text) : Text :=
  let mark := quotationMark text
  mark :: text.flatMap (quoteChar mark) ++ [mark]

end Reckoner.Text
