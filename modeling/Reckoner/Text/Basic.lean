set_option autoImplicit false

/-!
Texts. A text is a list of characters, so its length counts code points, and every other unit
is left to whoever writes it out.
-/
namespace Reckoner

abbrev Text := List Char

namespace Text

/-- The code point lies in one of the closed ranges. -/
def inRanges (ranges : List (Nat × Nat)) (c : Char) : Bool :=
  ranges.any fun range => range.1 ≤ c.toNat && c.toNat ≤ range.2

def join (separator : Text) : List Text → Text
  | [] => []
  | [only] => only
  | first :: rest => first ++ separator ++ join separator rest

def startsWith (text start : Text) : Bool := start.isPrefixOf text

/-- A character in front of a row of texts: it joins the first of them. -/
def consFirst (c : Char) : List Text → List Text
  | [] => [[c]]
  | first :: rest => (c :: first) :: rest

/-- The part before the first occurrence of a mark, and the part after it, if the mark occurs. -/
def splitFirst (mark : Char) : Text → Option (Text × Text)
  | [] => none
  | c :: rest =>
      if c = mark then some ([], rest)
      else (splitFirst mark rest).map fun parts => (c :: parts.1, parts.2)

end Text

end Reckoner
