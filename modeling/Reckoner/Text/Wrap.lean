import Reckoner.Text.Alphanumeric
import Reckoner.Text.Blank
import Reckoner.Text.Digit

set_option autoImplicit false

/-!
Paragraphs. The words of a text are laid out in lines of a given width: a line ends where the
next piece of a word would not fit, and only a piece wider than a whole line is cut.
-/
namespace Reckoner.Text

/-- A space, a tab or a line end: what parts the words of a paragraph. -/
def wordGap (c : Char) : Bool := inRanges [(0x09, 0x0D), (0x20, 0x20)] c

def words : Text → List Text
  | [] => []
  | c :: rest =>
      if wordGap c then words rest
      else if rest.head?.any wordGap then [c] :: words rest
      else consFirst c (words rest)

/-- A letter, a number or an underscore. -/
def wordChar (c : Char) : Bool := alphanumeric c || c == '_'

/-- A character of a word that is no decimal digit. -/
def nameChar (c : Char) : Bool := wordChar c && (digitValue? c).isNone

/-- What may stand right before a dash: a character of a word, or a mark that ends one. -/
def endsWord (c : Char) : Bool := wordChar c || "!\"'&.,?".toList.contains c

/-- Two characters of names, with at most a hyphen between them. -/
def opensPiece : Text → Bool
  | a :: b :: rest => nameChar a && (nameChar b || b == '-' && rest.head?.any nameChar)
  | _ => false

/-- A hyphen may end a piece behind two characters of names, or behind one with a hyphen and one
more before it, if a word goes on after it. `before` is what stands before the hyphen, last
character first. -/
def hyphenBreaks (before after : Text) : Bool :=
  opensPiece after &&
    match before with
    | a :: b :: rest => nameChar a && (nameChar b || b == '-' && rest.head?.any nameChar)
    | _ => false

/-- A dash, which is two hyphens or more, with a word behind it. -/
def dashAhead : Text → Bool
  | '-' :: '-' :: rest => (rest.dropWhile (· == '-')).head?.any wordChar
  | _ => false

/-- The pieces of a word, which may break before and behind a dash and behind a hyphen. `dash`
says that a dash is being read, and `before` is what was read, last character first. -/
def pieces (dash : Bool) (before : Text) : Text → List Text
  | [] => []
  | c :: rest =>
      let dashNext := if dash then rest.head? == some '-' else endsWord c && dashAhead rest
      let ends := if dash then !dashNext else dashNext || c == '-' && hyphenBreaks before rest
      let later := pieces dashNext (c :: before) rest
      if ends then [c] :: later else consFirst c later

def spacedPieces : List Text → List Text
  | [] => []
  | [word] => pieces false [] word
  | word :: rest => pieces false [] word ++ [[' ']] ++ spacedPieces rest

/-- Where a piece too wide for a line is cut: behind its last hyphen in reach, else at the edge. -/
def cutAt (room : Nat) (piece : Text) : Nat :=
  let reach := piece.take room
  let upTo := (reach.reverse.dropWhile (· ≠ '-')).reverse
  if upTo.dropLast.any (· ≠ '-') then upTo.length else room

def fitsIn (room : Nat) (piece : Text) : Bool := (piece.drop room).isEmpty

def fit (room : Nat) : List Text → List Text × List Text
  | [] => ([], [])
  | piece :: rest =>
      if fitsIn room piece then
        let (fitting, later) := fit (room - piece.length) rest
        (piece :: fitting, later)
      else ([], piece :: rest)

def withoutBlankHead : List Text → List Text
  | [] => []
  | piece :: rest => if isBlank piece then rest else piece :: rest

def withoutBlankEnd (line : List Text) : List Text :=
  match line.getLast? with
  | some piece => if isBlank piece then line.dropLast else line
  | none => line

/-- The pieces of one line, and those behind it. A piece wider than a line fills what is left of
the line, even if nothing is. -/
def breakLine (width : Nat) (pieces : List Text) : List Text × List Text :=
  let (line, rest) := fit width pieces
  match rest with
  | [] => (line, [])
  | piece :: later =>
      if fitsIn width piece then (line, rest)
      else
        let cut := cutAt (width - line.flatten.length) piece
        (line ++ [piece.take cut], piece.drop cut :: later)

/-- Lays pieces out in lines; `first` says that no line stands yet. A line without pieces is
left out. `fuel` bounds the lines. -/
def layOut (width : Nat) : Nat → Bool → List Text → List Text
  | 0, _, _ => []
  | _, _, [] => []
  | fuel + 1, first, piece :: rest =>
      let pieces := if first then piece :: rest else withoutBlankHead (piece :: rest)
      let (broken, later) := breakLine width pieces
      let line := withoutBlankEnd broken
      if line.isEmpty then layOut width fuel first later
      else line.flatten :: layOut width fuel false later

/-- The lines of a text in a column of the given width, which is not zero. A line takes a piece,
or a character at least of one, so there are no more lines than both. -/
def wrap (width : Nat) (text : Text) : List Text :=
  let pieces := spacedPieces (words text)
  layOut width (pieces.length + pieces.flatten.length) true pieces

end Reckoner.Text
