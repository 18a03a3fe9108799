import Reckoner.Text.Basic

set_option autoImplicit false

/-!
Pieces of a filled template. Room that is left over is kept as a character and how often it
stands there, so that a wide place costs nothing until it is written out.
-/
namespace Reckoner

/-- A text, or one character repeated. -/
inductive Piece where
  | text (content : Text)
  | run (c : Char) (count : Nat)
  deriving Repr, DecidableEq

namespace Piece

def length : Piece → Nat
  | .text content => content.length
  | .run _ count => count

def total : List Piece → Nat
  | [] => 0
  | piece :: rest => piece.length + total rest

def write : Piece → Text
  | .text content => content
  | .run c count => List.replicate count c

def writeAll (pieces : List Piece) : Text := pieces.flatMap write

/-- The characters of a row of pieces, for a reader to whom a run of spaces is one space. -/
def writeSqueezed (pieces : List Piece) : Text :=
  pieces.flatMap fun piece =>
    match piece with
    | .run ' ' count => List.replicate (min count 1) ' '
    | other => other.write

def prepend (c : Char) : List Piece → List Piece
  | .text content :: rest => .text (c :: content) :: rest
  | pieces => .text [c] :: pieces

end Piece

end Reckoner
