import Reckoner.Text.Basic

set_option autoImplicit false

/-!
Lines of a text. A line feed, a carriage return and the two in a row each end a line; what
follows the last line end is a line if it is not empty.
-/
namespace Reckoner.Text

/-- The lines of a text, without their ends. -/
def lines : Text → List Text
  | [] => []
  | '\r' :: '\n' :: rest => [] :: lines rest
  | c :: rest =>
      if c = '\n' ∨ c = '\r' then [] :: lines rest else consFirst c (lines rest)

/-- Each line with a line feed behind it. -/
def unlines (lines : List Text) : Text := lines.flatMap fun line => line ++ ['\n']

end Reckoner.Text
