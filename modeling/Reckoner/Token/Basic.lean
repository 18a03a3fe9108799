import Reckoner.Text.Quoted
import Reckoner.Token.Category

set_option autoImplicit false

/-!
Tokens, and the scan of a text into tokens. Noise is dropped without ending the token around it,
so that a blank may stand inside a numeral, a name or a run of signs.
-/
namespace Reckoner

/-- A piece of an expression and what it is. -/
structure Token where
  text : Text
  category : Category
  deriving Repr, DecidableEq

namespace Token

def render (token : Token) : Text :=
  "Token(".toList ++ token.text.quoted ++ ", ".toList ++ token.category.label ++ [')']

def renderAll (tokens : List Token) : Text :=
  '[' :: Text.join ", ".toList (tokens.map render) ++ [']']

/-- Puts a character in front of the tokens of the text behind it. -/
def prepend (c : Char) (tokens : List Token) : Except Fault (List Token) :=
  match Category.ofChar c, tokens with
  | .noise, _ => .ok tokens
  | category, [] => .ok [⟨[c], category⟩]
  | category, next :: rest =>
      if category.joins next.category then do
        return ⟨c :: next.text, ← category.absorb next.category⟩ :: rest
      else .ok (⟨[c], category⟩ :: next :: rest)

def scan : Text → Except Fault (List Token)
  | [] => .ok []
  | c :: rest => do prepend c (← scan rest)

end Token

end Reckoner
