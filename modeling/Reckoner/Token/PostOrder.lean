import Reckoner.Token.Basic

set_option autoImplicit false

/-!
Post-order: operators behind their operands, parentheses gone. Operators wait on a stack until
one that binds no stronger, a closing parenthesis or the end of the line calls them up; an
opening parenthesis on the stack keeps back all that wait below it.
-/
namespace Reckoner.PostOrder

/-- The operators and opening parentheses that wait, innermost first. -/
abbrev Stack := List Token

/-- The token that waits binds at least as strong as the other. -/
def yields (token waiting : Token) : Bool :=
  token.category.precedence ≤ waiting.category.precedence

def inside (waiting : Token) : Bool := waiting.category != .opening

/-- One token: what it sends on, and what waits afterwards. -/
def step (stack : Stack) (token : Token) : Except Fault (List Token × Stack) :=
  match token.category with
  | .numeral => .ok ([token], stack)
  | .name => .ok ([token], stack)
  | .opening => .ok ([], token :: stack)
  | .closing =>
      match stack.dropWhile inside with
      | [] => .error (.invalidExpression .unbalancedGroups)
      | _ :: below => .ok (stack.takeWhile inside, below)
  | .operator _ =>
      .ok (stack.takeWhile (yields token), token :: stack.dropWhile (yields token))
  | .noise => .ok ([], stack)

def run (stack : Stack) : List Token → Except Fault (List Token × Stack)
  | [] => .ok ([], stack)
  | token :: rest => do
      let (sent, waiting) ← step stack token
      let (later, left) ← run waiting rest
      return (sent ++ later, left)

/-- What waits at the end of the line is sent on, unless a parenthesis is still open. -/
def drain (stack : Stack) : Except Fault (List Token) :=
  if stack.any fun waiting => waiting.category.isGroup then
    .error (.invalidExpression .unbalancedGroups)
  else .ok stack

/-- The operands and operators of a line in post-order. -/
def ofTokens (tokens : List Token) : Except Fault (List Token) := do
  let (sent, left) ← run [] tokens
  return sent ++ (← drain left)

end Reckoner.PostOrder
