import Reckoner.Fault
import Reckoner.Text.Digit

set_option autoImplicit false

/-!
Categories of characters and tokens, the binding strength of operators, and how two neighbours
grow into one token: digits into a numeral, letters into a name, and signs into one sign.
-/
namespace Reckoner

inductive Operator where
  | add
  | subtract
  | multiply
  | divide
  | power
  deriving Repr, DecidableEq

namespace Operator

/-- Binding strength. Operators of one strength are applied from left to right. -/
def precedence : Operator → Int
  | .add => 1
  | .subtract => 1
  | .multiply => 2
  | .divide => 2
  | .power => 3

/-- Plus and minus, which also stand before a single operand. -/
def isSign : Operator → Bool
  | .add => true
  | .subtract => true
  | _ => false

end Operator

/-- What a character or a token is. Noise is all that an expression has no use for. -/
inductive Category where
  | noise
  | numeral
  | name
  | operator (symbol : Operator)
  | opening
  | closing
  deriving Repr, DecidableEq

namespace Category

/-- Binding strength, which is -1 for all that is not an operator. -/
def precedence : Category → Int
  | .operator symbol => symbol.precedence
  | _ => -1

def isOperand : Category → Bool
  | .numeral => true
  | .name => true
  | _ => false

def isOperator : Category → Bool
  | .operator _ => true
  | _ => false

def isGroup : Category → Bool
  | .opening => true
  | .closing => true
  | _ => false

/-- The category of a character. Letters and digits are those of ASCII. -/
def ofChar (c : Char) : Category :=
  if Text.digit c then .numeral
  else if Text.letter c then .name
  else match c with
    | '+' => .operator .add
    | '-' => .operator .subtract
    | '*' => .operator .multiply
    | '/' => .operator .divide
    | '^' => .operator .power
    | '(' => .opening
    | ')' => .closing
    | _ => .noise

/-- The category of a text: a run of digits, a run of letters, or a single character. -/
def ofText : Text → Category
  | [] => .noise
  | [c] => ofChar c
  | text =>
      if text.all Text.digit then .numeral
      else if text.all Text.letter then .name
      else .noise

/-- A token of the first category goes on with a character of the second. -/
def joins : Category → Category → Bool
  | .operator pending, .operator incoming =>
      pending.isSign && incoming.isSign || pending == incoming
  | pending, incoming => !pending.isGroup && !incoming.isGroup && pending == incoming

/-- The category of a token that takes in one of another category. Two minus signs make a plus,
and only signs, numerals and names may go on. -/
def absorb : Category → Category → Except Fault Category
  | .operator .subtract, .operator .subtract => .ok (.operator .add)
  | .operator .subtract, _ => .ok (.operator .subtract)
  | _, .operator .subtract => .ok (.operator .subtract)
  | .operator .add, _ => .ok (.operator .add)
  | .numeral, _ => .ok .numeral
  | .name, _ => .ok .name
  | _, _ => .error (.invalidExpression .repeatedOperator)

def label : Category → Text
  | .noise => "NONE".toList
  | .numeral => "INTEGER".toList
  | .name => "VARIABLE".toList
  | .operator .add => "ADD".toList
  | .operator .subtract => "SUBTRACT".toList
  | .operator .multiply => "MULTIPLY".toList
  | .operator .divide => "DIVIDE".toList
  | .operator .power => "POWER".toList
  | .opening => "GROUP_OPEN".toList
  | .closing => "GROUP_CLOSE".toList

def all : List Category :=
  [.noise, .numeral, .name, .operator .add, .operator .subtract, .operator .multiply,
   .operator .divide, .operator .power, .opening, .closing]

def ofLabel? (word : Text) : Option Category := all.find? fun category => category.label = word

end Category

end Reckoner
