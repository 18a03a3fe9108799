import Reckoner.CommandLine.Parameter
import Reckoner.Number.Numeral
import Reckoner.Text.Quoted

set_option autoImplicit false

/-!
Arguments of the command line, each taken for itself: a parameter, perhaps with a value attached
to it, something that looks like one, or a plain word.
-/
namespace Reckoner

/-- Why the command line was refused. -/
inductive UsageFault where
  | valueExpected (parameter : Parameter)
  | valueUnwanted (parameter : Parameter) (value : Text)
  | valueNotOffered (parameter : Parameter) (value : Text) (choices : List Text)
  | numeralExpected (parameter : Parameter) (value : Text)
  | negativeValue (parameter : Parameter) (value : Int)
  | ambiguous (argument : Text) (candidates : List Text)
  | unrecognized (arguments : List Text)
  deriving Repr, DecidableEq

inductive CountFault where
  | noNumeral (text : Text)
  | negative (value : Int)
  deriving Repr, DecidableEq

namespace CountFault

def message : CountFault → Text
  | .noNumeral text => "invalid int value: ".toList ++ text.quoted
  | .negative value => "must be >= 0, got ".toList ++ Decimal.ofInt value

def complaint (parameter : Parameter) : CountFault → UsageFault
  | .noNumeral text => .numeralExpected parameter text
  | .negative value => .negativeValue parameter value

end CountFault

/-- Reads a number that may be zero but not negative. -/
def readCount (text : Text) : Except CountFault Int :=
  match Numeral.readShort text with
  | .error _ => .error (.noNumeral text)
  | .ok value => if value < 0 then .error (.negative value) else .ok value

namespace UsageFault

def about (parameter : Parameter) (complaint : Text) : Text :=
  "argument ".toList ++ parameter.title ++ ": ".toList ++ complaint

def message : UsageFault → Text
  | .valueExpected parameter => about parameter "expected one argument".toList
  | .valueUnwanted parameter value =>
      about parameter ("ignored explicit argument ".toList ++ value.quoted)
  | .valueNotOffered parameter value choices =>
      about parameter ("invalid choice: ".toList ++ value.quoted ++ " (choose from ".toList ++
        Text.join ", ".toList (choices.map Text.quoted) ++ [')'])
  | .numeralExpected parameter value => about parameter (CountFault.noNumeral value).message
  | .negativeValue parameter value => about parameter (CountFault.negative value).message
  | .ambiguous argument candidates =>
      "ambiguous option: ".toList ++ argument ++ " could match ".toList ++
        Text.join ", ".toList candidates
  | .unrecognized arguments =>
      "unrecognized arguments: ".toList ++ Text.join [' '] arguments

end UsageFault

/-- What an argument is. A parameter in short spelling may carry the letters of others. -/
inductive Argument where
  | plain
  | unknown
  | named (parameter : Parameter) (short : Bool) (attached : Option Text)
  deriving Repr, DecidableEq

namespace Argument

def digits (text : Text) : Bool :=
  !text.isEmpty && text.all fun c => (Text.digitValue? c).isSome

/-- A minus sign before a whole number, or before digits, if any, with a point and more digits
behind them. A line end behind the number is overlooked. -/
def negativeNumber : Text → Bool
  | '-' :: rest =>
      let number := if rest.getLast? = some '\n' then rest.dropLast else rest
      digits number ||
        match Text.splitFirst '.' number with
        | some (whole, fraction) => (whole.isEmpty || digits whole) && digits fraction
        | none => false
  | _ => false

/-- The name before an equals sign, and the value behind it. -/
def splitValue (argument : Text) : Text × Option Text :=
  match argument.splitFirst '=' with
  | some (name, value) => (name, some value)
  | none => (argument, none)

/-- The parameters that an argument may be short for, each with its full spelling and what the
argument attaches to it. -/
def candidates : Text → List (Text × Argument)
  | '-' :: '-' :: rest =>
      let (name, value) := splitValue ('-' :: '-' :: rest)
      (Parameter.completions name).map fun entry => (entry.1, .named entry.2 false value)
  | '-' :: letter :: rest =>
      match Parameter.ofLetter? letter with
      | some parameter => [(['-', letter], .named parameter true (some rest))]
      | none => []
  | _ => []

/-- A spelling is short if it has a single hyphen. -/
def isShort : Text → Bool
  | '-' :: '-' :: _ => false
  | _ => true

/-- An argument that is spelled as a parameter, alone or with a value behind an equals sign. -/
def asSpelled (argument : Text) : Option Argument :=
  match Parameter.ofSpelling? argument with
  | some parameter => some (.named parameter (isShort argument) none)
  | none =>
      match argument.splitFirst '=' with
      | some (name, value) =>
          (Parameter.ofSpelling? name).map fun parameter =>
            .named parameter (isShort name) (some value)
      | none => none

/-- An argument that is no parameter: a negative number and whatever holds a space are plain. -/
def withoutParameter (argument : Text) : Argument :=
  if negativeNumber argument || argument.contains ' ' then .plain else .unknown

def classify (argument : Text) : Except UsageFault Argument :=
  match argument with
  | '-' :: _ :: _ =>
      match asSpelled argument with
      | some found => .ok found
      | none =>
          match candidates argument with
          | [] => .ok (withoutParameter argument)
          | [only] => .ok only.2
          | several => .error (.ambiguous argument (several.map Prod.fst))
  | _ => .ok .plain

/-- What separates parameters from words that are all plain. -/
def divider : Text := "--".toList

/-- What each argument is. Behind a divider all are plain; the divider itself is no value. -/
def classifyAll : List Text → Except UsageFault (List (Text × Argument))
  | [] => .ok []
  | argument :: rest =>
      if argument = divider then
        .ok ((argument, .unknown) :: rest.map fun later => (later, .plain))
      else do
        let found ← classify argument
        return (argument, found) :: (← classifyAll rest)

end Argument

end Reckoner
