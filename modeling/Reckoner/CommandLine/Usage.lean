import Reckoner.CommandLine.Argument
import Reckoner.CommandLine.Particulars
import Reckoner.Limits
import Reckoner.Settings
import Reckoner.Text.Lines
import Reckoner.Text.Wrap

set_option autoImplicit false

/-!
Usage and help: how the program is called, and what its parameters do.
-/
namespace Reckoner.Usage

/-- The column in which the explanations of help start. -/
def helpColumn : Nat := 24

def helpWidth : Nat := 54

def synopsis : Text :=
  ("usage: intcalc [-h] [-e EVAL_EXPR] [--format \x7bjson,human\x7d]\n" ++
   "               [--max-exponent MAX_EXPONENT] [-v]\n" ++
   "               [--log-level \x7bDEBUG,INFO,WARNING,ERROR\x7d] [--log-file LOG_FILE]\n" ++
   "               [--health-check]\n").toList

/-- What a parameter does. The defaults named here are those of the settings. -/
def explanation (settings : Settings) : Parameter → Text
  | .help => "show this help message and exit".toList
  | .evaluate => "Evaluate one expression and exit (non-interactive)".toList
  | .format => "Output format: json (machine-readable) or human (human-readable)".toList
  | .maxExponent =>
      "Largest accepted exponent for ^ (default: ".toList ++
        Decimal.ofInt settings.limits.maxExponent ++ [')']
  | .version => "Show program version".toList
  | .logLevel => "Set logging level (default: ".toList ++ settings.logLevel ++ [')']
  | .logFile => "Write logs to file (default: $INTCALC_LOG_FILE)".toList
  | .healthCheck => "Run health check and verify dependencies".toList

/-- An explanation as it is shown. Only the one that holds a free text is a template. Its runs of
spaces are shown as one space each. -/
def shownExplanation (settings : Settings) (parameter : Parameter) : Except TemplateFault Text :=
  let text := explanation settings parameter
  if parameter = .logLevel then
    (Template.fill text (Particulars.supply text)).map Piece.writeSqueezed
  else .ok text

def spaces (count : Nat) : Text := List.replicate count ' '

def heading (parameter : Parameter) : Text :=
  spaces 2 ++ Text.join ", ".toList (parameter.spellings.map fun spelling =>
    match parameter.placeholder with
    | some placeholder => spelling ++ ' ' :: placeholder
    | none => spelling)

/-- A parameter and its explanation. A heading that leaves two spaces before the column of the
explanations shares a line with the first of them. -/
def entry (parameter : Parameter) (explanation : Text) : Text :=
  let title := heading parameter
  let lines := Text.wrap helpWidth explanation
  if title.length + 2 ≤ helpColumn then
    match lines with
    | [] => title ++ ['\n']
    | first :: rest =>
        title ++ spaces (helpColumn - title.length) ++ first ++ '\n' ::
          Text.unlines (rest.map (spaces helpColumn ++ ·))
  else title ++ '\n' :: Text.unlines (lines.map (spaces helpColumn ++ ·))

def help (settings : Settings) : Except TemplateFault Text := do
  let entries ← Parameter.all.mapM fun parameter => do
    return entry parameter (← shownExplanation settings parameter)
  return synopsis ++ "\noptions:\n".toList ++ entries.flatten

def complaint (fault : UsageFault) : Text :=
  synopsis ++ "intcalc: error: ".toList ++ fault.message ++ ['\n']

end Reckoner.Usage
