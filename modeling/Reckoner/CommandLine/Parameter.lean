import Reckoner.Report.Json
import Reckoner.Journal.Level

set_option autoImplicit false

/-!
Parameters of the command line and the ways in which they are spelled.
-/
namespace Reckoner

/-- What the command line can say. -/
inductive Parameter where
  | help
  | evaluate
  | format
  | maxExponent
  | version
  | logLevel
  | logFile
  | healthCheck
  deriving Repr, DecidableEq

namespace Parameter

/-- All parameters, in the order in which help lists them. -/
def all : List Parameter :=
  [.help, .evaluate, .format, .maxExponent, .version, .logLevel, .logFile, .healthCheck]

/-- The spellings of a parameter, a short one first if it has one. -/
def spellings : Parameter → List Text
  | .help => ["-h".toList, "--help".toList]
  | .evaluate => ["-e".toList, "--eval".toList]
  | .format => ["--format".toList]
  | .maxExponent => ["--max-exponent".toList]
  | .version => ["-v".toList, "--version".toList]
  | .logLevel => ["--log-level".toList]
  | .logFile => ["--log-file".toList]
  | .healthCheck => ["--health-check".toList]

def placeholder : Parameter → Option Text
  | .evaluate => some "EVAL_EXPR".toList
  | .format => some "\x7bjson,human\x7d".toList
  | .maxExponent => some "MAX_EXPONENT".toList
  | .logLevel => some "\x7bDEBUG,INFO,WARNING,ERROR\x7d".toList
  | .logFile => some "LOG_FILE".toList
  | _ => none

def takesValue (parameter : Parameter) : Bool := parameter.placeholder.isSome

def choices : Parameter → Option (List Text)
  | .format => some ["json".toList, "human".toList]
  | .logLevel => some ["DEBUG".toList, "INFO".toList, "WARNING".toList, "ERROR".toList]
  | _ => none

/-- The name of a parameter in a complaint: all its spellings. -/
def title (parameter : Parameter) : Text := Text.join ['/'] parameter.spellings

def spelled : List (Text × Parameter) :=
  all.flatMap fun parameter => parameter.spellings.map fun spelling => (spelling, parameter)

def ofSpelling? (spelling : Text) : Option Parameter := spelled.lookup spelling

/-- The parameter whose short spelling is a hyphen and the given letter. -/
def ofLetter? (letter : Char) : Option Parameter := ofSpelling? ['-', letter]

/-- The long spellings that go on from the given one. -/
def completions (start : Text) : List (Text × Parameter) :=
  spelled.filter fun entry => entry.1.startsWith start

end Parameter

end Reckoner
