import Reckoner.Limits
import Reckoner.Journal.Entry
import Reckoner.Number.Numeral

set_option autoImplicit false

/-!
Settings that the environment of the program may change.
-/
namespace Reckoner

/-- Limits, and how the journal is kept unless the command line says otherwise. -/
structure Settings where
  limits : Limits
  logLevel : Text
  logFile : Option Text
  deriving Repr, DecidableEq

namespace Settings

/-- A limit from the environment, or the usual one if the environment has none. -/
def limit (environment : String → Option Text) (name : String) (usual : Int) :
    Except NumeralFault Int :=
  match environment name with
  | some text => Numeral.readShort text
  | none => .ok usual

/-- An empty text stands for none. -/
def nonempty : Option Text → Option Text
  | some (c :: rest) => some (c :: rest)
  | _ => none

/-- Reads the settings. The limits are read in order, and the first that is no numeral counts. -/
def read (environment : String → Option Text) : Except NumeralFault Settings := do
  let usual : Limits := {}
  let maxInputLength ← limit environment "INTCALC_MAX_INPUT_LENGTH" usual.maxInputLength
  let maxExponent ← limit environment "INTCALC_MAX_EXPONENT" usual.maxExponent
  let maxResultBits ← limit environment "INTCALC_MAX_RESULT_BITS" usual.maxResultBits
  return ⟨⟨maxInputLength, maxExponent, maxResultBits⟩,
    (environment "INTCALC_LOG_LEVEL").getD "WARNING".toList,
    nonempty (environment "INTCALC_LOG_FILE")⟩

end Settings

/-- How the journal is kept: from which level on, and in which file besides. -/
structure JournalSetup where
  level : Int
  file : Option Text
  deriving Repr, DecidableEq

namespace JournalSetup

/-- What the command line says, or else the settings. An empty text says nothing. -/
def ofSettings (settings : Settings) (level file : Option Text) : JournalSetup :=
  ⟨Level.ofWord ((Settings.nonempty level).getD settings.logLevel),
    (Settings.nonempty file).orElse fun _ => settings.logFile⟩

def places (setup : JournalSetup) : Nat := (Place.ofFile setup.file).length

/-- Events are written unless the journal starts above their level. Level zero leaves the matter
to a default that is above it. -/
def writesEvents (setup : JournalSetup) : Bool := setup.level != 0 && setup.level ≤ Level.debug

end JournalSetup

end Reckoner
