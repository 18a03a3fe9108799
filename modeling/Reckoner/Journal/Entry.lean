import Reckoner.Journal.Level

set_option autoImplicit false

/-!
Entries of the journal, the lines that they are written as, and the places where these go.
-/
namespace Reckoner

/-- One thing told: how grave it is, by which part of the calculator, and the code of a fault. -/
structure Entry where
  level : Int
  source : Text
  message : Text
  code : Option Text := none
  deriving Repr, DecidableEq

namespace Entry

/-- The code of a fault behind a message, if there is one to show. -/
def codeNote : Option Text → Text
  | some (c :: rest) => " (".toList ++ (c :: rest) ++ [')']
  | _ => []

/-- An entry as a line of the journal, but for the time before it. -/
def line (entry : Entry) : Text :=
  '[' :: Level.label entry.level ++ "] intcalc.".toList ++ entry.source ++ ": ".toList ++
    entry.message ++ codeNote entry.code

def stampedLine (stamp : Text) (entry : Entry) : Text := stamp ++ ' ' :: entry.line

end Entry

inductive Place where
  | standardError
  | file (path : Text)
  deriving Repr, DecidableEq

namespace Place

/-- The places of a journal. Its file, if there is one, comes second. -/
def ofFile (file : Option Text) : List Place := .standardError :: (file.map Place.file).toList

/-- What is written where, in order: a line goes to all places before the next one is told. If
there is no line, standard error is told so in the stead of each place. -/
def deliver (places : List Place) (notice : Place → Text) : Option Text → List (Place × Text)
  | some line => places.map fun place => (place, line ++ ['\n'])
  | none => places.map fun place => (.standardError, notice place)

def arrivals (place : Place) (deliveries : List (Place × Text)) : Text :=
  (deliveries.filter fun delivery => delivery.1 = place).flatMap Prod.snd

end Place

end Reckoner
