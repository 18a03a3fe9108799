import Reckoner.Number.Decimal

set_option autoImplicit false

/-!
Levels of the journal: numbers, some of which have names.
-/
namespace Reckoner.Level

/-- The level at which the calculator tells what it does. -/
def debug : Int := 10

/-- The level that stands in for a word that names none. -/
def fallback : Int := 30

/-- The names of levels. Where two names share a level, the first is the one shown. -/
def names : List (Text × Int) :=
  [("CRITICAL".toList, 50), ("FATAL".toList, 50), ("ERROR".toList, 40), ("WARNING".toList, 30),
   ("WARN".toList, 30), ("INFO".toList, 20), ("DEBUG".toList, 10), ("NOTSET".toList, 0)]

/-- A letter as a capital, where its capital is a letter of ASCII. -/
def capital (c : Char) : Char :=
  if 0x61 ≤ c.toNat ∧ c.toNat ≤ 0x7A then Char.ofNat (c.toNat - 0x20)
  else if c.toNat = 0x131 then 'I'
  else if c.toNat = 0x17F then 'S'
  else c

def ofWord (word : Text) : Int := (names.lookup (word.map capital)).getD fallback

def label (level : Int) : Text :=
  match names.find? fun entry => entry.2 = level with
  | some entry => entry.1
  | none => "Level ".toList ++ Decimal.ofInt level

end Reckoner.Level
