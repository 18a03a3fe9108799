import Reckoner.Report.Basic

set_option autoImplicit false

/-!
Records as JSON texts, one field a line, and results as a reader of either format sees them.
-/
namespace Reckoner

namespace Json

/-- A character inside a JSON string. -/
def escape (c : Char) : Text :=
  if c = '"' ∨ c = '\\' then ['\\', c]
  else if c = '\n' then ['\\', 'n']
  else if c = '\r' then ['\\', 'r']
  else if c = '\t' then ['\\', 't']
  else if c.toNat = 8 then ['\\', 'b']
  else if c.toNat = 12 then ['\\', 'f']
  else if c.toNat < 0x20 then '\\' :: 'u' :: Text.hex 4 c.toNat
  else [c]

def string (text : Text) : Text := '"' :: text.flatMap escape ++ ['"']

def datum : Datum → Text
  | .text content => string content
  | .number value => Decimal.ofInt value
  | .flag true => "true".toList
  | .flag false => "false".toList
  | .nothing => "null".toList

/-- A field on a line of its own. -/
def field (entry : Text × Datum) : Text :=
  "\n  ".toList ++ string entry.1 ++ ": ".toList ++ datum entry.2

def object (record : Record) : Text :=
  match record.entries with
  | [] => "\x7b\x7d".toList
  | entries => '\x7b' :: Text.join [','] (entries.map field) ++ "\n\x7d".toList

end Json

inductive Format where
  | json
  | human
  deriving Repr, DecidableEq

namespace Format

def label : Format → Text
  | .json => "json".toList
  | .human => "human".toList

/-- The format of a word. Every other word stands for the human one. -/
def ofWord (word : Text) : Format := if word = "json".toList then .json else .human

def outputLine (text : Text) : Text := text ++ ['\n']

/-- A record as a person wants it: the error if it is not ok, else the result if there is one. -/
def humanText (record : Record) : Text :=
  if ((record.get? "ok".toList).getD .nothing).holds then
    match record.get? "result".toList with
    | none => []
    | some .nothing => []
    | some datum => outputLine datum.plain
  else outputLine ((record.get? "error".toList).getD .nothing).plain

def output : Format → Record → Text
  | .json, record => outputLine (Json.object record)
  | .human, record => humanText record

end Format

end Reckoner
