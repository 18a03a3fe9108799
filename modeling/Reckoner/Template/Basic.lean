import Reckoner.Table
import Reckoner.Template.Conversion

set_option autoImplicit false

/-!
Templates. A template is a text with places for data. A place starts with a percent sign; behind
it come the name of a datum in parentheses, flags, a width, a precision and a size, all of them
optional, and last the letter of a conversion. Two percent signs stand for one.
-/
namespace Reckoner

/-- Where data come from: a row, taken first to last, or a table of names. What has no name takes
the whole table, as a single datum. -/
inductive Supply where
  | row (data : List Filling)
  | named (data : Table Filling) (whole : Filling)
  deriving Repr, DecidableEq

namespace Supply

/-- What places without names can take at the start. -/
def pending : Supply → List Filling
  | .row data => data
  | .named _ whole => [whole]

/-- Data of a row must not be left over. -/
def finish (supply : Supply) (pending : List Filling) : Except TemplateFault (List Piece) :=
  match supply, pending with
  | .row _, _ :: _ => .error .tooManyData
  | _, _ => .ok []

end Supply

namespace Template

/-- What is left of a template, and the data that may be taken next. -/
structure Reading where
  rest : Text
  pending : List Filling
  deriving Repr, DecidableEq

def take (reading : Reading) : Except TemplateFault (Filling × Reading) :=
  match reading.pending with
  | [] => .error .tooFewData
  | filling :: later => .ok (filling, { reading with pending := later })

/-- A name up to its closing parenthesis, and what is behind. Parentheses in a name are paired. -/
def splitName (depth : Nat) : Text → Option (Text × Text)
  | [] => none
  | '(' :: rest => (splitName (depth + 1) rest).map fun parts => ('(' :: parts.1, parts.2)
  | ')' :: rest =>
      match depth with
      | 0 => some ([], rest)
      | depth + 1 => (splitName depth rest).map fun parts => (')' :: parts.1, parts.2)
  | c :: rest => (splitName depth rest).map fun parts => (c :: parts.1, parts.2)

/-- The name of a place. Its datum is all that the place, and places without names behind it, can
take. -/
def readName (supply : Supply) (reading : Reading) : Except TemplateFault Reading :=
  match reading.rest, supply with
  | '(' :: _, .row _ => .error .namesExpected
  | '(' :: rest, .named data _ =>
      match splitName 0 rest with
      | none => .error .nameUnfinished
      | some (name, rest) =>
          match data.get? name with
          | some filling => .ok ⟨rest, [filling]⟩
          | none => .error (.nameUnknown name)
  | _, _ => .ok reading

def flag (c : Char) : Bool := "-+ #0".toList.contains c

def readFlags (reading : Reading) : Layout × Reading :=
  let flags := reading.rest.takeWhile flag
  (⟨flags.contains '-', flags.contains '+', flags.contains ' ', flags.contains '#',
    flags.contains '0', none, none⟩, { reading with rest := reading.rest.dropWhile flag })

/-- A number written with digits, if there is one, and what is behind. -/
def splitDigits (text : Text) : Option Nat × Text :=
  let digits := text.takeWhile Text.digit
  (if digits.isEmpty then none else some (Decimal.value digits), text.dropWhile Text.digit)

/-- A number that a star takes from the data. -/
def readStar (reading : Reading) : Except TemplateFault (Int × Reading) := do
  let (filling, after) ← take reading
  match filling.number with
  | some value => .ok (value, after)
  | none => .error .widthExpected

/-- The width of a place. A negative one is taken from the right. -/
def readWidth (layout : Layout) (reading : Reading) : Except TemplateFault (Layout × Reading) :=
  match reading.rest with
  | '*' :: rest => do
      let (value, after) ← readStar { reading with rest := rest }
      if value < -Int.pow 2 63 ∨ Int.pow 2 63 ≤ value then .error .widthNotCounted
      else .ok ({ layout with
        width := some value.natAbs, left := layout.left || decide (value < 0) }, after)
  | text =>
      match splitDigits text with
      | (some width, rest) =>
          if width < Nat.pow 2 63 then
            .ok ({ layout with width := some width }, { reading with rest := rest })
          else .error .widthTooLarge
      | (none, _) => .ok (layout, reading)

/-- The precision of a place, behind a point. Without a number it is zero. -/
def readPrecision (layout : Layout) (reading : Reading) :
    Except TemplateFault (Layout × Reading) :=
  match reading.rest with
  | '.' :: '*' :: rest => do
      let (value, after) ← readStar { reading with rest := rest }
      if value < -Int.pow 2 31 ∨ Int.pow 2 31 ≤ value then .error .precisionNotCounted
      else .ok ({ layout with precision := some value.toNat }, after)
  | '.' :: text =>
      let (precision, rest) := splitDigits text
      if precision.getD 0 < Nat.pow 2 31 then
        .ok ({ layout with precision := some (precision.getD 0) }, { reading with rest := rest })
      else .error .precisionTooLarge
  | _ => .ok (layout, reading)

/-- The size of a place, which changes nothing. -/
def readSize (reading : Reading) : Reading :=
  match reading.rest with
  | c :: rest => if "hlL".toList.contains c then { reading with rest := rest } else reading
  | [] => reading

/-- One place, behind its percent sign: what it shows, and what is left. `length` is that of the
whole template. -/
def readPlace (supply : Supply) (length : Nat) (reading : Reading) :
    Except TemplateFault (List Piece × Reading) := do
  let named ← readName supply reading
  let (layout, flagged) := readFlags named
  let (layout, wide) ← readWidth layout flagged
  let (layout, precise) ← readPrecision layout wide
  match (readSize precise).rest with
  | [] => .error .placeUnfinished
  | letter :: rest => do
      let (filling, after) ← take { precise with rest := rest }
      return (← Conversion.convert layout letter (length - rest.length - 1) filling, after)

/-- Fills the places from first to last. `passed` counts the characters of a place that was read
already. -/
def fillFrom (supply : Supply) (length : Nat) :
    Nat → List Filling → Text → Except TemplateFault (List Piece)
  | _, pending, [] => supply.finish pending
  | passed + 1, pending, _ :: rest => fillFrom supply length passed pending rest
  | 0, pending, '%' :: '%' :: rest => do
      return Piece.prepend '%' (← fillFrom supply length 0 pending rest)
  | 0, pending, '%' :: rest => do
      let (shown, after) ← readPlace supply length ⟨rest, pending⟩
      return shown ++
        (← fillFrom supply length (rest.length - after.rest.length) after.pending rest)
  | 0, pending, c :: rest => do
      return Piece.prepend c (← fillFrom supply length 0 pending rest)

def fill (template : Text) (supply : Supply) : Except TemplateFault (List Piece) :=
  fillFrom supply template.length 0 supply.pending template

/-- A message: a template with its row of data. Without data it stands as it is. -/
def message (template : Text) (data : List Datum) : Except TemplateFault Text :=
  if data.isEmpty then .ok template
  else (fill template (.row (data.map Datum.filling))).map Piece.writeAll

end Template

end Reckoner
