import Reckoner.CommandLine.Parameter
import Reckoner.Template.Basic

set_option autoImplicit false

/-!
Particulars of a parameter. The explanation of the journal's level holds a free text from the
settings, so that it is a template, which may name what is known of that parameter.
-/
namespace Reckoner.Particulars

def list (texts : List Text) : Filling :=
  let shown := '[' :: Text.join ", ".toList (texts.map Text.quoted) ++ [']']
  { sort := "list".toList, plain := shown, quoted := shown }

/-- The part of help that lists the parameter, an object that is told apart by an address. -/
def container : Filling :=
  let shown := "<argparse._ArgumentGroup object at 0x7f0000000000>".toList
  { sort := "_ArgumentGroup".toList, plain := shown, quoted := shown }

/-- What is known of the parameter for the journal's level, given its explanation. -/
def ofLevel (explanation : Text) : Table Filling :=
  let text (content : Text) : Filling := (Datum.text content).filling
  let nothing : Filling := Datum.nothing.filling
  ⟨[("option_strings".toList, list Parameter.logLevel.spellings),
    ("dest".toList, text "log_level".toList),
    ("nargs".toList, nothing),
    ("const".toList, nothing),
    ("default".toList, nothing),
    ("type".toList, text "str".toList),
    ("choices".toList, text (Text.join ", ".toList (Parameter.logLevel.choices.getD []))),
    ("required".toList, (Datum.flag false).filling),
    ("help".toList, text explanation),
    ("metavar".toList, nothing),
    ("container".toList, container),
    ("prog".toList, text "intcalc".toList)]⟩

/-- All particulars in one, each behind its name. -/
def whole (particulars : Table Filling) : Filling :=
  let shown := "\x7b".toList ++ Text.join ", ".toList (particulars.entries.map fun entry =>
    entry.1.quoted ++ ": ".toList ++ entry.2.quoted) ++ "\x7d".toList
  { sort := "dict".toList, plain := shown, quoted := shown }

/-- What an explanation of the journal's level is filled from. -/
def supply (explanation : Text) : Supply :=
  .named (ofLevel explanation) (whole (ofLevel explanation))

end Reckoner.Particulars
