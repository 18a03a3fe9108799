import Reckoner.Text.Basic

set_option autoImplicit false

/-!
Tables: values under names, in the order in which the names were first set.
-/
namespace Reckoner

/-- Names and their values, oldest name first. -/
structure Table (α : Type) where
  entries : List (Text × α)
  deriving Repr, DecidableEq

namespace Table

variable {α : Type}

def empty : Table α := ⟨[]⟩

def get? (table : Table α) (name : Text) : Option α := table.entries.lookup name

def contains (table : Table α) (name : Text) : Bool := (table.get? name).isSome

def size (table : Table α) : Nat := table.entries.length

/-- The names that are set, oldest first. -/
def names (table : Table α) : List Text := table.entries.map Prod.fst

/-- Replaces the value of a name in place, or adds the name at the end. -/
def setEntry (name : Text) (value : α) : List (Text × α) → List (Text × α)
  | [] => [(name, value)]
  | entry :: rest =>
      if entry.1 = name then (name, value) :: rest else entry :: setEntry name value rest

/-- Gives a name a value. A name that was set keeps its place. -/
def set (table : Table α) (name : Text) (value : α) : Table α :=
  ⟨setEntry name value table.entries⟩

def ofList (entries : List (Text × α)) : Table α :=
  entries.foldl (fun table entry => table.set entry.1 entry.2) empty

end Table

abbrev Variables := Table Int

end Reckoner
