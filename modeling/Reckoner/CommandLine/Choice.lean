set_option autoImplicit false

/-!
Choices: what a command line makes of a parameter that takes a value.
-/
namespace Reckoner

/-- A parameter is not mentioned, or it is mentioned and its value taken back, or it has a
value. -/
inductive Choice (α : Type) where
  | unsaid
  | withdrawn
  | said (value : α)
  deriving Repr, DecidableEq

namespace Choice

variable {α : Type}

def value? : Choice α → Option α
  | .said value => some value
  | _ => none

end Choice

end Reckoner
