set_option autoImplicit false

namespace Reckoner

/-- What the calculator will take on. A limit below zero leaves nothing to be taken on. -/
structure Limits where
  /-- The most characters of an expression or assignment. -/
  maxInputLength : Int := 10000
  /-- The largest exponent of a power. -/
  maxExponent : Int := 100000
  /-- The most binary digits of a power, by an estimate from above. -/
  maxResultBits : Int := 1000000
  deriving Repr, DecidableEq

end Reckoner
