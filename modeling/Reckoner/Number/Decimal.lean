import Reckoner.Text.Digit

set_option autoImplicit false

/-!
Decimal texts of whole numbers. A number is written by halves: the digits above a power of ten
whose exponent is a power of two, and those below it, so that a number of any length is written
by few divisions.
-/
namespace Reckoner.Decimal

/-- The low `2 ^ level` digits of a number, with leading zeros. -/
def padded : Nat → Nat → Text
  | 0, n => [Nat.digitChar n]
  | level + 1, n =>
      let unit := Nat.pow 10 (Nat.pow 2 level)
      padded level (n / unit) ++ padded level (n % unit)

/-- The digits of a number below `10 ^ 2 ^ level`, without leading zeros; none for zero. -/
def significant : Nat → Nat → Text
  | 0, n => if n = 0 then [] else [Nat.digitChar n]
  | level + 1, n =>
      let unit := Nat.pow 10 (Nat.pow 2 level)
      let high := n / unit
      if high = 0 then significant level n
      else significant level high ++ padded level (n % unit)

/-- A level that holds every digit: a number has no more decimal digits than binary ones. -/
def level (n : Nat) : Nat := (n.log2 + 1).log2 + 1

def ofNat (n : Nat) : Text := if n = 0 then ['0'] else significant (level n) n

/-- An integer in decimal, with a minus sign if it is negative. -/
def ofInt (n : Int) : Text := if n < 0 then '-' :: ofNat n.natAbs else ofNat n.natAbs

def value (digits : Text) : Nat := digits.foldl (fun n c => 10 * n + (c.toNat - 48)) 0

/-- Parts a text into its sign, if it starts with one, and the rest. -/
def splitSign : Text → Option Char × Text
  | '+' :: rest => (some '+', rest)
  | '-' :: rest => (some '-', rest)
  | text => (none, text)

/-- The number with the sign that was written before it. -/
def signed (sign : Option Char) (n : Nat) : Int := if sign = some '-' then -n else n

end Reckoner.Decimal
