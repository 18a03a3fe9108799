import Reckoner.CommandLine.Breakdown
import Reckoner.Text.Lines

set_option autoImplicit false

/-!
The health check: a few lines whose outcome is known, worked out by one calculator.
-/
namespace Reckoner.HealthCheck

/-- A line and what it must show. -/
structure Check where
  label : Text
  line : Text
  expected : Text
  deriving Repr, DecidableEq

def checks : List Check :=
  [⟨"Basic arithmetic".toList, "2 + 2 * 2".toList, "6".toList⟩,
   ⟨"Sign-run collapsing".toList, "5 + - + - 3".toList, "8".toList⟩,
   ⟨"Left-associative power".toList, "2^3^2".toList, "64".toList⟩,
   ⟨"Unbalanced parentheses".toList, "(2 + 3".toList, "Invalid expression".toList⟩]

/-- What the calculator shows for a check. No check sets a variable. -/
def shown (limits : Limits) (check : Check) : Text :=
  (Calculator.line limits Table.empty check.line).1

/-- Working out a check comes to a breakdown. -/
def breaks (bounds : Bounds) (check : Check) : Bool := bounds.breaks Table.empty check.line

def passes (bounds : Bounds) (check : Check) : Bool :=
  !breaks bounds check && shown bounds.limits check == check.expected

/-- The verdict on a check. A breakdown fails the check and nothing else. -/
def verdict (bounds : Bounds) (check : Check) : Text :=
  if passes bounds check then "[OK] ".toList ++ check.label ++ " works".toList
  else if breaks bounds check then
    "[FAIL] ".toList ++ check.label ++ " check failed: ".toList ++
      Breakdown.exponentNotJudged.message
  else
    "[FAIL] ".toList ++ check.label ++ ": expected ".toList ++ check.expected.quoted ++
      ", got ".toList ++ (shown bounds.limits check).quoted

def healthy (bounds : Bounds) : Bool := checks.all (passes bounds)

/-- A line across the report. -/
def rule : Text := List.replicate 50 '-'

/-- The report. Finding the library of exact integers is the first success. -/
def report (bounds : Bounds) : Text :=
  let passed := 1 + (checks.filter (passes bounds)).length
  let failed := (checks.filter fun check => !passes bounds check).length
  Text.unlines <|
    ["Running intcalc health check...".toList, rule,
     "[OK] SymPy 1.14.0 imported successfully".toList] ++
    checks.map (verdict bounds) ++
    [rule,
     "Results: ".toList ++ Decimal.ofNat passed ++ " passed, ".toList ++ Decimal.ofNat failed ++
       " failed".toList,
     [],
     if healthy bounds then "[OK] All health checks passed!".toList
     else "[WARN] Some health checks failed. Core functionality may be impaired.".toList]

def events (bounds : Bounds) : List Event :=
  checks.flatMap fun check =>
    if breaks bounds check then Calculator.readingEvents check.line.trim
    else Calculator.lineEvents bounds.limits Table.empty check.line

end Reckoner.HealthCheck
