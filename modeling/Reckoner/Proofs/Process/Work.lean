import Mathlib.Logic.Function.Basic
import Reckoner.Proofs.Calculator.Frailty
import Reckoner.Session

set_option autoImplicit false

/-!
The calculator as it works on a process. The limits and the most digits of a numeral are those of
the process, and variables are kept at addresses that several calculators may know. Whatever a stage
has changed when it breaks off stays changed.
-/
namespace Reckoner

/-- What the calculators of a process have in common. Variables are kept at the addresses below
`made`. A numeral may have `digitLimit` digits where it is read or written, or any number of them
if that is zero. -/
structure Process where
  limits : Limits
  digitLimit : Nat
  memory : Nat → Variables
  made : Nat

namespace Process

def write (process : Process) (address : Nat) (content : Variables) : Process :=
  { process with memory := Function.update process.memory address content }

variable (process : Process) (address : Nat) (content : Variables)

@[simp] theorem write_limits : (process.write address content).limits = process.limits := rfl

@[simp] theorem write_digitLimit :
    (process.write address content).digitLimit = process.digitLimit := rfl

@[simp] theorem write_made : (process.write address content).made = process.made := rfl

@[simp] theorem write_memory_self : (process.write address content).memory address = content :=
  Function.update_self ..

theorem write_memory_other {other : Nat} (apart : other ≠ address) :
    (process.write address content).memory other = process.memory other :=
  Function.update_of_ne apart ..

@[simp] theorem write_same : process.write address (process.memory address) = process := by
  rw [write, Function.update_eq_self]

end Process

/-- Work on a process. It is done or breaks off, and leaves the process in either case. -/
abbrev Work := EStateM Mishap Process

namespace Work

section Run

variable {α β : Type} {process : Process}

/-- The process is left as it is, with the outcome of a stage. -/
def ending (process : Process) : Except Mishap α → EStateM.Result Mishap Process α
  | .ok value => .ok value process
  | .error mishap => .error mishap process

theorem ofExcept_run (stage : Except Mishap α) (process : Process) :
    (MonadExcept.ofExcept stage : Work α).run process = ending process stage := by
  cases stage with
  | ok value => rfl
  | error mishap => rfl

theorem bind_ok {first : Work α} {next : α → Work β} {value : α} {left : Process}
    (runs : first.run process = .ok value left) :
    (first >>= next).run process = (next value).run left := by
  have done : first process = .ok value left := runs
  change EStateM.bind first next process = _
  rw [EStateM.bind, done]
  rfl

theorem bind_error {first : Work α} {next : α → Work β} {mishap : Mishap} {left : Process}
    (runs : first.run process = .error mishap left) :
    (first >>= next).run process = .error mishap left := by
  have failed : first process = .error mishap left := runs
  change EStateM.bind first next process = _
  rw [EStateM.bind, failed]

/-- A chain of stages that leave the process as it is does so itself. -/
theorem bind_ending {first : Work α} {next : α → Work β} {stage : Except Mishap α}
    {later : α → Except Mishap β} (runs : first.run process = ending process stage)
    (ends : ∀ value, (next value).run process = ending process (later value)) :
    (first >>= next).run process = ending process (stage >>= later) := by
  cases stage with
  | ok value => exact (bind_ok runs).trans (ends value)
  | error mishap => exact bind_error runs

/-- Work that has faults taken up. What breaks down otherwise is not caught. -/
def onFault (body : Work α) (other : Fault → Work α) : Work α :=
  try body catch
    | .fault fault => other fault
    | mishap => throw mishap

theorem onFault_ok {body : Work α} {other : Fault → Work α} {value : α} {left : Process}
    (runs : body.run process = .ok value left) :
    (onFault body other).run process = .ok value left := by
  have done : body process = .ok value left := runs
  change EStateM.tryCatch body _ process = _
  rw [EStateM.tryCatch, done]

theorem onFault_fault {body : Work α} {other : Fault → Work α} {fault : Fault} {left : Process}
    (runs : body.run process = .error (.fault fault) left) :
    (onFault body other).run process = (other fault).run left := by
  have failed : body process = .error (.fault fault) left := runs
  change EStateM.tryCatch body _ process = _
  rw [EStateM.tryCatch, failed]
  rfl

end Run

section Digits

variable {α : Type}

/-- Work without a limit on digits. However it ends, the limit is set again. -/
def unlimited (body : Work α) : Work α := do
  let before := (← get).digitLimit
  modify fun process => { process with digitLimit := 0 }
  try body finally modify fun process => { process with digitLimit := before }

theorem unlimited_run {body : Work α} {stage : Except Mishap α} (process : Process)
    (runs : body.run { process with digitLimit := 0 } =
      ending { process with digitLimit := 0 } stage) :
    (unlimited body).run process = ending process stage := by
  have lifted : body { process with digitLimit := 0 } =
      ending { process with digitLimit := 0 } stage := runs
  have whole : (unlimited body).run process =
      (tryFinally body (modify fun left => { left with digitLimit := process.digitLimit }) :
        Work α) { process with digitLimit := 0 } := rfl
  rw [whole]
  simp only [tryFinally, tryFinally', Functor.map, EStateM.map, lifted]
  cases stage with
  | ok value => rfl
  | error mishap => rfl

def number (text : Text) : Work Int := do
  let most := (← get).digitLimit
  let digits := Numeral.leadingDigits text
  if most ≠ 0 ∧ most < digits then throw (.unreadable (.tooLong digits))
  else MonadExcept.ofExcept (Frail.number text)

def decimal (value : Int) : Work Text := do
  let most := (← get).digitLimit
  let digits := (Decimal.ofNat value.natAbs).length
  if most ≠ 0 ∧ most < digits then throw (.unreadable (.tooLong digits))
  else return Decimal.ofInt value

theorem unlimited_number (text : Text) (process : Process) :
    (unlimited (number text)).run process = ending process (Frail.number text) :=
  unlimited_run process (ofExcept_run (Frail.number text) _)

theorem unlimited_decimal (value : Int) (process : Process) :
    (unlimited (decimal value)).run process = .ok (Decimal.ofInt value) process := by
  have written : (decimal value).run { process with digitLimit := 0 } =
      ending { process with digitLimit := 0 } (.ok (Decimal.ofInt value)) := rfl
  exact unlimited_run process written

end Digits

end Work

end Reckoner
