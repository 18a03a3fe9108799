import Reckoner.Proofs.Process.Calculator

set_option autoImplicit false

/-!
Clients at work on a process: they make calculators, each on variables of its own or on given ones,
and ask them to do steps. A step comes to what it comes to in a session, and writes at the address
of its calculator only.
-/
namespace Reckoner.Work

/-- One step of the calculator that works on the variables at the address. The client takes up the
faults that it is told of. -/
def step (address : Nat) : Step → Work Answer
  | .line text => do return .text (← line address text)
  | .command text => do return .text (← command address text)
  | .calculate text =>
      onFault (do return .value (← calculate address text)) fun fault => return .refused fault
  | .assign name operand =>
      onFault (do assign address name operand; return .done) fun fault => return .refused fault
  | .report text => do return .report (← report address text)
  | .set name value => do
      modify fun process => process.write address ((process.memory address).set name value)
      return .done
  | .get name => do return .value (((← get).memory address).get? name)
  | .contains name => do return .flag (((← get).memory address).contains name)
  | .size => do return .count ((← get).memory address).size

/-- Steps of numbered calculators, each with its answer and the variables of the calculator. -/
def serve (owned : Nat → Nat) : List (Nat × Step) → Work (List (Answer × Variables))
  | [] => return []
  | (calculator, request) :: rest => do
      let answer ← step (owned calculator) request
      let content := (← get).memory (owned calculator)
      return (answer, content) :: (← serve owned rest)

def environment : Work Nat := do
  let address := (← get).made
  modify fun process => { process.write address Table.empty with made := address + 1 }
  return address

def calculator (given : Option Nat) : Work Nat :=
  match given with
  | some address => return address
  | none => environment

section Step

variable (process : Process) (address : Nat)

theorem step_run (request : Step) : (step address request).run process =
    .ok (Session.step process.limits (process.memory address) request).1 (process.write address
      (Session.step process.limits (process.memory address) request).2) := by
  cases request with
  | line text => exact bind_ok (line_run process address text)
  | command text => exact bind_ok (command_run process address text)
  | report text => exact bind_ok (report_run process address text)
  | calculate text =>
      have calculated := calculate_run process address text
      simp only [Session.step]
      cases done : Calculator.calculate process.limits (process.memory address) text with
      | error fault =>
          rw [done] at calculated
          dsimp only
          rw [process.write_same]
          exact onFault_fault (bind_error calculated)
      | ok result =>
          obtain ⟨value, after⟩ := result
          rw [done] at calculated
          exact onFault_ok (bind_ok calculated)
  | assign name operand =>
      have assigned := assign_run process address name operand
      simp only [Session.step]
      cases done : Calculator.assign (process.memory address) name operand with
      | error fault =>
          rw [done] at assigned
          dsimp only
          rw [process.write_same]
          exact onFault_fault (bind_error assigned)
      | ok after =>
          rw [done] at assigned
          exact onFault_ok (bind_ok assigned)
  | set name value => rfl
  | get name => exact congrArg (EStateM.Result.ok _) (process.write_same address).symm
  | contains name => exact congrArg (EStateM.Result.ok _) (process.write_same address).symm
  | size => exact congrArg (EStateM.Result.ok _) (process.write_same address).symm

end Step

/-- The addresses of new calculators that have variables of their own. They were not in use before,
no two of them are the same, and nothing is set there. All else in the process is as it was. -/
structure Separate (process after : Process) (addresses : List Nat) : Prop where
  limits : after.limits = process.limits
  digitLimit : after.digitLimit = process.digitLimit
  fresh : ∀ address ∈ addresses, process.made ≤ address ∧ address < after.made ∧
    after.memory address = Table.empty
  distinct : addresses.Nodup
  before : ∀ address < process.made, after.memory address = process.memory address

theorem calculators_run (count : Nat) (process : Process) :
    ∃ addresses after, ((List.replicate count none).mapM calculator).run process =
        .ok addresses after ∧
      addresses.length = count ∧ process.made ≤ after.made ∧ Separate process after addresses := by
  induction count generalizing process with
  | zero =>
      exact ⟨[], process, rfl, rfl, Nat.le_refl _, rfl, rfl, List.forall_mem_nil _,
        List.nodup_nil, fun _ _ => rfl⟩
  | succ count ih =>
      obtain ⟨addresses, after, makes, length, more, rest⟩ :=
        ih { process.write process.made Table.empty with made := process.made + 1 }
      have grows : process.made + 1 ≤ after.made := more
      have later : ∀ address ∈ addresses, process.made + 1 ≤ address := fun address member =>
        (rest.fresh address member).1
      refine ⟨process.made :: addresses, after, ?_, congrArg Nat.succ length, by omega,
        rest.limits, rest.digitLimit, ?_, ?_, ?_⟩
      · rw [List.replicate_succ, List.mapM_cons]
        have first : (calculator none).run process = .ok process.made
            { process.write process.made Table.empty with made := process.made + 1 } := rfl
        exact (bind_ok first).trans (bind_ok makes)
      · refine List.forall_mem_cons.mpr ⟨⟨Nat.le_refl _, by omega, ?_⟩, fun address member => ?_⟩
        · rw [rest.before process.made (Nat.lt_succ_self _)]
          exact process.write_memory_self process.made Table.empty
        · have new := later address member
          exact ⟨by omega, (rest.fresh address member).2⟩
      · refine List.nodup_cons.mpr ⟨fun member => ?_, rest.distinct⟩
        have new := later process.made member
        omega
      · intro address old
        have apart : address ≠ process.made := by omega
        rw [rest.before address (Nat.lt_succ_of_lt old)]
        exact process.write_memory_other process.made Table.empty apart

end Reckoner.Work
