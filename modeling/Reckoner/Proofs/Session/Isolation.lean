import Reckoner.Proofs.Process.Session
import Reckoner.Proofs.Session.Run

set_option autoImplicit false

/-!
Several calculators at work in turns. What is at one seat goes on as a session of its own, whatever
is asked of the calculators at other seats in between; and so do the variables at one address of a
process, which calculators reach in no other way than by that address.
-/
namespace Reckoner

namespace Ensemble

def memoryOf (ensemble : Ensemble) (calculator : Nat) : Variables :=
  ensemble.memory (ensemble.seat calculator)

def after (limits : Limits) (ensemble : Ensemble) (requests : List (Nat × Step)) : Ensemble :=
  requests.foldl (fun calculators request => (step limits calculators request.1 request.2).2)
    ensemble

def toSeat (ensemble : Ensemble) (seat : Nat) (requests : List (Nat × Step)) : List Step :=
  (requests.filter fun request => ensemble.seat request.1 == seat).map Prod.snd

def fromSeat (limits : Limits) (ensemble : Ensemble) (seat : Nat)
    (requests : List (Nat × Step)) : List (Answer × Variables) :=
  ((requests.zip (run limits ensemble requests)).filter
    fun entry => ensemble.seat entry.1.1 == seat).map Prod.snd

variable (limits : Limits) (ensemble : Ensemble) (calculator : Nat) (request : Step)
  (rest : List (Nat × Step))

/-- A request is answered from the variables at its seat, and changes them as in a session. -/
theorem step_self :
    (step limits ensemble calculator request).1 =
        Session.step limits (ensemble.memoryOf calculator) request ∧
      (step limits ensemble calculator request).2.memory (ensemble.seat calculator) =
        (Session.step limits (ensemble.memoryOf calculator) request).2 := by
  simp only [step, memoryOf, ↓reduceIte, and_self]

theorem step_other {seat : Nat} (other : ensemble.seat calculator ≠ seat) :
    (step limits ensemble calculator request).2.memory seat = ensemble.memory seat := by
  simp only [step, Ne.symm other, ↓reduceIte]

theorem after_seats (requests : List (Nat × Step)) :
    (after limits ensemble requests).seat = ensemble.seat := by
  induction requests generalizing ensemble with
  | nil => rfl
  | cons first rest ih => exact ih _

theorem length_run (requests : List (Nat × Step)) :
    (run limits ensemble requests).length = requests.length := by
  induction requests generalizing ensemble with
  | nil => rfl
  | cons first rest ih => exact congrArg Nat.succ (ih _)

theorem toSeat_self :
    toSeat ensemble (ensemble.seat calculator) ((calculator, request) :: rest) =
      request :: toSeat ensemble (ensemble.seat calculator) rest := by
  simp only [toSeat, beq_self_eq_true, List.filter_cons_of_pos, List.map_cons]

theorem toSeat_other {seat : Nat} (other : ensemble.seat calculator ≠ seat) :
    toSeat ensemble seat ((calculator, request) :: rest) = toSeat ensemble seat rest := by
  have apart : (ensemble.seat calculator == seat) = false := by simpa using other
  simp only [toSeat, List.filter_cons, apart, Bool.false_eq_true, ↓reduceIte]

/-- Each seat is a session of the requests that go there. -/
theorem seat_session (seat : Nat) (requests : List (Nat × Step)) :
    fromSeat limits ensemble seat requests =
        Session.run limits (ensemble.memory seat) (toSeat ensemble seat requests) ∧
      (after limits ensemble requests).memory seat =
        Session.after limits (ensemble.memory seat) (toSeat ensemble seat requests) := by
  induction requests generalizing ensemble with
  | nil => exact ⟨rfl, rfl⟩
  | cons first rest ih =>
      obtain ⟨calculator, request⟩ := first
      obtain ⟨answers, left⟩ := ih (step limits ensemble calculator request).2
      by_cases here : ensemble.seat calculator = seat
      · subst seat
        obtain ⟨answer, memory⟩ := step_self limits ensemble calculator request
        rw [memory] at answers left
        rw [toSeat_self, Session.run, Session.after_cons]
        refine ⟨?_, left⟩
        simp only [fromSeat, run, List.zip_cons_cons, beq_self_eq_true, List.filter_cons_of_pos,
          List.map_cons]
        rw [answer]
        exact congrArg _ answers
      · rw [step_other limits ensemble calculator request here] at answers left
        rw [toSeat_other ensemble calculator request rest here]
        refine ⟨?_, left⟩
        have apart : (ensemble.seat calculator == seat) = false := by simpa using here
        simp only [fromSeat, run, List.zip_cons_cons, List.filter_cons, apart, Bool.false_eq_true,
          ↓reduceIte]
        exact answers

theorem fromSeat_apart {calculator : Nat}
    (apart : ∀ other, ensemble.seat other = ensemble.seat calculator → other = calculator)
    (requests : List (Nat × Step)) :
    toSeat ensemble (ensemble.seat calculator) requests =
        (requests.filter fun request => request.1 == calculator).map Prod.snd ∧
      fromSeat limits ensemble (ensemble.seat calculator) requests =
        ((requests.zip (run limits ensemble requests)).filter
          fun entry => entry.1.1 == calculator).map Prod.snd := by
  have same (other : Nat) :
      (ensemble.seat other == ensemble.seat calculator) = (other == calculator) := by
    rw [Bool.eq_iff_iff, beq_iff_eq, beq_iff_eq]
    exact ⟨apart other, congrArg _⟩
  exact ⟨by simp only [toSeat, same], by simp only [fromSeat, same]⟩

theorem fromSeat_shared {seat : Nat} (shared : ∀ calculator, ensemble.seat calculator = seat)
    (requests : List (Nat × Step)) :
    toSeat ensemble seat requests = requests.map Prod.snd ∧
      fromSeat limits ensemble seat requests = run limits ensemble requests := by
  have all (calculator : Nat) : (ensemble.seat calculator == seat) = true := by simp [shared]
  constructor
  · simp only [toSeat, all, List.filter_true]
  · simp only [fromSeat, all, List.filter_true]
    exact List.map_snd_zip (Nat.le_of_eq (length_run limits ensemble requests))

end Ensemble

namespace Work

variable (owned : Nat → Nat)

theorem step_ensemble (process : Process) (calculator : Nat) (request : Step) :
    Ensemble.step process.limits ⟨owned, process.memory⟩ calculator request =
      (Session.step process.limits (process.memory (owned calculator)) request,
        ⟨owned, (process.write (owned calculator) (Session.step process.limits
          (process.memory (owned calculator)) request).2).memory⟩) := by
  refine Prod.ext rfl (congrArg (Ensemble.mk owned) (funext fun other => ?_))
  exact (Function.update_apply ..).symm

/-- Steps on a process are those of an ensemble whose calculators sit at their addresses. -/
theorem serve_run (requests : List (Nat × Step)) (process : Process) :
    ∃ after, (serve owned requests).run process =
        .ok (Ensemble.run process.limits ⟨owned, process.memory⟩ requests) after ∧
      after.limits = process.limits ∧ after.digitLimit = process.digitLimit ∧
      after.memory =
        (Ensemble.after process.limits ⟨owned, process.memory⟩ requests).memory := by
  induction requests generalizing process with
  | nil => exact ⟨process, rfl, rfl, rfl, rfl⟩
  | cons first rest ih =>
      obtain ⟨calculator, request⟩ := first
      have stepped := step_run process (owned calculator) request
      have written := step_ensemble owned process calculator request
      obtain ⟨after, serves, limits, digitLimit, memory⟩ := ih (process.write (owned calculator)
        (Session.step process.limits (process.memory (owned calculator)) request).2)
      refine ⟨after, ?_, limits, digitLimit, ?_⟩
      · rw [Ensemble.run, written]
        refine (bind_ok stepped).trans ?_
        have looked (left : Process) : (get : Work Process).run left = .ok left left := rfl
        refine (bind_ok (looked _)).trans ?_
        rw [Process.write_memory_self]
        exact bind_ok serves
      · rw [memory, Ensemble.after, Ensemble.after, List.foldl_cons, written]
        rfl

/-- Steps on a process leave its limits, and they leave what is at the addresses of no calculator. A
calculator whose address no other has is answered as if it were alone with its steps, and has the
variables that these leave. Calculators that all have one address are answered as if there were one
of them, with all the steps. -/
structure Isolated (process after : Process) (requests : List (Nat × Step))
    (answers : List (Answer × Variables)) : Prop where
  limits : after.limits = process.limits
  digitLimit : after.digitLimit = process.digitLimit
  elsewhere : ∀ address, (∀ calculator, owned calculator ≠ address) →
    after.memory address = process.memory address
  apart : ∀ calculator, (∀ other, owned other = owned calculator → other = calculator) →
    let own := (requests.filter fun request => request.1 == calculator).map Prod.snd
    ((requests.zip answers).filter fun entry => entry.1.1 == calculator).map Prod.snd =
        Session.run process.limits (process.memory (owned calculator)) own ∧
      after.memory (owned calculator) =
        Session.after process.limits (process.memory (owned calculator)) own
  shared : ∀ address, (∀ calculator, owned calculator = address) →
    answers = Session.run process.limits (process.memory address) (requests.map Prod.snd) ∧
      after.memory address =
        Session.after process.limits (process.memory address) (requests.map Prod.snd)

/-- Calculators of one process are isolated, as far as they have variables of their own, and these
are all that they have; whatever is asked of them, no step breaks down. A new calculator has
variables of its own unless it is given others. -/
theorem serve_isolated (process : Process) (requests : List (Nat × Step)) :
    (∀ owned, ∃ answers after, (serve owned requests).run process = .ok answers after ∧
      answers = Ensemble.run process.limits ⟨owned, process.memory⟩ requests ∧
      Isolated owned process after requests answers) ∧
    (∀ address, (calculator (some address)).run process = .ok address process) ∧
    ∀ count, ∃ addresses after, ((List.replicate count none).mapM calculator).run process =
        .ok addresses after ∧
      addresses.length = count ∧ Separate process after addresses := by
  refine ⟨fun owned => ?_, fun address => rfl, fun count => ?_⟩
  · obtain ⟨after, serves, limits, digitLimit, memory⟩ := serve_run owned requests process
    have session := Ensemble.seat_session process.limits ⟨owned, process.memory⟩
    have seats := Ensemble.after_seats process.limits ⟨owned, process.memory⟩ requests
    refine ⟨_, after, serves, rfl, limits, digitLimit, ?_, ?_, ?_⟩
    · intro address apart
      have unused : Ensemble.toSeat ⟨owned, process.memory⟩ address requests = [] := by
        simp [Ensemble.toSeat, apart]
      rw [memory, (session address requests).2, unused]
      rfl
    · intro calculator apart own
      obtain ⟨sent, returned⟩ :=
        Ensemble.fromSeat_apart process.limits ⟨owned, process.memory⟩ apart requests
      obtain ⟨answers, left⟩ := session (owned calculator) requests
      rw [sent, returned] at answers
      rw [sent] at left
      exact ⟨answers, memory ▸ left⟩
    · intro address shared
      obtain ⟨sent, returned⟩ :=
        Ensemble.fromSeat_shared process.limits ⟨owned, process.memory⟩ shared requests
      obtain ⟨answers, left⟩ := session address requests
      rw [sent, returned] at answers
      rw [sent] at left
      exact ⟨answers, memory ▸ left⟩
  · obtain ⟨addresses, after, makes, length, -, separate⟩ := calculators_run count process
    exact ⟨addresses, after, makes, length, separate⟩

/-- Two calculators in turns. Each with its own variables, the second one does not know a name that
the first one has; both with the variables of the first one, it does. -/
theorem serve_isolated_turns :
    let memory : Variables := ⟨[(['x'], 2)]⟩
    let process : Process :=
      ⟨{}, 4300, fun address => if address = 0 then memory else Table.empty, 2⟩
    let requests : List (Nat × Step) :=
      [(0, .assign ['y'] ['3']), (1, .calculate ['x']), (0, .calculate "x*y".toList),
       (1, .line "y=5".toList)]
    ((∀ other, id other = id 1 → other = 1) ∧
      ∃ answers after, (serve id requests).run process = .ok answers after ∧
        ((requests.zip answers).filter fun entry => entry.1.1 == 1).map Prod.snd =
          [(.refused (.unknownVariable ['x']), ⟨[]⟩), (.text [], ⟨[(['y'], 5)]⟩)] ∧
        after.memory 1 = ⟨[(['y'], 5)]⟩) ∧
    ((∀ calculator, (fun _ => 0 : Nat → Nat) calculator = 0) ∧
      ∃ answers after, (serve (fun _ => 0) requests).run process = .ok answers after ∧
        answers.map Prod.fst = [.done, .value (some 2), .value (some 6), .text []] ∧
        after.memory 0 = ⟨[(['x'], 2), (['y'], 5)]⟩) := by
  intro memory process requests
  obtain ⟨separate, -, -⟩ := serve_isolated process requests
  have apart : ∀ other, id other = id 1 → other = 1 := fun other same => same
  have shared : ∀ calculator, (fun _ => 0 : Nat → Nat) calculator = 0 := fun _ => rfl
  constructor
  · obtain ⟨answers, after, serves, -, isolated⟩ := separate id
    obtain ⟨returned, left⟩ := isolated.apart 1 apart
    exact ⟨apart, answers, after, serves, returned.trans (by decide), left.trans (by decide)⟩
  · obtain ⟨answers, after, serves, -, isolated⟩ := separate fun _ => 0
    obtain ⟨returned, left⟩ := isolated.shared 0 shared
    refine ⟨shared, answers, after, serves, ?_, left.trans (by decide)⟩
    rw [returned]
    decide

end Work

end Reckoner
