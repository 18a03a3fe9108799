import Reckoner.Fault

set_option autoImplicit false

/-!
Stages that may be refused: what a chain of stages yields, where it is refused, and what is left of
it if each of its stages refuses less.
-/
namespace Reckoner

variable {α β : Type} {source : Except Fault α} {next : α → Except Fault β}

@[simp] theorem ok_bind {ε : Type} (value : α) (next : α → Except ε β) :
    (Except.ok value >>= next) = next value := rfl

@[simp] theorem error_bind {ε : Type} (fault : ε) (next : α → Except ε β) :
    (Except.error fault >>= next) = .error fault := rfl

@[simp] theorem pure_eq_ok (value : α) : (pure value : Except Fault α) = .ok value := rfl

theorem bind_eq_ok_iff {ε : Type} {source : Except ε α} {next : α → Except ε β} (result : β) :
    (source >>= next) = .ok result ↔ ∃ value, source = .ok value ∧ next value = .ok result := by
  cases source with
  | error fault => simp
  | ok value => simp

theorem bind_eq_error_iff {ε : Type} {source : Except ε α} {next : α → Except ε β} (fault : ε) :
    (source >>= next) = .error fault ↔
      source = .error fault ∨ ∃ value, source = .ok value ∧ next value = .error fault := by
  cases source with
  | error first => simp
  | ok value => simp

/-- If the stage is refused, the fault is one of the class. -/
def Within (admitted : Fault → Prop) (stage : Except Fault α) : Prop :=
  ∀ fault, stage = .error fault → admitted fault

variable {admitted : Fault → Prop}

theorem within_ok (value : α) : Within admitted (.ok value) := by
  intro fault refused
  cases refused

theorem within_error {fault : Fault} (inside : admitted fault) :
    Within admitted (.error fault : Except Fault α) := by
  intro other same
  cases same
  exact inside

theorem Within.imp {wider : Fault → Prop} (within : Within admitted source)
    (more : ∀ fault, admitted fault → wider fault) : Within wider source :=
  fun fault refused => more fault (within fault refused)

theorem Within.bind (first : Within admitted source)
    (second : ∀ value, source = .ok value → Within admitted (next value)) :
    Within admitted (source >>= next) := by
  cases done : source with
  | error fault => exact within_error (first fault done)
  | ok value => exact second value done

/-- Where the first stage succeeds, the second one comes to the same. -/
def Persists (stage other : Except Fault α) : Prop :=
  ∀ value, stage = .ok value → other = .ok value

theorem Persists.refl (stage : Except Fault α) : Persists stage stage := fun _ done => done

theorem Persists.of_error (fault : Fault) (other : Except Fault α) :
    Persists (.error fault) other := by
  intro value done
  cases done

theorem Persists.bind {other : Except Fault α} {later : α → Except Fault β}
    (first : Persists source other) (second : ∀ value, Persists (next value) (later value)) :
    Persists (source >>= next) (other >>= later) := by
  intro result done
  rw [bind_eq_ok_iff] at done ⊢
  obtain ⟨value, began, ended⟩ := done
  exact ⟨value, first value began, second value result ended⟩

end Reckoner
