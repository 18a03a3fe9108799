import Reckoner.Session

set_option autoImplicit false

/-!
Sessions as wholes: what they leave at the end, and some of their requests without the others.
-/
namespace Reckoner

/-- The items beside the marks that are set. -/
def kept {α : Type} (marks : List Bool) (items : List α) : List α :=
  ((marks.zip items).filter Prod.fst).map Prod.snd

section Kept

variable {α : Type} (marks : List Bool) (item : α) (items : List α)

@[simp] theorem kept_true : kept (true :: marks) (item :: items) = item :: kept marks items := rfl

@[simp] theorem kept_false : kept (false :: marks) (item :: items) = kept marks items := rfl

end Kept

namespace Session

variable (limits : Limits) (memory : Variables)

def after (steps : List Step) : Variables :=
  ((run limits memory steps).map Prod.snd).getLastD memory

@[simp] theorem after_nil : after limits memory [] = memory := rfl

@[simp] theorem after_cons (request : Step) (rest : List Step) :
    after limits memory (request :: rest) = after limits (step limits memory request).2 rest := by
  simp only [after, run, List.map_cons, List.getLastD_cons]

theorem after_append (front back : List Step) :
    after limits memory (front ++ back) = after limits (after limits memory front) back := by
  induction front generalizing memory with
  | nil => rfl
  | cons request rest ih => simp only [List.cons_append, after_cons, ih]

end Session

end Reckoner
