import Reckoner.Proofs.Calculator.Result
import Reckoner.Proofs.Number.Numeral
import Reckoner.Proofs.Session.Effect
import Reckoner.Proofs.Session.Run

set_option autoImplicit false

/-!
Where stored values come from. A session of texts that starts without variables stores the values
of literals that it was given, and nothing that it worked out, however often values were copied.
-/
namespace Reckoner.Session

def steps (texts : List (Route × Text)) : List Step :=
  texts.map fun entry => entry.1.request entry.2

def built (limits : Limits) (texts : List (Route × Text)) : Variables :=
  after limits .empty (steps texts)

/-- The value was read from a literal: one of the texts assigned it to the name on its left side,
and the literal is all there is on its right side. -/
def Origin (limits : Limits) (texts : List (Route × Text)) (value : Int) : Prop :=
  ∃ before route text later, texts = before ++ (route, text) :: later ∧
    ∃ left right : Text, route.passed text = some (left ++ '=' :: right) ∧ '=' ∉ left ∧
      Calculator.calculate limits (built limits before) (left ++ '=' :: right) =
        .ok (none, (built limits before).set left.trim value) ∧
      Text.Signed Text.digit right.trim ∧ Numeral.read right.trim = .ok value

/-- Names are well-formed and occur once each, and all values were read from literals. -/
structure Sound (limits : Limits) (texts : List (Route × Text)) (memory : Variables) : Prop where
  named : ∀ entry ∈ memory.entries, Text.Signed Text.letter entry.1
  distinct : memory.names.Nodup
  read : ∀ entry ∈ memory.entries, Origin limits texts entry.2

variable {limits : Limits} {texts : List (Route × Text)} {memory : Variables}

theorem built_append (front back : List (Route × Text)) :
    built limits (front ++ back) = after limits (built limits front) (steps back) := by
  simp only [built, steps, List.map_append, after_append]

theorem Origin.later {value : Int} (origin : Origin limits texts value)
    (more : List (Route × Text)) : Origin limits (texts ++ more) value := by
  obtain ⟨before, route, text, later, rfl, found⟩ := origin
  exact ⟨before, route, text, later ++ more, by simp, found⟩

/-- A value has fewer digits than a text may have characters. -/
theorem Origin.short {value : Int} (origin : Origin limits texts value) :
    (Nat.toDigits 10 value.natAbs).length < limits.maxInputLength := by
  obtain ⟨before, route, text, later, -, left, right, -, -, assigned, literal, reads⟩ := origin
  have same : literalValue right.trim = value := by
    rw [Numeral.read_literal literal] at reads
    exact Except.ok.inj reads
  have digits := Decimal.length_toDigits_literalValue literal
  rw [same] at digits
  have trimmed := right.length_trim_le
  have inside : ¬ limits.maxInputLength < ((left ++ '=' :: right).length : Int) := by
    intro long
    rw [Calculator.calculate_tooLong limits _ (Calculator.isBlank_append left right) long]
      at assigned
    cases assigned
  rw [List.length_append, List.length_cons] at inside
  omega

theorem Sound.later (sound : Sound limits texts memory) (more : List (Route × Text)) :
    Sound limits (texts ++ more) memory :=
  ⟨sound.named, sound.distinct, fun entry member => (sound.read entry member).later more⟩

theorem Sound.set (sound : Sound limits texts memory) {name : Text} {value : Int}
    (named : Text.Signed Text.letter name) (origin : Origin limits texts value) :
    Sound limits texts (memory.set name value) := by
  refine ⟨?_, Table.nodup_set sound.distinct name value, ?_⟩
  · intro entry member
    rcases Table.mem_setEntry member with rfl | old
    · exact named
    · exact sound.named entry old
  · intro entry member
    rcases Table.mem_setEntry member with rfl | old
    · exact origin
    · exact sound.read entry old

/-- One text more keeps the variables sound. What it assigns is a literal of its own, or a copy of
a value that has an origin already. -/
theorem Sound.step (sound : Sound limits texts (built limits texts)) (route : Route) (text : Text) :
    Sound limits (texts ++ [(route, text)]) (built limits (texts ++ [(route, text)])) := by
  have kept := sound.later [(route, text)]
  rw [built_append, steps, List.map_singleton, after_cons, after_nil]
  rcases step_cases limits (built limits texts) route text with
    same | ⟨passed, name, value, takes, assigns, assigned⟩
  · rw [same]
    exact kept
  · rw [assigned]
    have succeeds := Calculator.calculate_of_assigns assigns
    obtain ⟨-, -, left, right, absent, rfl, rfl, named, ⟨literal, same⟩ | ⟨-, found⟩⟩ := assigns
    · have reads : Numeral.read right.trim = .ok value := by
        rw [Numeral.read_literal literal, same]
      exact kept.set named ⟨texts, route, text, [], rfl, left, right, takes, absent, succeeds,
        literal, reads⟩
    · exact kept.set named (kept.read _ (Table.mem_of_get? found))

theorem sound_built (texts : List (Route × Text)) : Sound limits texts (built limits texts) := by
  induction texts using List.reverseRecOn with
  | nil => exact ⟨nofun, List.nodup_nil, nofun⟩
  | append_singleton front last ih => exact ih.step last.1 last.2

theorem names_prefix_after (memory : Variables) (texts : List (Route × Text)) :
    memory.names <+: (after limits memory (steps texts)).names := by
  induction texts generalizing memory with
  | nil => exact List.prefix_refl memory.names
  | cons first rest ih =>
      obtain ⟨route, text⟩ := first
      have next : memory.names <+: (step limits memory (route.request text)).2.names := by
        rcases step_cases limits memory route text with
          same | ⟨passed, name, value, takes, assigns, assigned⟩
        · simp only [same, List.prefix_refl]
        · rw [assigned]
          exact memory.names_prefix_set name value
      rw [steps, List.map_cons, after_cons]
      exact next.trans (ih _)

/-- At any point of a session of texts that began without variables, names are well-formed and
occur once each, and keep their places from then on. Every value is that of a literal which was
assigned before, and has fewer digits than a text may have characters. -/
theorem built_sound (limits : Limits) (past future : List (Route × Text)) :
    Sound limits past (built limits past) ∧
      (built limits past).names <+: (built limits (past ++ future)).names ∧
      ∀ entry ∈ (built limits past).entries,
        (Nat.toDigits 10 entry.2.natAbs).length < limits.maxInputLength := by
  refine ⟨sound_built past, ?_, ?_⟩
  · rw [built_append]
    exact names_prefix_after (built limits past) future
  · intro entry member
    exact ((sound_built past).read entry member).short

end Reckoner.Session
