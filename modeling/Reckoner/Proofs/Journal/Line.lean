import Reckoner.Journal.Line
import Reckoner.Proofs.Outcome
import Reckoner.Proofs.Text.Legible

set_option autoImplicit false

/-!
Lines of the journal. An entry is written as one legible line at any time that has a date, if its
parts are legible.
-/
namespace Reckoner

theorem Level.legible_label (level : Int) : (label level).Legible := by
  unfold label
  split
  · next entry found =>
      have all : ∀ entry ∈ names, entry.1.Legible := by decide
      exact all entry (List.mem_of_find?_eq_some found)
  · exact Text.Legible.append (by decide) (Decimal.legible_ofInt level)

namespace Timestamp

theorem legible_fixed (width n : Nat) : (fixed width n).Legible := by
  refine Text.Legible.append ?_ (Decimal.legible_ofNat n)
  intro c member
  rw [List.eq_of_mem_replicate member]
  decide

theorem legible_next {front : Text} (mark : Char) (prints : Text.printable mark = true)
    (width n : Nat) (legible : front.Legible) : Text.Legible (front ++ [mark] ++ fixed width n) :=
  (legible.append (Text.legible_nil.cons prints)).append (legible_fixed width n)

theorem legible_display (second : Int) (millisecond : Nat) :
    (display second millisecond).Legible := by
  unfold display
  exact legible_next '.' (by decide) 3 _ <| legible_next ':' (by decide) 2 _ <|
    legible_next ':' (by decide) 2 _ <| legible_next 'T' (by decide) 2 _ <|
    legible_next '-' (by decide) 2 _ <| legible_next '-' (by decide) 2 _ <| legible_fixed 4 _

theorem render_eq_ok {milliseconds : Int} {parts : Nat} {stamp : Text}
    (dated : render milliseconds parts = .ok stamp) :
    ∃ second millisecond, stamp = display second millisecond := by
  simp only [render] at dated
  -- Which second it is does not matter here.
  generalize (if milliseconds < 0 then _ else _ : Int) = time at dated
  split at dated
  · cases dated
  split at dated
  · cases dated
  · obtain ⟨-, -, dated⟩ := (bind_eq_ok_iff _).mp dated
    obtain ⟨-, -, dated⟩ := (bind_eq_ok_iff _).mp dated
    exact ⟨_, _, (Except.ok.inj dated).symm⟩

theorem legible_render {milliseconds : Int} {parts : Nat} {stamp : Text}
    (dated : render milliseconds parts = .ok stamp) : stamp.Legible := by
  obtain ⟨second, millisecond, same⟩ := render_eq_ok dated
  rw [same]
  exact legible_display second millisecond

end Timestamp

namespace Entry

/-- The texts of which the line of an entry is made are legible. -/
structure Clear (entry : Entry) : Prop where
  source : entry.source.Legible
  message : entry.message.Legible
  code : ∀ code ∈ entry.code, code.Legible

/-- The journal writes the entry so, at some time that has a date. -/
def WrittenAs (entry : Entry) (line : Text) : Prop :=
  ∃ milliseconds parts, ({ Remark.ofEntry milliseconds entry with parts } : Remark).line = .ok line

section Written

variable (entry : Entry) {milliseconds : Int} {parts : Nat}

/-- The message of an entry stands as it is: it is no template to be filled. -/
theorem line_ofEntry {stamp : Text} (dated : Timestamp.render milliseconds parts = .ok stamp) :
    ({ Remark.ofEntry milliseconds entry with parts } : Remark).line =
      .ok (entry.stampedLine stamp) := by
  unfold Remark.line
  dsimp only [Remark.ofEntry]
  simp only [dated]
  rfl

theorem writtenAs_iff (line : Text) :
    entry.WrittenAs line ↔ ∃ milliseconds parts stamp,
      Timestamp.render milliseconds parts = .ok stamp ∧ line = entry.stampedLine stamp := by
  constructor
  · intro written
    obtain ⟨milliseconds, parts, made⟩ := written
    cases dated : Timestamp.render milliseconds parts with
    | error fault =>
        unfold Remark.line at made
        dsimp only [Remark.ofEntry] at made
        simp only [dated] at made
        cases made
    | ok stamp =>
        rw [entry.line_ofEntry dated] at made
        exact ⟨milliseconds, parts, stamp, dated, (Except.ok.inj made).symm⟩
  · intro written
    obtain ⟨milliseconds, parts, stamp, dated, rfl⟩ := written
    exact ⟨milliseconds, parts, entry.line_ofEntry dated⟩

end Written

variable {entry : Entry} (clear : entry.Clear)

include clear

theorem Clear.line : entry.line.Legible := by
  have note : (codeNote entry.code).Legible := by
    unfold codeNote
    split
    · next c rest shown =>
        have code := clear.code (c :: rest) (by rw [shown]; rfl)
        exact (Text.Legible.append (by decide) code).append (by decide)
    · exact Text.legible_nil
  have label : Text.Legible ('[' :: Level.label entry.level) :=
    (Level.legible_label entry.level).cons (by decide)
  exact ((((label.append (by decide)).append clear.source).append (by decide)).append
    clear.message).append note

/-- The line has no line end in it, nor any other character that does not print. -/
theorem Clear.written {line : Text} (written : entry.WrittenAs line) : line.Legible := by
  obtain ⟨milliseconds, parts, stamp, dated, rfl⟩ := (entry.writtenAs_iff line).mp written
  exact (Timestamp.legible_render dated).append (clear.line.cons (by decide))

theorem Clear.lines {line : Text} (written : entry.WrittenAs line) : line.lines = [line] := by
  have inner := (clear.written written).inner
  obtain ⟨milliseconds, parts, stamp, -, rfl⟩ := (entry.writtenAs_iff line).mp written
  exact Text.lines_unended inner (List.append_ne_nil_of_right_ne_nil _ (List.cons_ne_nil _ _))

omit clear in
/-- Entries come back as the lines that they were written as, one for each. -/
theorem lines_unlines {entries : List Entry} {lines : List Text}
    (clear : ∀ entry ∈ entries, entry.Clear) (written : List.Forall₂ WrittenAs entries lines) :
    (Text.unlines lines).lines = lines := by
  refine Text.lines_unlines fun line member => ?_
  induction written with
  | nil => cases member
  | cons first rest ih =>
      rw [List.forall_mem_cons] at clear
      rcases List.mem_cons.mp member with rfl | later
      · exact (clear.1.written first).inner
      · exact ih clear.2 later

end Entry

end Reckoner
