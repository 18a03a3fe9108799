import Mathlib.Data.List.ReduceOption
import Reckoner.Journal.Loss
import Reckoner.Proofs.Journal.Event

set_option autoImplicit false

/-!
Events at the places of a journal. The file receives the lines of the events that leave one, in
order. Standard error receives the same lines, and between them a notice for each place at which an
event is lost.
-/
namespace Reckoner

namespace Place

theorem arrivals_append (place : Place) (front back : List (Place × Text)) :
    place.arrivals (front ++ back) = place.arrivals front ++ place.arrivals back := by
  simp only [arrivals, List.filter_append, List.flatMap_append]

variable {file : Option Text} {place : Place} (notice : Place → Text)

theorem arrivals_deliver_line (listed : place ∈ ofFile file) (line : Text) :
    place.arrivals (deliver (ofFile file) notice (some line)) = line ++ ['\n'] := by
  cases file with
  | none =>
      obtain rfl := List.mem_singleton.mp listed
      simp [arrivals, deliver, ofFile]
  | some path =>
      rcases List.mem_cons.mp listed with rfl | member
      · simp [arrivals, deliver, ofFile]
      · obtain rfl := List.mem_singleton.mp member
        simp [arrivals, deliver, ofFile]

/-- The file hears nothing of a loss. -/
theorem arrivals_deliver_none (path : Text) :
    (Place.file path).arrivals (deliver (ofFile file) notice none) = [] := by
  simp [arrivals, deliver, List.filter_map, Function.comp_def]

end Place

namespace Event

instance (event : Event) : Decidable event.Tellable :=
  inferInstanceAs (Decidable (event ≠ .exponentRefused none ∧
    ∀ number ∈ event.numbers, number.natAbs < 10 ^ Numeral.maxDigits))

theorem line_eq_none_iff (event : Event) : event.line = none ↔ ¬ event.Tellable := by
  rw [← isSome_entry, line, Option.map_eq_none_iff, Option.not_isSome_iff_eq_none]

/-- The event is written so, at some time that has a date; it leaves no line if it has no entry. -/
def WrittenAs (event : Event) (line : Option Text) : Prop :=
  Option.Rel Entry.WrittenAs event.entry line

theorem writtenAs_stamped (event : Event) {milliseconds : Int} {parts : Nat} {stamp : Text}
    (dated : Timestamp.render milliseconds parts = .ok stamp) :
    event.WrittenAs (event.entry.map (Entry.stampedLine stamp)) := by
  unfold WrittenAs
  cases event.entry with
  | none => exact .none
  | some entry => exact .some ⟨milliseconds, parts, entry.line_ofEntry dated⟩

theorem WrittenAs.isSome {event : Event} {line : Option Text} (written : event.WrittenAs line) :
    line.isSome = true ↔ event.Tellable := by
  rw [← isSome_entry]
  unfold WrittenAs at written
  generalize event.entry = entry at written ⊢
  cases written with
  | some same => simp
  | none => simp

theorem WrittenAs.entry {event : Event} {text : Text} (written : event.WrittenAs (some text)) :
    ∃ entry, event.entry = some entry ∧ entry.WrittenAs text := by
  unfold WrittenAs at written
  generalize event.entry = entry at written ⊢
  cases written with
  | some same => exact ⟨_, rfl, same⟩

section Written

variable {events : List Event} {lines : List (Option Text)}
  (written : List.Forall₂ WrittenAs events lines)

include written

theorem filterMap_zip : (events.zip lines).filterMap Prod.snd = lines.reduceOption := by
  induction written with
  | nil => rfl
  | @cons event line _ _ first rest ih =>
      cases line with
      | none => exact ih
      | some text => exact congrArg (text :: ·) ih

theorem isSome_of_zip (tellable : ∀ event ∈ events, event.Tellable) :
    ∀ pair ∈ events.zip lines, pair.2.isSome = true := by
  induction written with
  | nil => exact List.forall_mem_nil _
  | cons first rest ih =>
      rw [List.forall_mem_cons] at tellable
      exact List.forall_mem_cons.mpr ⟨first.isSome.mpr tellable.1, ih tellable.2⟩

theorem length_reduceOption :
    lines.reduceOption.length = events.countP fun event => event.Tellable := by
  induction written with
  | nil => rfl
  | @cons event line _ _ first rest ih =>
      have told := first.isSome
      cases line with
      | none =>
          have lost : ¬ event.Tellable := by simpa using told
          rw [List.reduceOption_cons_of_none, ih, List.countP_cons_of_neg (by simpa using lost)]
      | some text =>
          have told : event.Tellable := by simpa using told
          rw [List.reduceOption_cons_of_some, List.length_cons, ih,
            List.countP_cons_of_pos (by simpa using told)]

theorem lines_unlines (contained : ∀ event ∈ events, event.Contained) :
    (Text.unlines lines.reduceOption).lines = lines.reduceOption := by
  refine Text.lines_unlines fun line member => ?_
  induction written with
  | nil => cases member
  | @cons event other _ _ first rest ih =>
      rw [List.forall_mem_cons] at contained
      cases other with
      | none => exact ih contained.2 member
      | some text =>
          rcases List.mem_cons.mp member with rfl | later
          · obtain ⟨entry, made, same⟩ := first.entry
            exact ((contained.1.entry made).written same).inner
          · exact ih contained.2 later

end Written

section Deliveries

variable {file : Option Text} {place : Place} (path : Text) (traces : Nat → Place → Trace)
  (pairs : List (Event × Option Text))

/-- The file receives the lines that could be made, in order. -/
theorem arrivals_deliveries_file (listed : .file path ∈ Place.ofFile file) :
    (Place.file path).arrivals (deliveries (Place.ofFile file) traces pairs) =
      Text.unlines (pairs.filterMap Prod.snd) := by
  induction pairs generalizing traces with
  | nil => rfl
  | cons pair rest ih =>
      obtain ⟨event, line⟩ := pair
      rw [deliveries, Place.arrivals_append, ih]
      cases line with
      | none =>
          rw [Place.arrivals_deliver_none]
          rfl
      | some line =>
          rw [Place.arrivals_deliver_line _ listed]
          rfl

/-- Each place receives all lines, if none is missing. -/
theorem arrivals_deliveries_whole (listed : place ∈ Place.ofFile file)
    (whole : ∀ pair ∈ pairs, pair.2.isSome = true) :
    place.arrivals (deliveries (Place.ofFile file) traces pairs) =
      Text.unlines (pairs.filterMap Prod.snd) := by
  induction pairs generalizing traces with
  | nil => rfl
  | cons pair rest ih =>
      obtain ⟨event, line⟩ := pair
      rw [List.forall_mem_cons] at whole
      obtain ⟨text, rfl⟩ := Option.isSome_iff_exists.mp whole.1
      rw [deliveries, Place.arrivals_append, ih _ whole.2, Place.arrivals_deliver_line _ listed]
      rfl

end Deliveries

theorem lineFeed_mem_lossNotice (event : Event) (trace : Trace) :
    '\n' ∈ event.lossNotice trace := by
  have mark : '\n' ∈ "\nCall stack:\n".toList := by decide
  unfold lossNotice
  simp only [List.mem_append, mark, or_true, true_or]

/-- What a file and standard error receive of events, side by side: the same line for an event that
leaves one, and for another nothing in the file, but a notice for either place on standard error. -/
inductive SideBySide : List Event → (file error : Text) → Prop where
  | nil : SideBySide [] [] []
  | line {event : Event} {rest : List Event} {text file error : Text}
      (written : event.line = some text) (behind : SideBySide rest file error) :
      SideBySide (event :: rest) (text ++ '\n' :: file) (text ++ '\n' :: error)
  | loss {event : Event} {rest : List Event} {file error : Text} (lost : ¬ event.Tellable)
      (first second : Trace) (behind : SideBySide rest file error) :
      SideBySide (event :: rest) file
        (event.lossNotice first ++ event.lossNotice second ++ error)

theorem sideBySide_deliveries (path : Text) (traces : Nat → Place → Trace) (events : List Event) :
    let delivered := deliveries (Place.ofFile (some path)) traces (events.zip (events.map line))
    SideBySide events ((Place.file path).arrivals delivered)
      (Place.standardError.arrivals delivered) := by
  induction events generalizing traces with
  | nil => exact .nil
  | cons event rest ih =>
      have behind := ih fun index => traces (index + 1)
      simp only [List.map_cons, List.zip_cons_cons, deliveries, Place.arrivals_append]
      cases made : event.line with
      | none =>
          have notices : Place.standardError.arrivals
              (Place.deliver (Place.ofFile (some path))
                (fun place => event.lossNotice (traces 0 place)) none) =
              event.lossNotice (traces 0 .standardError) ++
                event.lossNotice (traces 0 (.file path)) := by
            simp [Place.arrivals, Place.deliver, Place.ofFile]
          rw [Place.arrivals_deliver_none, notices]
          exact .loss (event.line_eq_none_iff.mp made) _ _ behind
      | some text =>
          rw [Place.arrivals_deliver_line _ List.mem_cons_self,
            Place.arrivals_deliver_line _ (List.mem_cons_of_mem _ List.mem_cons_self),
            List.append_assoc, List.append_assoc]
          exact .line made behind

namespace SideBySide

variable {events : List Event} {file error : Text} (beside : SideBySide events file error)

include beside

/-- Where nothing is lost, standard error receives what the file does. -/
theorem eq_of_tellable (tellable : ∀ event ∈ events, event.Tellable) : error = file := by
  induction beside with
  | nil => rfl
  | line written behind ih => rw [ih (List.forall_mem_cons.mp tellable).2]
  | loss lost first second behind ih => exact absurd (List.forall_mem_cons.mp tellable).1 lost

theorem count_le : file.count '\n' ≤ error.count '\n' := by
  induction beside with
  | nil => exact Nat.le_refl _
  | line written behind ih =>
      simp only [List.count_append, List.count_cons]
      omega
  | loss lost first second behind ih =>
      simp only [List.count_append]
      omega

/-- A loss leaves standard error more lines than the file. -/
theorem count_lt (lost : ∃ event ∈ events, ¬ event.Tellable) :
    file.count '\n' < error.count '\n' := by
  induction beside with
  | nil =>
      obtain ⟨event, member, -⟩ := lost
      cases member
  | @line first rest _ _ _ written behind ih =>
      obtain ⟨event, member, lost⟩ := lost
      have other : event ∈ rest := by
        refine (List.mem_cons.mp member).resolve_left ?_
        rintro rfl
        rw [(line_eq_none_iff event).mpr lost] at written
        cases written
      have later := ih ⟨event, other, lost⟩
      simp only [List.count_append, List.count_cons]
      omega
  | @loss event _ _ _ _ first second behind ih =>
      have shown := List.count_pos_iff.mpr (event.lineFeed_mem_lossNotice first)
      have least := behind.count_le
      simp only [List.count_append]
      omega

end SideBySide

end Event

end Reckoner
