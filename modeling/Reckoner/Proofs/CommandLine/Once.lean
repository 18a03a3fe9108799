import Reckoner.Proofs.CommandLine.Dialogue

set_option autoImplicit false

/-!
One line by itself. What a run shows of a line that the command line gives is what a dialogue shows
of it before its last words, and the exit code tells whether the line was refused.
-/
namespace Reckoner

theorem CommandLine.boundsOf_said {limits current : Limits} {choice : Choice Int}
    (bounds : boundsOf limits choice = ⟨current, true⟩) (count : Int) :
    boundsOf limits (.said count) = ⟨{ current with maxExponent := count }, true⟩ := by
  cases choice <;> cases bounds <;> rfl

namespace Clause

/-- The clause chooses a format or the largest exponent. -/
inductive Adjusts : Clause → Prop where
  | format (chosen : Format) : Adjusts (.format chosen.label)
  | maxExponent {numeral : Text} {count : Int} (reads : readCount numeral = .ok count) :
      Adjusts (.maxExponent numeral)

def adjust (limits : Limits) (clause : Clause) : Limits :=
  match clause.parameter, clause.value.map readCount with
  | .maxExponent, some (.ok count) => { limits with maxExponent := count }
  | _, _ => limits

theorem argument_evaluate (text : Text) : (evaluate text).argument = "--eval=".toList ++ text := rfl

/-- Clauses that adjust a run are accepted. They settle the format and the largest exponent, by
which exponents are judged, whatever there is to evaluate. -/
theorem takeAll_adjusts {clauses : List Clause} (adjusts : ∀ clause ∈ clauses, clause.Adjusts)
    (format : Choice Format) {maxExponent : Choice Int} {limits current : Limits}
    (bounds : CommandLine.boundsOf limits maxExponent = ⟨current, true⟩) :
    ∃ chosen largest,
      CommandLine.boundsOf limits largest = ⟨clauses.foldl adjust current, true⟩ ∧
        ∀ evaluate, takeAll { evaluate, format, maxExponent } clauses =
          .ok { evaluate, format := chosen, maxExponent := largest } := by
  induction clauses generalizing format maxExponent current with
  | nil => exact ⟨format, maxExponent, bounds, fun _ => rfl⟩
  | cons clause rest ih =>
      rw [List.forall_mem_cons] at adjusts
      cases adjusts.1 with
      | format other =>
          obtain ⟨chosen, largest, judged, taken⟩ := ih adjusts.2 (.said other) bounds
          refine ⟨chosen, largest, judged, fun evaluate => ?_⟩
          rw [takeAll_cons, take_format, ok_bind]
          exact taken evaluate
      | @maxExponent numeral count reads =>
          obtain ⟨chosen, largest, judged, taken⟩ :=
            ih adjusts.2 format (CommandLine.boundsOf_said bounds count)
          refine ⟨chosen, largest, ?_, fun evaluate => ?_⟩
          · simpa only [List.foldl_cons, adjust, Clause.maxExponent, Option.map_some, reads]
              using judged
          · rw [takeAll_cons, take_maxExponent reads, ok_bind]
            exact taken evaluate

/-- A line by itself is asked for beside what the other clauses say. -/
theorem takeAll_evaluate {front back : List Clause} {text : Text}
    (adjusts : ∀ clause ∈ front ++ back, clause.Adjusts) (kept : text ≠ Argument.divider)
    (limits : Limits) :
    ∃ chosen largest,
      CommandLine.boundsOf limits largest = ⟨(front ++ back).foldl adjust limits, true⟩ ∧
        takeAll {} (front ++ back) = .ok { format := chosen, maxExponent := largest } ∧
        takeAll {} (front ++ .evaluate text :: back) =
          .ok { evaluate := .said text, format := chosen, maxExponent := largest } := by
  obtain ⟨before, after⟩ := List.forall_mem_append.mp adjusts
  have usual : CommandLine.boundsOf limits .unsaid = ⟨limits, true⟩ := rfl
  obtain ⟨format, maxExponent, bounds, ahead⟩ := takeAll_adjusts before .unsaid usual
  obtain ⟨chosen, largest, judged, behind⟩ := takeAll_adjusts after format bounds
  refine ⟨chosen, largest, ?_, ?_, ?_⟩
  · rw [List.foldl_append, judged]
  · rw [takeAll_append, ahead, ok_bind, behind]
  · rw [takeAll_append, ahead, ok_bind, takeAll_cons, take_evaluate kept, ok_bind, behind]

end Clause

theorem Dialogue.shownLine_reply (command : Text) :
    (if (Calculator.reply command).isEmpty then []
      else Format.outputLine (Calculator.reply command)) =
      shownLine (Calculator.reply command) := by
  unfold Calculator.reply
  split
  · rfl
  split
  · rfl
  · rfl

namespace CommandLine

/-- A line is refused if it is meant as a command and is none, or if its report is not ok. -/
inductive Refused (limits : Limits) (text : Text) : Prop where
  | command (meant : ∃ rest, text.trim = '/' :: rest) (help : text.trim ≠ "/help".toList)
      (exit : text.trim ≠ "/exit".toList)
  | line (other : ∀ rest, text.trim ≠ '/' :: rest)
      (failed : (Calculator.report limits Table.empty text).1.ok = false)

section EvaluateOnce

variable (limits : Limits) (format : Format) (setup : JournalSetup) {text : Text}

theorem evaluateOnce_command (meant : Calculator.isCommand text.trim = true) :
    evaluateOnce ⟨limits, true⟩ format setup text.trim =
      finish setup
        (if text.trim = Calculator.helpCommand ∨ text.trim = Calculator.exitCommand then 0 else 1)
        (Dialogue.shownLine (Calculator.reply text.trim)) [] := by
  have replied := Calculator.command_eq_reply limits Table.empty text.trim
    (by rw [Text.trim_trim, meant])
  rw [Text.trim_trim] at replied
  simp only [evaluateOnce, meant, ↓reduceIte, replied, Dialogue.shownLine_reply]

theorem evaluateOnce_line (other : Calculator.isCommand text.trim = false) :
    (evaluateOnce ⟨limits, true⟩ format setup text.trim).output =
        format.output (Calculator.report limits Table.empty text).1.record ∧
      (evaluateOnce ⟨limits, true⟩ format setup text.trim).exit =
        if (Calculator.report limits Table.empty text).1.ok then 0 else 1 := by
  have judged : Bounds.breaks ⟨limits, true⟩ Table.empty text.trim = false := rfl
  simp only [evaluateOnce, other, judged, Bool.false_eq_true, ↓reduceIte,
    Calculator.report_trim, finish, and_self]

theorem evaluateOnce_output : (evaluateOnce ⟨limits, true⟩ format setup text.trim).output =
    (Dialogue.turns ⟨limits, true⟩ format Table.empty [text]).flatMap Turn.output := by
  by_cases exit : text.trim = "/exit".toList
  · have meant : Calculator.isCommand text.trim = true := by rw [exit]; rfl
    rw [Dialogue.turns_leaves limits format Table.empty exit,
      evaluateOnce_command limits format setup meant, exit]
    rfl
  · rw [Dialogue.turns_stays limits format Table.empty exit]
    simp only [Dialogue.turns, List.flatMap_cons, List.flatMap_nil, List.append_nil,
      (Dialogue.turn_judged limits format Table.empty text).1]
    cases meant : Calculator.isCommand text.trim with
    | true =>
        rw [evaluateOnce_command limits format setup meant,
          Dialogue.reply_command limits format Table.empty meant]
        rfl
    | false =>
        rw [(evaluateOnce_line limits format setup meant).1,
          (Dialogue.reply_line limits format Table.empty meant).1]

theorem refused_command (meant : Calculator.isCommand text.trim = true) : Refused limits text ↔
    ¬(text.trim = Calculator.helpCommand ∨ text.trim = Calculator.exitCommand) := by
  rw [not_or]
  constructor
  · rintro (⟨-, help, exit⟩ | ⟨other, -⟩)
    · exact ⟨help, exit⟩
    · obtain ⟨rest, starts⟩ := (Calculator.isCommand_eq_true_iff _).mp meant
      exact absurd starts (other rest)
  · rintro ⟨help, exit⟩
    exact .command ((Calculator.isCommand_eq_true_iff _).mp meant) help exit

theorem refused_line (other : Calculator.isCommand text.trim = false) :
    Refused limits text ↔ (Calculator.report limits Table.empty text).1.ok = false := by
  have plain := (Calculator.isCommand_eq_false_iff _).mp other
  constructor
  · rintro (⟨⟨rest, starts⟩, -, -⟩ | ⟨-, failed⟩)
    · exact absurd starts (plain rest)
    · exact failed
  · exact .line plain

theorem evaluateOnce_exit :
    (Refused limits text → (evaluateOnce ⟨limits, true⟩ format setup text.trim).exit = 1) ∧
      (¬Refused limits text →
        (evaluateOnce ⟨limits, true⟩ format setup text.trim).exit = 0) := by
  cases meant : Calculator.isCommand text.trim with
  | true =>
      rw [evaluateOnce_command limits format setup meant, refused_command limits meant]
      exact ⟨fun unknown => if_neg unknown, fun known => if_pos (not_not.mp known)⟩
  | false =>
      rw [(evaluateOnce_line limits format setup meant).2, refused_line limits meant]
      exact ⟨fun failed => by rw [failed]; rfl,
        fun succeeded => if_pos (eq_true_of_ne_false succeeded)⟩

end EvaluateOnce

/-- A line by itself shows what a dialogue of that line shows before its last words, whatever the
format and the limits, and the exit code tells whether it is refused. -/
theorem run_once (settings : Settings) (front back : List Clause) (text input : Text)
    (adjusts : ∀ clause ∈ front ++ back, clause.Adjusts) (kept : text ≠ "--".toList)
    (single : ∀ c ∈ text, Text.lineEnd c = false) :
    let once := run settings
      (front.map Clause.argument ++ ("--eval=".toList ++ text) :: back.map Clause.argument) input
    let dialogue := run settings (front.map Clause.argument ++ back.map Clause.argument)
    let limits := (front ++ back).foldl Clause.adjust settings.limits
    (once.output ++ "Bye!\n".toList = (dialogue (text ++ ['\n'])).output ∧
      (text ≠ [] → once.output ++ "Bye!\n".toList = (dialogue text).output)) ∧
    (Refused limits text → once.exit = 1) ∧ (¬Refused limits text → once.exit = 0) := by
  obtain ⟨chosen, largest, judged, plain, asked⟩ :=
    Clause.takeAll_evaluate adjusts kept settings.limits
  have evaluates := run_taken settings asked input
  have converses := run_taken settings plain
  rw [takeUp_evaluate settings rfl rfl rfl] at evaluates
  rw [takeUp_dialogue settings rfl rfl rfl] at converses
  rw [List.map_append, List.map_cons, Clause.argument_evaluate, judged] at evaluates
  rw [List.map_append, judged] at converses
  intro once dialogue limits
  have shown : ∀ typed, Text.lines typed = [text] →
      once.output ++ "Bye!\n".toList = (dialogue typed).output := by
    intro typed line
    simp only [once, dialogue, evaluates, converses, conclude, evaluateOnce_output,
      converse_judged, line]
    rfl
  refine ⟨⟨shown _ (Text.lines_append_lineFeed single []),
    fun nonempty => shown _ (Text.lines_unended single nonempty)⟩, ?_⟩
  simp only [once, evaluates, conclude]
  exact evaluateOnce_exit _ _ _

/-- A power that the command line forbids. -/
theorem run_once_power :
    let front : List Clause := [.format Format.json.label]
    let back : List Clause := [.maxExponent "2".toList]
    let settings : Settings := ⟨{}, "WARNING".toList, none⟩
    let once := run settings (front.map Clause.argument ++
      ("--eval=".toList ++ "2^3".toList) :: back.map Clause.argument) []
    let dialogue := run settings (front.map Clause.argument ++ back.map Clause.argument)
    ((∀ clause ∈ front ++ back, clause.Adjusts) ∧ "2^3".toList ≠ "--".toList ∧
        ∀ c ∈ "2^3".toList, Text.lineEnd c = false) ∧
      once.output ++ "Bye!\n".toList = (dialogue "2^3".toList).output ∧ once.exit = 1 := by
  intro front back settings once dialogue
  have adjusts : ∀ clause ∈ front ++ back, clause.Adjusts := by
    simp only [front, back, List.cons_append, List.nil_append, List.forall_mem_cons]
    exact ⟨.format .json, .maxExponent (show _ = Except.ok 2 by decide), nofun⟩
  have kept : "2^3".toList ≠ "--".toList := by decide
  have single : ∀ c ∈ "2^3".toList, Text.lineEnd c = false := by
    show ∀ c ∈ ['2', '^', '3'], Text.lineEnd c = false
    simp only [List.forall_mem_cons]
    exact ⟨rfl, rfl, rfl, nofun⟩
  obtain ⟨⟨-, shown⟩, refused, -⟩ :=
    run_once settings front back "2^3".toList [] adjusts kept single
  exact ⟨⟨adjusts, kept, single⟩, shown (by decide), refused (.line nofun (by decide))⟩

end CommandLine

end Reckoner
