import Reckoner.Proofs.Number.RoundTrip
import Reckoner.Report.Json

set_option autoImplicit false

/-!
A reader of JSON objects with plain values. It skips blanks between the parts and takes every
escape of a string, and it gives back each record from its JSON text.
-/
namespace Reckoner.Json

/-- Blanks that may stand between the parts of a JSON text. -/
def gap (c : Char) : Bool := c == ' ' || c == '\n' || c == '\r' || c == '\t'

def unescape? : Char → Option Char
  | '"' => some '"'
  | '\\' => some '\\'
  | '/' => some '/'
  | 'b' => some (Char.ofNat 8)
  | 'f' => some (Char.ofNat 12)
  | 'n' => some '\n'
  | 'r' => some '\r'
  | 't' => some '\t'
  | _ => none

def hexValue? (c : Char) : Option Nat :=
  if Text.inRanges [(0x30, 0x39)] c then some (c.toNat - 0x30)
  else if Text.inRanges [(0x41, 0x46)] c then some (c.toNat - 0x37)
  else if Text.inRanges [(0x61, 0x66)] c then some (c.toNat - 0x57)
  else none

/-- The character whose code point has the hexadecimal digits. -/
def codePoint? (digits : Text) : Option Char := do
  let code := (← digits.mapM hexValue?).foldl (fun code digit => 16 * code + digit) 0
  if code.isValidChar then some (Char.ofNat code) else none

/-- Reads a string behind its opening mark: what it says, and the text behind its closing mark. -/
def readString? : Text → Option (Text × Text)
  | [] => none
  | '"' :: rest => some ([], rest)
  | '\\' :: 'u' :: first :: second :: third :: fourth :: rest => do
      let c ← codePoint? [first, second, third, fourth]
      let (said, left) ← readString? rest
      return (c :: said, left)
  | '\\' :: letter :: rest => do
      let c ← unescape? letter
      let (said, left) ← readString? rest
      return (c :: said, left)
  | c :: rest =>
      if c.toNat < 0x20 then none
      else do
        let (said, left) ← readString? rest
        return (c :: said, left)

def readDigits? (sign : Option Char) (text : Text) : Option (Datum × Text) :=
  let digits := text.takeWhile Text.digit
  if digits.isEmpty then none
  else some (.number (Decimal.signed sign (Decimal.value digits)), text.dropWhile Text.digit)

def readNumber? : Text → Option (Datum × Text)
  | '-' :: rest => readDigits? (some '-') rest
  | text => readDigits? none text

def readDatum? : Text → Option (Datum × Text)
  | '"' :: rest => (readString? rest).map fun read => (.text read.1, read.2)
  | 't' :: 'r' :: 'u' :: 'e' :: rest => some (.flag true, rest)
  | 'f' :: 'a' :: 'l' :: 's' :: 'e' :: rest => some (.flag false, rest)
  | 'n' :: 'u' :: 'l' :: 'l' :: rest => some (.nothing, rest)
  | text => readNumber? text

def readField? (text : Text) : Option ((Text × Datum) × Text) :=
  match text.dropWhile gap with
  | '"' :: rest => do
      let (name, left) ← readString? rest
      match left.dropWhile gap with
      | ':' :: rest => do
          let (datum, left) ← readDatum? (rest.dropWhile gap)
          return ((name, datum), left.dropWhile gap)
      | _ => none
  | _ => none

/-- Reads at most the given number of fields, up to the brace that closes the object. -/
def readFields? : Nat → Text → Option (List (Text × Datum))
  | 0, _ => none
  | most + 1, text => do
      let (field, left) ← readField? text
      match left with
      | ',' :: rest => return field :: (← readFields? most rest)
      | '\x7d' :: rest => if rest.all gap then return [field] else none
      | _ => none

/-- The record that a JSON text stands for. -/
def read? (text : Text) : Option Record :=
  match text.dropWhile gap with
  | '\x7b' :: rest =>
      match rest.dropWhile gap with
      | '\x7d' :: rest => if rest.all gap then some ⟨[]⟩ else none
      | _ => (readFields? rest.length rest).map Table.mk
  | _ => none

section Strings

variable (rest : Text)

theorem codePoint?_hex : ∀ code < 0x20, codePoint? (Text.hex 4 code) = some (Char.ofNat code) := by
  decide

/-- An escape is read as its character, and so is a character that needs none. -/
theorem readString?_escape (c : Char) : readString? (escape c ++ rest) =
    (readString? rest).map fun read => (c :: read.1, read.2) := by
  have letter (mark : Char) (other : mark ≠ 'u') : readString? ('\\' :: mark :: rest) =
      (unescape? mark).bind fun c => (readString? rest).map fun read => (c :: read.1, read.2) := by
    rw [readString?]
    · cases unescape? mark <;> cases readString? rest <;> rfl
    · exact fun _ _ _ _ _ same => absurd same other
  unfold escape
  split
  · next marked =>
      rcases marked with rfl | rfl
      · exact letter _ (by decide)
      · exact letter _ (by decide)
  split
  · next same =>
      rw [same]
      exact letter 'n' (by decide)
  split
  · next same =>
      rw [same]
      exact letter 'r' (by decide)
  split
  · next same =>
      rw [same]
      exact letter 't' (by decide)
  split
  · next code =>
      obtain rfl : c = Char.ofNat 8 := by rw [← code, Char.ofNat_toNat]
      exact letter 'b' (by decide)
  split
  · next code =>
      obtain rfl : c = Char.ofNat 12 := by rw [← code, Char.ofNat_toNat]
      exact letter 'f' (by decide)
  split
  · next small =>
      have spelled := codePoint?_hex c.toNat small
      rw [Char.ofNat_toNat] at spelled
      change readString? ('\\' :: 'u' :: _ :: _ :: _ :: _ :: rest) = _
      rw [readString?]
      change (codePoint? (Text.hex 4 c.toNat) >>= _) = _
      rw [spelled]
      cases readString? rest <;> rfl
  · next unmarked _ _ _ _ _ large =>
      rw [List.singleton_append, readString?, if_neg large]
      · cases readString? rest <;> rfl
      · exact fun quote => unmarked (.inl quote)
      · exact fun _ _ _ _ _ backslash _ => unmarked (.inr backslash)
      · exact fun _ _ backslash _ => unmarked (.inr backslash)

theorem readString?_string (content : Text) :
    readString? (content.flatMap escape ++ '"' :: rest) = some (content, rest) := by
  induction content with
  | nil => rfl
  | cons c content ih => rw [List.flatMap_cons, List.append_assoc, readString?_escape, ih]; rfl

end Strings

section Values

variable {rest : Text}

theorem readDatum?_number (value : Int) :
    readDatum? (Decimal.ofInt value ++ rest) = readNumber? (Decimal.ofInt value ++ rest) := by
  obtain ⟨c, more, whole, starts⟩ := (Decimal.ofInt_canonical value).starts
  have other {mark : Char} (apart : mark ≠ '-') (letter : Text.digit mark = false) {left : Text}
      (same : c :: (more ++ rest) = mark :: left) : False := by
    obtain ⟨rfl, -⟩ := List.cons.inj same
    rcases starts with sign | digit
    · exact apart sign
    · rw [letter] at digit
      cases digit
  rw [whole, List.cons_append, readDatum?]
  · exact fun _ => other (by decide) (by decide)
  · exact fun _ => other (by decide) (by decide)
  · exact fun _ => other (by decide) (by decide)
  · exact fun _ => other (by decide) (by decide)

variable (ends : ∀ c ∈ rest.head?, Text.digit c = false)

include ends

theorem readDigits?_ofNat (sign : Option Char) (n : Nat) :
    readDigits? sign (Decimal.ofNat n ++ rest) = some (.number (Decimal.signed sign n), rest) := by
  have digits := Decimal.ofNat_digits n
  have stops : rest.takeWhile Text.digit = [] ∧ rest.dropWhile Text.digit = rest := by
    cases rest with
    | nil => exact ⟨rfl, rfl⟩
    | cons c more => simp [ends c rfl]
  have occupied : (Decimal.ofNat n).isEmpty = false := by
    rw [List.isEmpty_eq_false_iff]
    exact Decimal.ofNat_ne_nil n
  simp only [readDigits?, List.takeWhile_append_of_pos digits, List.dropWhile_append_of_pos digits,
    stops, List.append_nil, occupied, Bool.false_eq_true, ↓reduceIte, Decimal.value_ofNat]

theorem readNumber?_ofInt (value : Int) :
    readNumber? (Decimal.ofInt value ++ rest) = some (.number value, rest) := by
  rw [Decimal.ofInt_eq_append]
  by_cases negative : value < 0
  · have whole : Decimal.signed (some '-') value.natAbs = value := by
      rw [Decimal.signed, if_pos rfl]
      omega
    rw [if_pos negative, List.append_assoc]
    exact (readDigits?_ofNat ends (some '-') value.natAbs).trans (by rw [whole])
  · have whole : Decimal.signed none value.natAbs = value := by
      rw [Decimal.signed, if_neg (by simp)]
      omega
    rw [if_neg negative, List.nil_append, readNumber?]
    · rw [readDigits?_ofNat ends none value.natAbs, whole]
    · intro more same
      have digits := Decimal.ofNat_digits value.natAbs
      cases written : Decimal.ofNat value.natAbs with
      | nil => exact Decimal.ofNat_ne_nil _ written
      | cons c later =>
          rw [written] at same digits
          obtain ⟨rfl, -⟩ := List.cons.inj same
          exact absurd (digits '-' List.mem_cons_self) (by decide)

theorem readDatum?_datum (value : Datum) :
    readDatum? (datum value ++ rest) = some (value, rest) := by
  cases value with
  | text content =>
      change (readString? (content.flatMap escape ++ ['"'] ++ rest)).map _ = _
      rw [List.append_assoc, List.singleton_append, readString?_string]
      rfl
  | number value => exact (readDatum?_number value).trans (readNumber?_ofInt ends value)
  | flag value => cases value <;> rfl
  | nothing => rfl

end Values

theorem datum_starts (value : Datum) : ∃ c more, datum value = c :: more ∧ gap c = false := by
  cases value with
  | text content => exact ⟨'"', _, rfl, rfl⟩
  | number value =>
      obtain ⟨c, more, whole, starts⟩ := (Decimal.ofInt_canonical value).starts
      refine ⟨c, more, whole, ?_⟩
      rcases starts with rfl | digit
      · rfl
      · rw [Bool.eq_false_iff]
        intro blank
        simp only [gap, Bool.or_eq_true, beq_iff_eq] at blank
        rcases blank with ((rfl | rfl) | rfl) | rfl <;> cases digit
  | flag value =>
      cases value with
      | true => exact ⟨'t', _, rfl, rfl⟩
      | false => exact ⟨'f', _, rfl, rfl⟩
  | nothing => exact ⟨'n', _, rfl, rfl⟩

/-- A field is read up to what does not go on with it. -/
theorem readField?_field (entry : Text × Datum) {rest : Text}
    (ends : ∀ c ∈ rest.head?, Text.digit c = false) :
    readField? (field entry ++ rest) = some (entry, rest.dropWhile gap) := by
  obtain ⟨name, value⟩ := entry
  have whole : field (name, value) ++ rest = '\n' :: ' ' :: ' ' :: '"' ::
      (name.flatMap escape ++ '"' :: ':' :: ' ' :: (datum value ++ rest)) := by
    simp [field, string]
  have behind : (' ' :: (datum value ++ rest)).dropWhile gap = datum value ++ rest := by
    obtain ⟨c, more, starts, visible⟩ := datum_starts value
    rw [starts]
    simp [visible, show gap ' ' = true from rfl]
  rw [whole]
  change (readString? _ >>= _) = _
  rw [readString?_string]
  change (readDatum? ((' ' :: (datum value ++ rest)).dropWhile gap) >>= _) = _
  rw [behind, readDatum?_datum ends]
  rfl

theorem readFields?_fields (entries : List (Text × Datum)) (occupied : entries ≠ []) {most : Nat}
    (enough : entries.length ≤ most) {rest : Text} (blank : rest.all gap = true) :
    readFields? most (Text.join [','] (entries.map field) ++ ("\n\x7d".toList ++ rest)) =
      some entries := by
  induction entries generalizing most with
  | nil => contradiction
  | cons entry later ih =>
      obtain ⟨most, rfl⟩ := Nat.exists_eq_add_of_le' (Nat.le_trans (Nat.le_add_left 1 _) enough)
      cases later with
      | nil =>
          have ends : ∀ c ∈ ("\n\x7d".toList ++ rest).head?, Text.digit c = false := by
            intro c first
            obtain rfl := Option.mem_some.mp first
            rfl
          have read := readField?_field entry ends
          change (readField? (field entry ++ ("\n\x7d".toList ++ rest)) >>= _) = _
          rw [read]
          change (if rest.all gap then _ else _) = _
          rw [if_pos blank]
          rfl
      | cons next more =>
          have further := ih (List.cons_ne_nil _ _) (Nat.le_of_succ_le_succ enough)
          have joined : Text.join [','] ((entry :: next :: more).map field) =
              field entry ++ ',' :: Text.join [','] ((next :: more).map field) := by
            simp [Text.join]
          have ends : ∀ c ∈ (',' :: (Text.join [','] ((next :: more).map field) ++
              ("\n\x7d".toList ++ rest))).head?, Text.digit c = false := by
            intro c first
            obtain rfl := Option.mem_some.mp first
            rfl
          have read := readField?_field entry ends
          rw [joined, List.append_assoc, List.cons_append]
          change (readField? _ >>= _) = _
          rw [read]
          change (readFields? most _ >>= _) = _
          rw [further]
          rfl

theorem length_le_join (entries : List (Text × Datum)) :
    entries.length ≤ (Text.join [','] (entries.map field)).length := by
  induction entries with
  | nil => exact Nat.zero_le _
  | cons entry later ih =>
      cases later with
      | nil => simp [Text.join, field]
      | cons next more =>
          simp only [List.map_cons, Text.join, List.length_append, List.length_cons] at ih ⊢
          omega

/-- A record is read back from its JSON text, whatever blanks stand behind that. -/
theorem read?_object (record : Record) {rest : Text} (blank : rest.all gap = true) :
    read? (object record ++ rest) = some record := by
  obtain ⟨entries⟩ := record
  cases entries with
  | nil =>
      change (if rest.all gap then _ else _) = _
      rw [if_pos blank]
  | cons entry later =>
      have whole : object ⟨entry :: later⟩ ++ rest = '\x7b' ::
          (Text.join [','] ((entry :: later).map field) ++ ("\n\x7d".toList ++ rest)) := by
        simp [object]
      have enough : (entry :: later).length ≤ (Text.join [','] ((entry :: later).map field) ++
          ("\n\x7d".toList ++ rest)).length := by
        have fewer := length_le_join (entry :: later)
        rw [List.length_append]
        omega
      have fields := readFields?_fields (entry :: later) (List.cons_ne_nil _ _) enough blank
      have starts : ∃ more, Text.join [','] ((entry :: later).map field) ++
          ("\n\x7d".toList ++ rest) = '\n' :: ' ' :: ' ' :: '"' :: more := by
        cases later <;> exact ⟨_, rfl⟩
      rw [whole]
      obtain ⟨more, starts⟩ := starts
      rw [starts] at fields ⊢
      change (readFields? _ _).map Table.mk = _
      rw [fields]
      rfl

end Reckoner.Json
