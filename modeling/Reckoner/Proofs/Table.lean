import Reckoner.Table

set_option autoImplicit false

/-!
Tables under change: setting a name touches the entry of that name, or adds one at the end, and
nothing else.
-/
namespace Reckoner.Table

variable {α : Type}

/-- The tables have the same value, or none, under each of the names. -/
def AgreeOn (names : Text → Prop) (table other : Table α) : Prop :=
  ∀ name, names name → table.get? name = other.get? name

/-- The second table is the first one with a value under a name. A name that was set keeps its
place, another one comes last, and all other entries are the same in the same order. -/
def Rebinds (table after : Table α) (name : Text) (value : α) : Prop :=
  (∃ front old back, (∀ entry ∈ front, entry.1 ≠ name) ∧
      table.entries = front ++ (name, old) :: back ∧
      after.entries = front ++ (name, value) :: back) ∨
    ((∀ entry ∈ table.entries, entry.1 ≠ name) ∧
      after.entries = table.entries ++ [(name, value)])

theorem setEntry_append (name : Text) (old value : α) (front back : List (Text × α))
    (absent : ∀ entry ∈ front, entry.1 ≠ name) :
    setEntry name value (front ++ (name, old) :: back) = front ++ (name, value) :: back := by
  induction front with
  | nil => simp only [List.nil_append, setEntry, ↓reduceIte]
  | cons entry rest ih =>
      rw [List.forall_mem_cons] at absent
      simp only [List.cons_append, setEntry, absent.1, ↓reduceIte, ih absent.2]

theorem setEntry_of_absent (name : Text) (value : α) (entries : List (Text × α))
    (absent : ∀ entry ∈ entries, entry.1 ≠ name) :
    setEntry name value entries = entries ++ [(name, value)] := by
  induction entries with
  | nil => rfl
  | cons entry rest ih =>
      rw [List.forall_mem_cons] at absent
      simp only [List.cons_append, setEntry, absent.1, ↓reduceIte, ih absent.2]

/-- A name is not in a list, or it has a first entry there. -/
theorem first_entry (name : Text) (entries : List (Text × α)) :
    (∀ entry ∈ entries, entry.1 ≠ name) ∨ ∃ front old back,
      (∀ entry ∈ front, entry.1 ≠ name) ∧ entries = front ++ (name, old) :: back := by
  induction entries with
  | nil => exact .inl (by simp)
  | cons entry rest ih =>
      by_cases here : entry.1 = name
      · exact .inr ⟨[], entry.2, rest, by simp, by rw [← here]; rfl⟩
      · rcases ih with absent | ⟨front, old, back, absent, rfl⟩
        · exact .inl (List.forall_mem_cons.mpr ⟨here, absent⟩)
        · exact .inr ⟨entry :: front, old, back, List.forall_mem_cons.mpr ⟨here, absent⟩, rfl⟩

theorem set_rebinds (table : Table α) (name : Text) (value : α) :
    table.Rebinds (table.set name value) name value := by
  rcases first_entry name table.entries with absent | ⟨front, old, back, absent, parts⟩
  · exact .inr ⟨absent, setEntry_of_absent name value table.entries absent⟩
  · refine .inl ⟨front, old, back, absent, parts, ?_⟩
    rw [set, parts]
    exact setEntry_append name old value front back absent

theorem lookup_entry (other : Text) (entry : Text × α) (rest : List (Text × α)) :
    (entry :: rest).lookup other = if other = entry.1 then some entry.2 else rest.lookup other := by
  rw [List.lookup_cons]
  by_cases here : other = entry.1
  · simp only [here, beq_self_eq_true, ↓reduceIte]
  · have apart : (other == entry.1) = false := by simpa using here
    simp only [apart, here, ↓reduceIte]

theorem lookup_setEntry (name other : Text) (value : α) (entries : List (Text × α)) :
    (setEntry name value entries).lookup other =
      if other = name then some value else entries.lookup other := by
  induction entries with
  | nil => simp only [setEntry, lookup_entry, List.lookup_nil]
  | cons entry rest ih =>
      by_cases here : entry.1 = name
      · simp only [setEntry, here, ↓reduceIte, lookup_entry]
        split
        · rfl
        · rfl
      · simp only [setEntry, here, ↓reduceIte, lookup_entry, ih]
        by_cases found : other = entry.1
        · simp only [found, ↓reduceIte, here]
        · simp only [found, ↓reduceIte]

theorem get?_set (table : Table α) (name other : Text) (value : α) :
    (table.set name value).get? other = if other = name then some value else table.get? other :=
  lookup_setEntry name other value table.entries

theorem mem_of_get? {table : Table α} {name : Text} {value : α}
    (found : table.get? name = some value) : (name, value) ∈ table.entries := by
  obtain ⟨front, back, parts, -⟩ := List.lookup_eq_some_iff.mp found
  simp [parts]

/-- Names that occur once have the values that are entered for them. -/
theorem get?_of_mem {table : Table α} (distinct : table.names.Nodup) {name : Text} {value : α}
    (member : (name, value) ∈ table.entries) : table.get? name = some value := by
  obtain ⟨front, back, parts⟩ := List.append_of_mem member
  have once : name ∉ front.map Prod.fst := by
    rw [names, parts, List.map_append, List.map_cons, List.nodup_append] at distinct
    intro before
    exact distinct.2.2 name before name (List.mem_cons_self ..) rfl
  refine List.lookup_eq_some_iff.mpr ⟨front, back, parts, ?_⟩
  intro entry inside
  have apart : entry.1 ≠ name := fun same => once (same ▸ List.mem_map_of_mem inside)
  simpa using Ne.symm apart

theorem get?_perm {table other : Table α} (distinct : table.names.Nodup)
    (same : table.entries.Perm other.entries) (name : Text) :
    table.get? name = other.get? name := by
  have others : other.names.Nodup := (same.map Prod.fst).nodup_iff.mp distinct
  apply Option.ext
  intro value
  constructor
  · intro found
    exact get?_of_mem others (same.mem_iff.mp (mem_of_get? found))
  · intro found
    exact get?_of_mem distinct (same.mem_iff.mpr (mem_of_get? found))

theorem setEntry_setEntry (name : Text) (old value : α) (entries : List (Text × α)) :
    setEntry name value (setEntry name old entries) = setEntry name value entries := by
  induction entries with
  | nil => simp only [setEntry, ↓reduceIte]
  | cons entry rest ih =>
      by_cases here : entry.1 = name
      · simp only [setEntry, here, ↓reduceIte]
      · simp only [setEntry, here, ↓reduceIte, ih]

theorem set_set (table : Table α) (name : Text) (old value : α) :
    (table.set name old).set name value = table.set name value := by
  simp only [set, setEntry_setEntry]

theorem mem_setEntry {name : Text} {value : α} {entries : List (Text × α)} {entry : Text × α}
    (member : entry ∈ setEntry name value entries) : entry = (name, value) ∨ entry ∈ entries := by
  induction entries with
  | nil => exact .inl (List.mem_singleton.mp member)
  | cons first rest ih =>
      unfold setEntry at member
      split at member
      · exact (List.mem_cons.mp member).imp_right (List.mem_cons_of_mem first)
      · rcases List.mem_cons.mp member with same | behind
        · exact .inr (by simp [same])
        · exact (ih behind).imp_right (List.mem_cons_of_mem first)

/-- The names after a change: the same ones in the same places, or one more at the end. -/
theorem names_set (table : Table α) (name : Text) (value : α) :
    (table.set name value).names = table.names ∨
      (name ∉ table.names ∧ (table.set name value).names = table.names ++ [name]) := by
  rcases table.set_rebinds name value with ⟨front, old, back, -, before, after⟩ | ⟨absent, after⟩
  · exact .inl (by simp [names, before, after])
  · refine .inr ⟨?_, by simp [names, after]⟩
    intro member
    obtain ⟨entry, inside, same⟩ := List.mem_map.mp member
    exact absent entry inside same

theorem names_prefix_set (table : Table α) (name : Text) (value : α) :
    table.names <+: (table.set name value).names := by
  rcases table.names_set name value with same | ⟨-, longer⟩
  · simp only [same, List.prefix_refl]
  · rw [longer]
    exact List.prefix_append table.names [name]

theorem nodup_set {table : Table α} (distinct : table.names.Nodup) (name : Text) (value : α) :
    (table.set name value).names.Nodup := by
  rcases table.names_set name value with same | ⟨absent, longer⟩
  · rw [same]
    exact distinct
  · rw [longer, List.nodup_append]
    refine ⟨distinct, List.pairwise_singleton _ name, ?_⟩
    intro other member last inside same
    rw [same, List.mem_singleton.mp inside] at member
    exact absent member

end Reckoner.Table
