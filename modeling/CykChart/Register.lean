/-!
# Registers

A register files values under names. It remembers the order in which the names first arrived: a
value filed under a known name takes the place of the old one, and a new name goes to the end.

## Main definitions

- `Register`: the entries, in order of first arrival.
- `Register.put`, `Register.erase`, `Register.merge`: filing and removing.
- `Register.find?`: the value under a name.
-/

namespace CykChart

/-- Values filed under names. -/
structure Register (α : Type) where
  /-- Names with their values, in the order in which the names arrived. -/
  entries : List (String × α) := []
  deriving DecidableEq, Repr

namespace Register

variable {α : Type}

/-- The register without entries. -/
def empty : Register α := {}

/-- The value under a name. -/
def find? (register : Register α) (name : String) : Option α :=
  register.entries.lookup name

/-- The names, in order of arrival. -/
def names (register : Register α) : List String :=
  register.entries.map (·.1)

/-- The number of entries. -/
def size (register : Register α) : Nat :=
  register.entries.length

/-- Whether there are no entries. -/
def isEmpty (register : Register α) : Bool :=
  register.entries.isEmpty

/-- Entries with a value filed under a name. -/
def putEntry (name : String) (value : α) : List (String × α) → List (String × α)
  | [] => [(name, value)]
  | entry :: rest =>
    if entry.1 == name then (name, value) :: rest else entry :: putEntry name value rest

/-- File a value under a name, in place of the value that the name had. -/
def put (register : Register α) (name : String) (value : α) : Register α :=
  ⟨putEntry name value register.entries⟩

/-- Remove a name with its value. -/
def erase (register : Register α) (name : String) : Register α :=
  ⟨register.entries.filter (·.1 != name)⟩

/-- File every entry of a second register, in its order. -/
def merge (register other : Register α) : Register α :=
  other.entries.foldl (fun merged entry => merged.put entry.1 entry.2) register

/-- Nothing is filed in the empty register. -/
@[simp]
theorem find?_empty (name : String) : (empty : Register α).find? name = none := rfl

/-- A value just filed is found, and other names are not disturbed. -/
@[simp]
theorem find?_put (register : Register α) (name other : String) (value : α) :
    (register.put name value).find? other =
      if other = name then some value else register.find? other := by
  obtain ⟨entries⟩ := register
  simp only [put, find?]
  induction entries with
  | nil =>
    by_cases h : other = name
    · simp [putEntry, h]
    · simp [putEntry, List.lookup_cons, beq_false_of_ne h, h]
  | cons entry rest ih =>
    obtain ⟨key, held⟩ := entry
    -- The entry of the name is replaced where it stands, and the others are passed over.
    by_cases hk : key = name
    · subst hk
      by_cases h : other = key
      · simp [putEntry, h]
      · simp [putEntry, List.lookup_cons, beq_false_of_ne h, h]
    · by_cases ho : other = key
      · subst ho
        simp [putEntry, hk]
      · simp [putEntry, List.lookup_cons, beq_false_of_ne ho, beq_false_of_ne hk, ih]

/-- A name removed is not found, and other names are not disturbed. -/
@[simp]
theorem find?_erase (register : Register α) (name other : String) :
    (register.erase name).find? other =
      if other = name then none else register.find? other := by
  obtain ⟨entries⟩ := register
  simp only [erase, find?]
  induction entries with
  | nil => simp
  | cons entry rest ih =>
    obtain ⟨key, held⟩ := entry
    -- Every entry of the name is dropped.
    by_cases hk : key = name
    · subst hk
      by_cases h : other = key
      · simpa [h] using ih
      · simpa [List.lookup_cons, beq_false_of_ne h, h] using ih
    · by_cases ho : other = key
      · subst ho
        simp [hk]
      · simp [List.lookup_cons, beq_false_of_ne ho, hk, ih]

end Register

end CykChart
