import CykChart.Proofs.Filing
import CykChart.Proofs.LineScanner

/-!
# What a file of grammars loads

Loading a file is a fold over its sections as the line scanner finds them. Each section acts on what
was read before it in one of three ways, so the result can also be stated section by section: the
names in order of first arrival, under each name the grammar of its last section that is one, and
one warning for each section that is none. No section bears on any other, but for a later one of
the same name.

## Main definitions

- `Collection.IsStem`: the name that a file without headers gives its grammar.
- `Loading.read`: what a section does to what was read before it.
- `Collection.loaded`, `Collection.failed`: the sections that are grammars and those that are not.

## Main results

- `Collection.load_eq_foldl_scan`: loading a file, as a fold and section by section.
-/

namespace CykChart

namespace Register

variable {α : Type}

/-- A new name comes last among the names, and an old one keeps its place. -/
theorem map_fst_putEntry (name : String) (value : α) (entries : List (String × α)) :
    (putEntry name value entries).map (·.1) =
      if name ∈ entries.map (·.1) then entries.map (·.1) else entries.map (·.1) ++ [name] := by
  induction entries with
  | nil => simp [putEntry]
  | cons entry rest ih =>
    rw [putEntry]
    by_cases hkey : entry.1 = name
    · simp [hkey]
    -- The entry stays where it is, and the new one goes behind it.
    · have hother : name ≠ entry.1 := Ne.symm hkey
      rw [if_neg (by simpa using hkey), List.map_cons, ih, List.map_cons]
      by_cases hmem : name ∈ rest.map (·.1)
      · rw [if_pos hmem, if_pos (List.mem_cons_of_mem _ hmem)]
      · rw [if_neg hmem, if_neg (by simpa [hother] using hmem), List.cons_append]

/-- So it is in a register. -/
theorem names_put (register : Register α) (name : String) (value : α) :
    (register.put name value).names =
      if name ∈ register.names then register.names else register.names ++ [name] :=
  map_fst_putEntry name value register.entries

/-- Of many entries each name stands where it comes first. -/
theorem names_foldl_put {register : Register α} (h : register.names.Nodup)
    (entries : List (String × α)) :
    (entries.foldl (fun filed entry => filed.put entry.1 entry.2) register).names =
      (register.names ++ entries.map (·.1)).eraseDups := by
  induction entries generalizing register with
  | nil => simp [eraseDups_eq_self h]
  | cons entry rest ih =>
    rw [List.foldl_cons, List.map_cons]
    -- A name that is there already keeps its place, as it does in a list cleared of repetitions.
    have hnames := names_put register entry.1 entry.2
    by_cases hmem : entry.1 ∈ register.names
    · rw [if_pos hmem] at hnames
      rw [ih (hnames ▸ h), hnames, eraseDups_append_cons_of_mem hmem]
    · rw [if_neg hmem] at hnames
      rw [ih (hnames ▸ nodup_append_singleton h hmem), hnames, List.append_assoc,
        List.singleton_append]

/-- Filing keeps the names distinct. -/
theorem nodup_names_foldl_put {register : Register α} (h : register.names.Nodup)
    (entries : List (String × α)) :
    (entries.foldl (fun filed entry => filed.put entry.1 entry.2) register).names.Nodup := by
  induction entries generalizing register with
  | nil => exact h
  | cons entry rest ih =>
    refine ih ?_
    rw [names_put]
    split
    next => exact h
    next hnew => exact nodup_append_singleton h hnew

/-- Under each name stands what was filed last. -/
theorem find?_foldl_put (register : Register α) (entries : List (String × α)) (name : String) :
    (entries.foldl (fun filed entry => filed.put entry.1 entry.2) register).find? name =
      ((entries.filter (·.1 = name)).getLast?.map (·.2)).or (register.find? name) := by
  induction entries generalizing register with
  | nil => rfl
  | cons entry rest ih =>
    rw [List.foldl_cons, ih, find?_put]
    -- What is filed now is found only if nothing of the same name is filed later.
    by_cases hname : entry.1 = name
    · rw [if_pos hname.symm, List.filter_cons_of_pos (by simpa using hname)]
      cases hlast : (rest.filter (·.1 = name)).getLast? <;> simp [List.getLast?_cons, hlast]
    · rw [if_neg (Ne.symm hname), List.filter_cons_of_neg (by simpa using hname)]

/-- When no name is there twice, its only entry is the last one. -/
theorem find?_eq_getLast?_filter {register : Register α} (h : register.names.Nodup)
    (name : String) :
    register.find? name = (register.entries.filter (·.1 = name)).getLast?.map (·.2) := by
  obtain ⟨entries⟩ := register
  simp only [find?]
  induction entries with
  | nil => rfl
  | cons entry rest ih =>
    obtain ⟨hnew, hrest⟩ := List.nodup_cons.1 h
    rw [List.lookup_cons]
    by_cases hname : entry.1 = name
    · subst hname
      -- The names are distinct, so the first entry of a name is the last.
      have hnone : rest.filter (·.1 = entry.1) = [] := by
        rw [List.filter_eq_nil_iff]
        intro other hother
        simpa using fun heq : other.1 = entry.1 => hnew (List.mem_map.2 ⟨other, hother, heq⟩)
      rw [List.filter_cons_of_pos (by simp), hnone]
      simp
    · rw [List.filter_cons_of_neg (by simpa using hname), beq_false_of_ne (Ne.symm hname)]
      exact ih hrest

/-- After a merge, what was in the second register is found, and else what was in the first. -/
theorem find?_merge {other : Register α} (h : other.names.Nodup) (register : Register α)
    (name : String) :
    (register.merge other).find? name = (other.find? name).or (register.find? name) := by
  rw [merge, find?_foldl_put, find?_eq_getLast?_filter h]

/-- Merging a register without names changes nothing. -/
theorem merge_eq_self {other : Register α} (h : other.names = []) (register : Register α) :
    register.merge other = register := by
  rw [merge, List.map_eq_nil_iff.1 h, List.foldl_nil]

/-- Registers that agree apart from one name have the same values under all other names. -/
theorem find?_eq_of_erase_eq {register other : Register α} {name key : String}
    (h : register.erase name = other.erase name) (hkey : key ≠ name) :
    register.find? key = other.find? key := by
  have hfind := congrArg (find? · key) h
  simpa [hkey] using hfind

/-- What is filed under a name is removed with the name. -/
theorem erase_put (register : Register α) (name : String) (value : α) :
    (register.put name value).erase name = register.erase name := by
  obtain ⟨entries⟩ := register
  rw [erase, erase, Register.mk.injEq, put]
  induction entries with
  | nil => simp [putEntry]
  | cons entry rest ih =>
    rw [putEntry]
    by_cases hkey : entry.1 = name
    · simp [hkey]
    · simpa [hkey] using ih

/-- What has been erased is erased for good. -/
theorem erase_erase (register : Register α) (name : String) :
    (register.erase name).erase name = register.erase name := by
  simp [erase]

end Register

namespace Collection

/-! ## Names of files -/

/-- The name that a file without headers gives its grammar: the last name of the path, without its
last extension. -/
def IsStem (path stem : List Char) : Prop :=
  ∃ name, '/' ∉ name ∧ (path = name ∨ ∃ directory, path = directory ++ '/' :: name) ∧
    ('.' ∉ name ∧ stem = name ∨ ∃ extension, '.' ∉ extension ∧ name = stem ++ '.' :: extension)

/-- The last name of a path is what follows its last slash, or the whole path. -/
theorem lastName_spec (path : List Char) :
    '/' ∉ lastName path ∧
      (path = lastName path ∨ ∃ directory, path = directory ++ '/' :: lastName path) := by
  by_cases hslash : '/' ∈ path
  -- The last slash ends the last but one part of the path.
  · obtain ⟨directory, name, rfl, hname⟩ := exists_last_of_mem hslash
    have hlast : lastName (directory ++ '/' :: name) = name := by
      rw [lastName, List.splitOn_append_cons_self, List.splitOn_eq_singleton hname]
      simp
    rw [hlast]
    exact ⟨hname, .inr ⟨directory, rfl⟩⟩
  · have hlast : lastName path = path := by
      rw [lastName, List.splitOn_eq_singleton hslash]
      rfl
    rw [hlast]
    exact ⟨hslash, .inl rfl⟩

/-- An extension begins at the last dot of a name, and a name may have none. -/
theorem withoutExtension_spec (name : List Char) :
    '.' ∉ name ∧ withoutExtension name = name ∨
      ∃ extension, '.' ∉ extension ∧ name = withoutExtension name ++ '.' :: extension := by
  by_cases hdot : '.' ∈ name
  · obtain ⟨stem, extension, rfl, hextension⟩ := exists_last_of_mem hdot
    have hstem : withoutExtension (stem ++ '.' :: extension) = stem := by
      -- The scan from the end of the name passes over the extension and stops at the dot.
      have hall : ∀ c ∈ extension.reverse, (c != '.') = true := by
        intro c hc
        have hmem : c ∈ extension := List.mem_reverse.1 hc
        simpa using fun heq : c = '.' => hextension (heq ▸ hmem)
      rw [withoutExtension, if_pos (by simp), List.reverse_append, List.reverse_cons,
        List.append_assoc, List.dropWhile_append_of_pos hall]
      simp
    rw [hstem]
    exact .inr ⟨extension, hextension, rfl⟩
  · refine .inl ⟨hdot, ?_⟩
    rw [withoutExtension, if_neg (by simpa using hdot)]

/-- The name that the loader computes is the one that the path gives. -/
theorem isStem_withoutExtension (path : List Char) :
    IsStem path (withoutExtension (lastName path)) := by
  obtain ⟨hslash, hpath⟩ := lastName_spec path
  exact ⟨lastName path, hslash, hpath, withoutExtension_spec (lastName path)⟩

/-! ## Loading -/

/-- What a section does to what was read before it: nothing if it is blank. -/
def Loading.read (loading : Loading) (part : Section) : Loading :=
  if part.text = [] then loading else loading.add part

/-- The sections that are grammars, with their grammars. -/
def loaded (parts : List Section) : List (String × Grammar) :=
  parts.filterMap fun part =>
    match Grammar.ofText part.text with
    | .ok g => some (part.name, g)
    | .error _ => none

/-- The sections that are no grammars, with the reasons. -/
def failed (parts : List Section) : List Warning :=
  parts.filterMap fun part =>
    match Grammar.ofText part.text with
    | .ok _ => none
    | .error error => some ⟨part.name, error⟩

/-- Sections that are read one after another file their grammars and leave their warnings, in order.
-/
theorem foldl_add (loading : Loading) (parts : List Section) :
    parts.foldl Loading.add loading =
      ⟨(loaded parts).foldl (fun filed entry => filed.put entry.1 entry.2) loading.grammars,
        loading.warnings ++ failed parts⟩ := by
  induction parts generalizing loading with
  | nil => simp [loaded, failed]
  | cons part rest ih =>
    rw [List.foldl_cons, ih, Loading.add]
    cases hread : Grammar.ofText part.text <;> simp [loaded, failed, hread]

/-- No name is there twice among the grammars that are loaded. -/
theorem nodup_names_of_load {disk : Disk} {path : String} {loading : Loading}
    (h : load disk path = .ok loading) : loading.grammars.names.Nodup := by
  obtain ⟨text, -, rfl⟩ := map_eq_ok_iff.1 h
  rw [ofText, foldl_add]
  have hnone : (Register.names ({} : Register Grammar)).Nodup := List.nodup_nil
  exact Register.nodup_names_foldl_put hnone _

/-- Sections without text are passed over. -/
theorem foldl_read (loading : Loading) (parts : List Section) :
    parts.foldl Loading.read loading =
      (parts.filter (!·.text.isEmpty)).foldl Loading.add loading := by
  rw [List.foldl_filter]
  congr
  funext before part
  rw [Loading.read]
  by_cases hblank : part.text = [] <;> simp [hblank]

/-- The pattern matches nowhere exactly when the line scanner finds no section. -/
theorem find?_header_eq_none_iff {text : List Char} :
    header.find? (.first text) = none ↔ scan text = [] := by
  -- A text is split into sections from its first match on.
  rw [← sections_eq_scan, sections, List.map_eq_nil_iff, Text.Pattern.split]
  cases hfind : header.find? (.first text) <;> simp

/-- What a file defines: all of it under the stem of its name when it has no sections, else the
sections that are not blank. -/
def definitions (stem text : List Char) : List Section :=
  if scan text = [] then [⟨String.ofList stem, text⟩]
  else (scan text).filter (!·.text.isEmpty)

/-- The definitions of a file are those of its text, under the name of the file if it has no
headers. -/
theorem sectionsOfFile_eq (path : String) (text : List Char) :
    sectionsOfFile path text = definitions (withoutExtension (lastName path.toList)) text := by
  rw [sectionsOfFile, definitions]
  split
  next hnone => rw [if_pos (find?_header_eq_none_iff.1 hnone)]
  next hit hsome =>
    have hne : scan text ≠ [] := by
      intro hempty
      rw [find?_header_eq_none_iff.2 hempty] at hsome
      exact absurd hsome (by simp)
    rw [if_neg hne, sections_eq_scan]

/-- Loading a file that can be read is a fold over its sections as the line scanner finds them, and
sections do not bear on one another: the names are those of the sections that are grammars in order
of first arrival, under each name is its last grammar, and each section that is no grammar is
reported on a line of its own. -/
theorem load_eq_foldl_scan {disk : Disk} {path : String} {text : List Char}
    (h : disk.readText path = .ok text) :
    ∃ stem loading, IsStem path.toList stem ∧ load disk path = .ok loading ∧
      (scan text = [] → loading = Loading.add {} ⟨String.ofList stem, text⟩) ∧
      (scan text ≠ [] → loading = (scan text).foldl Loading.read {}) ∧
      loading.grammars.names = ((loaded (definitions stem text)).map (·.1)).eraseDups ∧
      (∀ name, loading.grammars.find? name =
        ((loaded (definitions stem text)).filter (·.1 = name)).getLast?.map (·.2)) ∧
      loading.report = String.join ((failed (definitions stem text)).map fun warning =>
        "Warning: Failed to load grammar '" ++ warning.name ++ "': " ++ warning.error.message
          ++ "\n") := by
  -- With and without headers, what is loaded is one fold over the definitions of the file.
  obtain ⟨stem, hstem⟩ : ∃ stem, stem = withoutExtension (lastName path.toList) := ⟨_, rfl⟩
  have hfold : ofText path text = (definitions stem text).foldl Loading.add {} := by
    rw [ofText, sectionsOfFile_eq, hstem]
  have hstemOf : IsStem path.toList stem := hstem ▸ isStem_withoutExtension path.toList
  refine ⟨stem, ofText path text, hstemOf, ?_, ?_, ?_, ?_, ?_, ?_⟩
  · rw [load, h]
    rfl
  · intro hempty
    rw [hfold, definitions, if_pos hempty]
    rfl
  · intro hne
    rw [hfold, definitions, if_neg hne, foldl_read]
  · have hnone : (Register.names ({} : Register Grammar)).Nodup := List.nodup_nil
    rw [hfold, foldl_add]
    exact Register.names_foldl_put hnone _
  · intro name
    rw [hfold, foldl_add, Register.find?_foldl_put]
    exact Option.or_none
  · rw [hfold, foldl_add]
    rfl

/-- A file with one section, after which a blank one has the same name. -/
theorem load_eq_foldl_scan_section :
    let disk : Disk := fun _ => .ok "x:\n\nA->a\nx: \n".toUTF8.toList
    let text := "x:\n\nA->a\nx: \n".toList
    disk.readText "g.txt" = .ok text ∧
      ∃ loading, load disk "g.txt" = .ok loading ∧ loading.grammars.names = ["x"] := by
  intro disk text
  have hread : disk.readText "g.txt" = .ok text := by
    decide +kernel
  -- The second section is blank and takes nothing from the first.
  obtain ⟨stem, loading, -, hload, -, -, hnames, -, -⟩ := load_eq_foldl_scan hread
  have hsections : scan text ≠ [] := by decide +kernel
  refine ⟨hread, loading, hload, ?_⟩
  rw [hnames, definitions, if_neg hsections]
  decide +kernel

end Collection

end CykChart
