import CykChart.Console.Command
import Mathlib.Data.List.Basic

/-!
# What lines call for

A line calls for a command by its first word, in any letter case, and hands over the other words as
arguments. Most commands act on one grammar, whose name is their first argument. They differ in how
many further arguments they need, and a line with too few of them is answered by how the command is
used.

## Main definitions

- `Console.Calls`: a line calls for a command with arguments.
- `Console.Addresses`: a line is a complete command to the grammar with a name.

## Main results

- `Console.blank_or_calls`: every line is blank or calls for something.
- `Console.read_eq_iff`: what is read is what is called for.
- `Console.subject?_read_eq_some_iff`: a complete command to a grammar is read as one.
-/

namespace CykChart.Console

variable {text name : String} {arguments : List String}

/-- A line calls for a command when its first word is the name of the command, in any letter case.
The other words are the arguments. -/
def Calls (text name : String) (arguments : List String) : Prop :=
  ∃ word, Text.words text.toList = word :: arguments.map String.toList ∧
    String.ofList (Text.lowered word) = name

/-- A line that calls a command is read as that command with the words behind its name. -/
theorem Calls.read_eq (h : Calls text name arguments) :
    Command.read text = .ofWords name arguments := by
  obtain ⟨word, hwords, rfl⟩ := h
  have hback : (arguments.map String.toList).map String.ofList = arguments := by
    simp [Function.comp_def]
  rw [Command.read, hwords]
  simp only [hback]

/-- A line without words calls for nothing, and every other line calls for some command. -/
theorem blank_or_calls (text : String) :
    Text.words text.toList = [] ∧ Command.read text = .nothing ∨
      ∃ name arguments, Calls text name arguments := by
  cases hwords : Text.words text.toList with
  | nil => exact .inl ⟨rfl, by rw [Command.read, hwords]⟩
  | cons word rest =>
    refine .inr ⟨_, rest.map String.ofList, word, ?_, rfl⟩
    rw [hwords]
    simp [Function.comp_def]

/-- Other commands than the one for a blank line are called for. -/
theorem read_eq_iff {command : Command} (h : command ≠ .nothing) :
    Command.read text = command ↔
      ∃ word words, Calls text word words ∧ Command.ofWords word words = command := by
  constructor
  · intro hread
    rcases blank_or_calls text with ⟨-, hblank⟩ | ⟨word, words, hcalls⟩
    · exact absurd (hread.symm.trans hblank) h
    · exact ⟨word, words, hcalls, hcalls.read_eq.symm.trans hread⟩
  · rintro ⟨word, words, hcalls, hwords⟩
    exact hcalls.read_eq.trans hwords

/-- Two names end the session, whatever stands behind them. -/
theorem ofWords_eq_exit_iff {word : String} {words : List String} :
    Command.ofWords word words = .exit ↔ word ∈ ["exit", "quit"] := by
  constructor
  · intro h
    unfold Command.ofWords at h
    split at h <;> simp at h ⊢
  · intro h
    simp only [List.mem_cons, List.not_mem_nil, or_false] at h
    rcases h with rfl | rfl <;> rfl

/-- One name asks for the list of grammars. -/
theorem ofWords_eq_list_iff {word : String} {words : List String} :
    Command.ofWords word words = .list ↔ word = "list" := by
  constructor
  · intro h
    unfold Command.ofWords at h
    split at h <;> simp at h ⊢
  · rintro rfl
    rfl

/-! ## Commands to one grammar -/

/-- The commands whose first argument is the name of a grammar, with the number of arguments that
they need behind it. -/
def grammarCommands : List (String × Nat) :=
  [("new", 0), ("nt", 1), ("t", 1), ("start", 1), ("prod", 2), ("reset", 0), ("show_grammar", 0),
    ("productions", 1), ("grammar", 0), ("cyk", 0), ("table", 1), ("graph", 1), ("delete", 0)]

/-- A line is a complete command to the grammar with a name. -/
def Addresses (text name : String) : Prop :=
  ∃ word needed arguments, (word, needed) ∈ grammarCommands ∧
    Calls text word (name :: arguments) ∧ needed ≤ arguments.length

/-- The name of the grammar that a command acts on. -/
def Command.subject? : Command → Option String
  | .create name | .ask name _ | .delete name => some name
  | _ => none

/-- A command to a grammar acts on the one that its first argument names, or it lacks an argument and
is answered by how it is used. -/
theorem ofWords_cases {word : String} {needed : Nat} (hcommand : (word, needed) ∈ grammarCommands)
    (words : List String) :
    (∃ name arguments, words = name :: arguments ∧ needed ≤ arguments.length ∧
        (Command.ofWords word words).subject? = some name) ∨
      (words.length ≤ needed ∧ ∃ synopsis, Command.ofWords word words = .usage synopsis) := by
  simp only [grammarCommands, List.mem_cons, List.not_mem_nil, or_false, Prod.mk.injEq]
    at hcommand
  -- At most two arguments behind the name are looked at. With those that it needs a command is read
  -- by computation.
  rcases hcommand with ⟨rfl, rfl⟩ | ⟨rfl, rfl⟩ | ⟨rfl, rfl⟩ | ⟨rfl, rfl⟩ | ⟨rfl, rfl⟩ |
    ⟨rfl, rfl⟩ | ⟨rfl, rfl⟩ | ⟨rfl, rfl⟩ | ⟨rfl, rfl⟩ | ⟨rfl, rfl⟩ | ⟨rfl, rfl⟩ | ⟨rfl, rfl⟩ |
    ⟨rfl, rfl⟩ <;>
    rcases words with _ | ⟨name, _ | ⟨first, _ | ⟨second, rest⟩⟩⟩ <;>
    first
      | exact .inl ⟨name, _, rfl, by simp, rfl⟩
      | exact .inr ⟨by simp, _, rfl⟩

/-- A command acts on the grammar that its first word names, if it has all the words that it needs.
-/
theorem subject?_ofWords_eq_some_iff {word : String} {words : List String} :
    (Command.ofWords word words).subject? = some name ↔
      ∃ needed arguments, (word, needed) ∈ grammarCommands ∧ words = name :: arguments ∧
        needed ≤ arguments.length := by
  constructor
  · intro h
    -- One case for each command, with enough arguments or not.
    unfold Command.ofWords at h
    split at h <;> simp only [Command.subject?, reduceCtorEq, Option.some.injEq] at h <;>
      subst h <;> simp [grammarCommands]
  · rintro ⟨needed, arguments, hcommand, rfl, hneeded⟩
    rcases ofWords_cases hcommand (name :: arguments) with
      ⟨other, rest, hwords, -, hsubject⟩ | ⟨hfew, -⟩
    · obtain ⟨rfl, rfl⟩ := List.cons.inj hwords
      exact hsubject
    · exact absurd hneeded (Nat.not_le.2 hfew)

/-- A line is read as a command to a grammar exactly when it is a complete one. -/
theorem subject?_read_eq_some_iff :
    (Command.read text).subject? = some name ↔ Addresses text name := by
  constructor
  · intro h
    -- An empty command has no subject, so the line holds a command word.
    have hnothing : Command.read text ≠ .nothing := by
      intro hread
      rw [hread] at h
      exact absurd h (by simp [Command.subject?])
    obtain ⟨word, words, hcalls, hwords⟩ := (read_eq_iff hnothing).1 rfl
    rw [← hwords, subject?_ofWords_eq_some_iff] at h
    obtain ⟨needed, arguments, hcommand, rfl, hneeded⟩ := h
    exact ⟨word, needed, arguments, hcommand, hcalls, hneeded⟩
  · rintro ⟨word, needed, arguments, hcommand, hcalls, hneeded⟩
    rw [hcalls.read_eq]
    exact subject?_ofWords_eq_some_iff.2 ⟨needed, arguments, hcommand, rfl, hneeded⟩

end CykChart.Console
