import CykChart.Console.Session
import CykChart.Proofs.CommandLines
import CykChart.Proofs.Loading

/-!
# What commands do to the grammars of a session

A command does one of eight things to the grammars of a session. It leaves all of them as they are,
either because it only shows something or because it is not carried out, which is reported; or it
is one of the six changes, each with an answer of its own. Everything that is said about all
commands is a case analysis over these.

## Main definitions

- `Console.reports`: how an answer begins that reports that a command was not carried out.
- `Console.Request.edit?`: the operation by which a request builds a grammar.
- `Console.Effect`: what a command does.

## Main results

- `Console.effect_of_answer`: every command that is answered does one of the eight things.
- `Console.Effect.store_eq_of_report`: a command that is not carried out changes nothing.
- `Console.Effect.erase_store_eq`: a command to a grammar leaves all others as they are.
-/

namespace CykChart.Console

variable {disk : Disk} {store : Store} {command : Command} {answer : Answer} {name : String}

/-- How an answer begins that reports that something was not carried out. -/
def reports : List String :=
  ["Error: ", "Usage: ", "Grammar not found: ", "Not found: ", "Unknown command: ",
    "\nUse 'exit' to quit"]

/-- The operation by which a request builds a grammar, if it does. -/
def Request.edit? : Request → Option Edit
  | .declareNonterminal symbol => some (.declareNonterminal (.text symbol))
  | .declareTerminal symbol => some (.declareTerminal (.text symbol))
  | .setStart symbol => some (.setStart (.text symbol))
  | .addRule head body => some (.addRule (.text head) (.text body))
  | _ => none

/-- Whether a command only shows something. -/
def Command.Shows : Command → Prop
  | .nothing | .help | .list => True
  | .ask _ request => request.edit? = none ∧ request ≠ .reset
  | _ => False

/-- What a command does to the grammars of a session, with its answer. -/
inductive Effect (disk : Disk) (store : Store) : Command → Answer → Prop where
  /-- It is reported that the command is not carried out. -/
  | reported {command : Command} {answer : Answer}
      (hreport : ∃ report ∈ reports, report.toList <+: answer.printed.toList)
      (hstore : answer.store = store) : Effect disk store command answer
  /-- Something is shown. -/
  | shown {command : Command} {answer : Answer} (hshows : command.Shows)
      (hstore : answer.store = store) : Effect disk store command answer
  /-- An empty grammar is filed under a name. -/
  | created (name : String) :
      Effect disk store (.create name)
        { printed := line ("Created: " ++ name), store := store.put name Grammar.empty }
  /-- An operation on a grammar succeeds. -/
  | built {name : String} {request : Request} {g next : Grammar} {edit : Edit}
      (hfound : store.find? name = some g) (hedit : request.edit? = some edit)
      (happly : g.apply edit = .ok next) :
      Effect disk store (.ask name request)
        { printed := line "OK", store := store.put name next }
  /-- All symbols and rules of a grammar are removed. -/
  | reset {name : String} {g : Grammar} (hfound : store.find? name = some g) :
      Effect disk store (.ask name .reset)
        { printed := line ("Reset: " ++ name), store := store.put name Grammar.empty }
  /-- A grammar is removed. -/
  | deleted {name : String} {g : Grammar} (hfound : store.find? name = some g) :
      Effect disk store (.delete name)
        { printed := line ("Deleted: " ++ name), store := store.erase name }
  /-- All grammars are removed. -/
  | cleared : Effect disk store .clear { printed := line "Cleared all", store := Register.empty }
  /-- The grammars of a file are filed under their names. -/
  | loaded {path : String} {loading : Collection.Loading}
      (hload : Collection.load disk path = .ok loading) :
      Effect disk store (.load path) (answerLoad disk store path)

/-- A line that is printed begins with the report on it. -/
theorem prefix_line (report text : String) :
    report.toList <+: (line (report ++ text)).toList := by
  simp [line]

/-! ## Every command has an effect -/

/-- An operation that a command asks for is carried out or reported, and other grammars are left
alone. -/
theorem effect_of_answerEdit {request : Request} {g : Grammar} {edit : Edit}
    (hfound : store.find? name = some g) (hedit : request.edit? = some edit) :
    Effect disk store (.ask name request) (answerEdit store name g edit "OK") := by
  rw [answerEdit]
  split
  next next happly => exact .built hfound hedit happly
  next refusal _ => exact .reported ⟨"Error: ", by decide, prefix_line _ _⟩ rfl

/-- A question changes no grammar, answered or not. -/
theorem store_answerQuery {α : Type} (result : Except QueryError α) (print : α → String) :
    (answerQuery store result print).store = store := by
  cases result <;> rfl

/-- A request that neither builds nor resets leaves the grammars as they are. -/
theorem store_answerRequest {request : Request} {g : Grammar} (hedit : request.edit? = none)
    (hreset : request ≠ .reset) : (answerRequest store name g request).store = store := by
  cases request with
  | declareNonterminal | declareTerminal | setStart | addRule =>
    exact absurd hedit (by simp [Request.edit?])
  | reset => exact absurd rfl hreset
  | summary | productions => rfl
  | productionsOf head =>
    rw [answerRequest]
    split <;> rfl
  | accepts word => exact store_answerQuery _ _
  | table word => exact store_answerQuery _ _
  | draw word =>
    rw [answerRequest, answerDrawing]
    split <;> rfl

/-- A request to a grammar has one of the effects, by its kind. -/
theorem effect_of_answerRequest {g : Grammar} (hfound : store.find? name = some g)
    (request : Request) :
    Effect disk store (.ask name request) (answerRequest store name g request) := by
  cases request with
  | declareNonterminal | declareTerminal | setStart | addRule =>
    exact effect_of_answerEdit hfound rfl
  | reset => exact .reset hfound
  | summary | productionsOf | productions | accepts | table | draw =>
    exact .shown ⟨rfl, nofun⟩ (store_answerRequest rfl nofun)

/-- Every command that is answered has one of the effects. -/
theorem effect_of_answer (h : Console.answer disk store command = some answer) :
    Effect disk store command answer := by
  cases command with
  | exit => exact absurd h (by simp [Console.answer])
  -- Refusals are known by how their report begins; what remains is done as asked.
  | nothing | help | list => exact Option.some.inj h ▸ .shown trivial rfl
  | create name => exact Option.some.inj h ▸ .created name
  | clear => exact Option.some.inj h ▸ .cleared
  | usage synopsis =>
    exact Option.some.inj h ▸ .reported ⟨"Usage: ", by decide, prefix_line _ _⟩ rfl
  | unknown word =>
    exact Option.some.inj h ▸ .reported ⟨"Unknown command: ", by decide, prefix_line _ _⟩ rfl
  | load path =>
    obtain rfl := Option.some.inj h
    cases hload : Collection.load disk path with
    | ok loading => exact .loaded hload
    | error error =>
      rw [answerLoad, hload]
      exact .reported ⟨"Error: ", by decide, prefix_line _ _⟩ rfl
  | ask name request =>
    rw [Console.answer] at h
    split at h
    next =>
      exact Option.some.inj h ▸ .reported ⟨"Grammar not found: ", by decide, prefix_line _ _⟩ rfl
    next g hfound => exact Option.some.inj h ▸ effect_of_answerRequest hfound request
  | delete name =>
    rw [Console.answer] at h
    split at h
    next => exact Option.some.inj h ▸ .reported ⟨"Not found: ", by decide, prefix_line _ _⟩ rfl
    next g hfound => exact Option.some.inj h ▸ .deleted hfound

/-! ## What is reported changes nothing -/

/-- What is appended does not change how a text begins. -/
theorem head?_append_text {first : String} {c : Char} (h : first.toList.head? = some c)
    (rest : String) : (first ++ rest).toList.head? = some c := by
  rw [String.toList_append, List.head?_append, h]
  rfl

/-- A printed line begins as its text does. -/
theorem head?_line {first : String} {c : Char} (h : first.toList.head? = some c) (rest : String) :
    (line (first ++ rest)).toList.head? = some c :=
  head?_append_text (head?_append_text h rest) "\n"

/-- The first letters of answers to commands that change the grammars. -/
def changeLetters : List Char :=
  ['C', 'D', 'L', 'O', 'R', 'W']

/-- A report with warnings begins as a warning does. -/
theorem head?_report {loading : Collection.Loading} (h : loading.warnings ≠ []) :
    loading.report.toList.head? = some 'W' := by
  obtain ⟨warning, rest, hcons⟩ := List.exists_cons_of_ne_nil h
  have hwarning : "Warning: Failed to load grammar '".toList.head? = some 'W' := by
    decide +kernel
  have hname := head?_append_text hwarning warning.name
  have hmessage := head?_append_text (head?_append_text hname "': ") warning.error.message
  -- Only the first warning matters, and its text begins with a fixed one.
  have hfirst : (warning.message ++ "\n").toList.head? = some 'W' :=
    head?_append_text hmessage "\n"
  rw [Collection.Loading.report, hcons, List.map_cons, String.toList_join, List.flatMap_cons,
    List.head?_append, hfirst]
  rfl

/-- An answer to a command that changes the grammars begins with one of these letters. -/
theorem Effect.exists_head?_printed (h : Effect disk store command answer)
    (hchange : answer.store ≠ store) :
    ∃ c ∈ changeLetters, answer.printed.toList.head? = some c := by
  cases h with
  | reported _ hstore | shown _ hstore => exact absurd hstore hchange
  | created name => exact ⟨'C', by decide, head?_line (by decide) name⟩
  | built => exact ⟨'O', by decide, head?_append_text (by decide) "\n"⟩
  | @reset name => exact ⟨'R', by decide, head?_line (by decide) name⟩
  | @deleted name => exact ⟨'D', by decide, head?_line (by decide) name⟩
  | cleared => exact ⟨'C', by decide, head?_append_text (by decide) "\n"⟩
  | @loaded path loading hload =>
    rw [answerLoad, hload] at hchange ⊢
    -- The answer ends with a count, as something is loaded. Warnings may stand before it.
    have hsome : ¬ loading.grammars.isEmpty = true := by
      intro hempty
      have hnone : loading.grammars.entries = [] := List.isEmpty_iff.1 hempty
      exact hchange (by simp [Register.merge, hnone])
    by_cases hwarnings : loading.warnings = []
    · have hreport : loading.report = "" := by
        rw [Collection.Loading.report, hwarnings]
        rfl
      refine ⟨'L', by decide, ?_⟩
      simp only [if_neg hsome, hreport, String.empty_append, String.append_assoc]
      exact head?_line (by decide) _
    · exact ⟨'W', by decide, head?_append_text (head?_report hwarnings) _⟩

/-- A command that is reported as not carried out, or to which nothing is printed, leaves the
grammars as they are. -/
theorem Effect.store_eq_of_report (h : Effect disk store command answer)
    (hreport : (∃ report ∈ reports, report.toList <+: answer.printed.toList) ∨
      answer.printed = "") : answer.store = store := by
  -- Reports and confirmed changes differ in their first letter.
  have hapart : ∀ report ∈ reports,
      report.toList.head?.any (· ∉ changeLetters) = true := by
    decide +kernel
  by_contra hchange
  obtain ⟨c, hc, hhead⟩ := h.exists_head?_printed hchange
  rcases hreport with ⟨report, hmem, rest, hrest⟩ | hnothing
  · obtain ⟨d, hd, hnot⟩ := (Option.any_eq_true _ _).1 (hapart report hmem)
    rw [← hrest, List.head?_append, hd] at hhead
    exact of_decide_eq_true hnot (Option.some.inj hhead ▸ hc)
  · rw [hnothing] at hhead
    exact absurd hhead (by simp)

/-- A command that only shows something changes no grammar. -/
theorem Effect.store_eq_of_shows (h : Effect disk store command answer) (hshows : command.Shows) :
    answer.store = store := by
  cases h with
  | reported _ hstore | shown _ hstore => exact hstore
  | @built name request g next edit hfound hedit happly =>
    exact absurd (hedit.symm.trans hshows.1) (by simp)
  | reset => exact absurd rfl hshows.2
  | created | deleted | cleared | loaded => exact hshows.elim

/-- A command that is answered by how it is used changes no grammar. -/
theorem Effect.store_eq_of_usage {synopsis : String}
    (h : Effect disk store (.usage synopsis) answer) : answer.store = store := by
  cases h with
  | reported _ hstore | shown _ hstore => exact hstore

/-! ## What is changed -/

/-- Apart from the grammar that a command acts on, the grammars stay as they are and in their
order. -/
theorem Effect.erase_store_eq (h : Effect disk store command answer)
    (hsubject : command.subject? = some name) : answer.store.erase name = store.erase name := by
  cases h with
  | reported _ hstore | shown _ hstore => rw [hstore]
  | created subject =>
    obtain rfl := Option.some.inj hsubject
    exact Register.erase_put store subject Grammar.empty
  | @built subject _ _ next =>
    obtain rfl := Option.some.inj hsubject
    exact Register.erase_put store subject next
  | @reset subject =>
    obtain rfl := Option.some.inj hsubject
    exact Register.erase_put store subject Grammar.empty
  | @deleted subject =>
    obtain rfl := Option.some.inj hsubject
    exact Register.erase_erase store subject
  | cleared | loaded => exact absurd hsubject (by simp [Command.subject?])

/-- A command that acts on one grammar leaves every other one as it is. -/
theorem Effect.find?_store_eq (h : Effect disk store command answer) {other : String}
    (hsubject : command.subject? = some other) (hother : other ≠ name) :
    answer.store.find? name = store.find? name :=
  Register.find?_eq_of_erase_eq (h.erase_store_eq hsubject) (Ne.symm hother)

/-- Loading a file files its grammars under their names and leaves the other ones as they are. -/
theorem find?_store_answerLoad {path : String} {loading : Collection.Loading}
    (hload : Collection.load disk path = .ok loading) (store : Store) (name : String) :
    (answerLoad disk store path).store.find? name =
      (loading.grammars.find? name).or (store.find? name) := by
  rw [answerLoad, hload]
  exact Register.find?_merge (Collection.nodup_names_of_load hload) store name

end CykChart.Console
