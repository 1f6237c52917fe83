import CykChart.Proofs.Queries
import CykChart.Proofs.Sessions

/-!
# Grammars as replays of what was confirmed

A grammar that was created in a session is what the operations make of it that were confirmed
since, whatever else went on: operations that were refused, and commands to other grammars. So what
a session prints tells every grammar of its own, and with it the verdict on every word.

## Main definitions

- `Console.confirmed`: the operations on a grammar that were confirmed.
- `Console.replaces`: the commands that put something else in the place of a grammar.

## Main results

- `Console.Session.exists_replay`: a grammar that is not replaced is a replay.
- `Console.confirmed_determine_verdicts`: the replay and its verdicts, in terms of rewriting.
-/

namespace CykChart.Console

variable {disk : Disk} {store last : Store} {command : Command} {answer : Answer} {name : String}

/-! ## What is confirmed -/

/-- The command that an event is, if it is a line. -/
def Event.command? : Event → Option Command
  | .entered text => some (Command.read text)
  | .interrupted => none

/-- The operation on the grammar with a name that a command asks for. -/
def Command.edit? (name : String) : Command → Option Edit
  | .ask other request => if other = name then request.edit? else none
  | _ => none

/-- The operation on the grammar with a name that is asked for and confirmed. -/
def confirmed? (name : String) (command : Command) (answer : Answer) : Option Edit :=
  if answer.printed = line "OK" then command.edit? name else none

/-- The operation on the grammar with a name that is confirmed in a turn. -/
def Turn.confirmed? (name : String) (turn : Turn) : Option Edit :=
  turn.event.command?.bind fun command => Console.confirmed? name command turn.answer

/-- The operations on the grammar with a name that are confirmed, in order. -/
def confirmed (name : String) (turns : List Turn) : List Edit :=
  turns.filterMap (·.confirmed? name)

/-- Whether a command puts something else in the place of the grammar with a name, whatever that
was. -/
def replaces (disk : Disk) (name : String) : Command → Bool
  | .create other | .delete other => other == name
  | .ask other request => other == name && request == .reset
  | .clear => true
  | .load path =>
    match Collection.load disk path with
    | .ok loading => (loading.grammars.find? name).isSome
    | .error _ => false
  | _ => false

/-- Whether a turn puts something else in the place of the grammar with a name. -/
def Turn.replaces (name : String) (turn : Turn) : Bool :=
  turn.event.command?.any (Console.replaces turn.disk name)

/-! ## A turn -/

/-- What is reported is not confirmed. -/
theorem printed_ne_of_report (h : ∃ report ∈ reports, report.toList <+: answer.printed.toList) :
    answer.printed ≠ line "OK" := by
  have hapart : ∀ report ∈ reports, ¬ report.toList <+: (line "OK").toList := by decide
  obtain ⟨report, hmem, hprefix⟩ := h
  intro hprinted
  exact hapart report hmem (hprinted ▸ hprefix)

/-- A command without an operation on the grammar confirms none. -/
theorem confirmed?_eq_none (h : command.edit? name = none) :
    confirmed? name command answer = none := by
  rw [confirmed?, h, ite_self]

/-- A command that only shows something has no operation on a grammar. -/
theorem edit?_eq_none_of_shows (h : command.Shows) : command.edit? name = none := by
  cases command with
  | ask other request => simp [Command.edit?, h.1]
  | nothing | help | list | exit | load | create | delete | clear | usage | unknown => rfl

/-- A command that does not replace a grammar carries out the operation on it that is confirmed, if
there is one, and else leaves it as it is. -/
theorem Effect.confirmed_cases (h : Effect disk store command answer)
    (hkeeps : replaces disk name command = false) :
    (confirmed? name command answer = none ∧ answer.store.find? name = store.find? name) ∨
      ∃ edit g next, confirmed? name command answer = some edit ∧ store.find? name = some g ∧
        g.apply edit = .ok next ∧ answer.store.find? name = some next := by
  cases h with
  | reported hreport hstore =>
    exact .inl ⟨if_neg (printed_ne_of_report hreport), by rw [hstore]⟩
  | shown hshows hstore =>
    exact .inl ⟨confirmed?_eq_none (edit?_eq_none_of_shows hshows), by rw [hstore]⟩
  | created other =>
    have hother : other ≠ name := by simpa [replaces] using hkeeps
    exact .inl ⟨confirmed?_eq_none rfl, by simp [hother.symm]⟩
  | @built other request g next edit hfound hedit happly =>
    -- Only an edit of this grammar is confirmed for it.
    by_cases hother : other = name
    · subst hother
      exact .inr ⟨edit, g, next, by simp [confirmed?, Command.edit?, hedit], hfound, happly,
        by simp⟩
    · exact .inl ⟨confirmed?_eq_none (if_neg hother), by simp [Ne.symm hother]⟩
  | @reset other =>
    have hother : other ≠ name := by simpa [replaces] using hkeeps
    exact .inl ⟨confirmed?_eq_none (if_neg hother), by simp [hother.symm]⟩
  | @deleted other =>
    have hother : other ≠ name := by simpa [replaces] using hkeeps
    exact .inl ⟨confirmed?_eq_none rfl, by simp [hother.symm]⟩
  | cleared => exact absurd hkeeps (by simp [replaces])
  | @loaded path loading hload =>
    have hnone : loading.grammars.find? name = none := by simpa [replaces, hload] using hkeeps
    refine .inl ⟨confirmed?_eq_none rfl, ?_⟩
    rw [find?_store_answerLoad hload, hnone, Option.none_or]

/-- The same for turns. An interrupt confirms nothing and changes nothing. -/
theorem Turn.confirmed_cases {turn : Turn}
    (h : respond turn.disk store turn.event = some turn.answer)
    (hkeeps : turn.replaces name = false) :
    (turn.confirmed? name = none ∧ turn.answer.store.find? name = store.find? name) ∨
      ∃ edit g next, turn.confirmed? name = some edit ∧ store.find? name = some g ∧
        g.apply edit = .ok next ∧ turn.answer.store.find? name = some next := by
  obtain ⟨disk, event, answer⟩ := turn
  cases event with
  | interrupted => exact .inl ⟨rfl, by rw [store_eq_of_respond_interrupted h]⟩
  | entered text => exact (effect_of_respond h).confirmed_cases hkeeps

/-! ## Sessions -/

variable {turns : List Turn}

/-- A grammar that no turn replaces is a replay of what was confirmed. -/
theorem Session.exists_replay {g : Grammar} (h : Session store turns last)
    (hkeeps : ∀ turn ∈ turns, turn.replaces name = false) (hfound : store.find? name = some g) :
    ∃ next, g.applyAll (confirmed name turns) = .ok next ∧ last.find? name = some next := by
  induction h generalizing g with
  | nil => exact ⟨g, rfl, hfound⟩
  | @cons store last turn turns hanswer hrest ih =>
    rw [List.forall_mem_cons] at hkeeps
    rcases Turn.confirmed_cases hanswer hkeeps.1 with
      ⟨hnone, hsame⟩ | ⟨edit, first, middle, hsome, hfirst, happly, hmiddle⟩
    · rw [confirmed, List.filterMap_cons_none hnone]
      exact ih hkeeps.2 (hsame.trans hfound)
    -- A confirmed edit applies to the grammar stored then, which the replay has reached.
    · obtain rfl := Option.some.inj (hfound.symm.trans hfirst)
      obtain ⟨next, hreplay, hlast⟩ := ih hkeeps.2 hmiddle
      rw [confirmed, List.filterMap_cons_some hsome]
      exact ⟨next, Grammar.applyAll_cons_eq_ok_iff.2 ⟨middle, happly, hreplay⟩, hlast⟩

/-- Where there is no grammar, none comes about. -/
theorem Session.find?_eq_none (h : Session store turns last)
    (hkeeps : ∀ turn ∈ turns, turn.replaces name = false) (hnone : store.find? name = none) :
    last.find? name = none := by
  induction h with
  | nil => exact hnone
  | @cons store last turn turns hanswer hrest ih =>
    rw [List.forall_mem_cons] at hkeeps
    rcases Turn.confirmed_cases hanswer hkeeps.1 with ⟨-, hsame⟩ | ⟨edit, g, next, -, hfound, -⟩
    · exact ih hkeeps.2 (hsame.trans hnone)
    · exact absurd (hfound.symm.trans hnone) (by simp)

/-- After a command that creates or resets a grammar, it is empty or not there. -/
theorem find?_store_of_creation {event : Event}
    (hcreation : event.command? = some (.create name) ∨
      event.command? = some (.ask name .reset))
    (h : respond disk store event = some answer) :
    answer.store.find? name = some Grammar.empty ∨ answer.store.find? name = none := by
  cases event with
  | interrupted => exact absurd hcreation (by simp [Event.command?])
  | entered text =>
    rw [respond] at h
    rcases hcreation with hcreate | hreset
    · rw [Option.some.inj hcreate] at h
      obtain rfl := Option.some.inj h
      exact .inl (by simp)
    · rw [Option.some.inj hreset, Console.answer] at h
      split at h
      -- Resetting a grammar that does not exist leaves it missing.
      next hnone => exact Option.some.inj h ▸ .inr hnone
      next g hfound =>
        obtain rfl := Option.some.inj h
        exact .inl (by simp [answerRequest, answerEdit, Grammar.apply])

/-! ## Verdicts -/

/-- A grammar judges a word from a start symbol when it is ready and the word is over its
terminals. -/
structure Judges (g : Grammar) (start : Char) (word : List Char) : Prop where
  start_eq : g.start = some start
  rules_ne_nil : g.rules ≠ []
  mem_terminals : ∀ c ∈ word, c ∈ g.terminals

/-- A word is judged by one start symbol only. -/
theorem Judges.start_unique {g : Grammar} {start other : Char} {word : List Char}
    (h : Judges g start word) (hother : Judges g other word) : start = other :=
  Option.some.inj (h.start_eq.symm.trans hother.start_eq)

/-- A line that asks whether a word is derived is answered by the grammar that it names. -/
theorem respond_cyk {text : String} {arguments : List String} {g : Grammar}
    (hcalls : Calls text "cyk" (name :: arguments)) (hfound : store.find? name = some g) :
    respond disk store (.entered text) =
      some (answerRequest store name g (.accepts (arguments.headD ""))) := by
  have hread : Command.read text = .ask name (.accepts (arguments.headD "")) := by
    rw [hcalls.read_eq]
    cases arguments <;> rfl
  rw [respond, hread, Console.answer, hfound]

/-- A question about a word that the grammar does not judge fails, and any other one has the verdict
of rewriting. -/
theorem answerRequest_accepts_cases {g : Grammar} (hg : g.WellFormed) (store : Store)
    (name word : String) :
    (∃ message, answerRequest store name g (.accepts word) = { printed := failure message, store } ∧
      ∀ start, ¬ Judges g start word.toList) ∨
    ∃ start, Judges g start word.toList ∧
      (g.Yields [start] word.toList ∧
          answerRequest store name g (.accepts word) = { printed := line "ACCEPTED", store } ∨
        ¬ g.Yields [start] word.toList ∧
          answerRequest store name g (.accepts word) = { printed := line "REJECTED", store }) := by
  rcases g.obstacle_or_chart_eq_ok word.toList with
    ⟨error, hobstacle, hchart⟩ | ⟨start, hrules, hstart, hword, -⟩
  · have hrefused : g.accepts word.toList = .error error := by
      rw [Grammar.accepts_eq, hchart]
      rfl
    refine .inl ⟨error.message, by rw [answerRequest, hrefused, answerQuery], ?_⟩
    -- A grammar that judges the word has a chart for it.
    intro start hjudges
    have hfilled := Grammar.chart_eq_ok hjudges.rules_ne_nil hjudges.start_eq hjudges.mem_terminals
    exact absurd (hfilled.symm.trans hchart) (by simp)
  · refine .inr ⟨start, ⟨hstart, hrules, hword⟩, ?_⟩
    have hverdict := Grammar.accepts_eq_ok hrules hstart hword
    -- The verdict of the chart is membership by rewriting.
    have hyields : ((g.bits start).chart word.toList).accepts = true ↔
        g.Yields [start] word.toList := by
      have hmem : start ∈ g.nonterminals := hg.start_mem start hstart
      rw [hg.accepts_chart_iff hstart hword, hg.yields_iff_derives hmem hword]
    cases haccepts : ((g.bits start).chart word.toList).accepts with
    | true =>
      refine .inl ⟨hyields.1 haccepts, ?_⟩
      rw [answerRequest, hverdict, haccepts, answerQuery, if_pos rfl]
    | false =>
      refine .inr ⟨mt hyields.2 (by simp [haccepts]), ?_⟩
      rw [answerRequest, hverdict, haccepts, answerQuery, if_neg Bool.false_ne_true]

/-- A failure is no verdict. -/
theorem failure_ne_line {verdict : String} (h : verdict ∈ ["ACCEPTED", "REJECTED"])
    (message : String) : failure message ≠ line verdict := by
  have hapart : ∀ verdict ∈ ["ACCEPTED", "REJECTED"],
      verdict.toList.head?.any (· ≠ 'E') = true := by
    decide +kernel
  obtain ⟨c, hfirst, hc⟩ := (Option.any_eq_true _ _).1 (hapart verdict h)
  intro heq
  have hfailure : (failure message).toList.head? = some 'E' := head?_line (by decide) message
  rw [heq, line, head?_append_text hfirst] at hfailure
  exact of_decide_eq_true hc (Option.some.inj hfailure)

/-- The two verdicts are told apart by what is printed. -/
theorem accepted_ne_rejected : line "ACCEPTED" ≠ line "REJECTED" := by
  decide

/-- Since a grammar was created or reset, it is what the operations make of an empty grammar that
were confirmed since, provided that nothing else was put in its place. A question about a word is
answered by what rewriting does in this replay: the word is accepted when the start symbol yields
it, it is rejected when the start symbol does not, and the question fails when the replay does not
judge the word. -/
theorem confirmed_determine_verdicts {before since : List Turn} {creation : Turn}
    (h : Session store (before ++ creation :: since) last)
    (hcreation : creation.event.command? = some (.create name) ∨
      creation.event.command? = some (.ask name .reset))
    (hkeeps : ∀ turn ∈ since, turn.replaces name = false) (hstored : last.find? name ≠ none) :
    ∃ g, Grammar.empty.applyAll (confirmed name since) = .ok g ∧ last.find? name = some g ∧
      ∀ disk text arguments, Calls text "cyk" (name :: arguments) →
        let word := (arguments.headD "").toList
        ∃ printed, respond disk last (.entered text) = some { printed, store := last } ∧
          (printed = line "ACCEPTED" ↔ ∃ start, Judges g start word ∧ g.Yields [start] word) ∧
          (printed = line "REJECTED" ↔ ∃ start, Judges g start word ∧ ¬ g.Yields [start] word) ∧
          ((¬ ∃ start, Judges g start word) → ∃ message, printed = failure message) := by
  obtain ⟨middle, -, hsession⟩ := h.exists_cut
  obtain ⟨hanswer, hsince⟩ := hsession.uncons
  have hempty : creation.answer.store.find? name = some Grammar.empty := by
    rcases find?_store_of_creation hcreation hanswer with hempty | hnone
    · exact hempty
    -- What was not there to be reset is not there in the end.
    · exact absurd (hsince.find?_eq_none hkeeps hnone) hstored
  obtain ⟨g, hreplay, hfound⟩ := hsince.exists_replay hkeeps hempty
  have hg : g.WellFormed := Grammar.wellFormed_empty.applyAll hreplay
  refine ⟨g, hreplay, hfound, ?_⟩
  intro disk text arguments hcalls word
  rw [respond_cyk hcalls hfound]
  rcases answerRequest_accepts_cases hg last name (arguments.headD "") with
    ⟨message, hfailure, hnot⟩ | ⟨start, hjudges, ⟨hyields, haccepted⟩ | ⟨hyields, hrejected⟩⟩
  · refine ⟨failure message, by rw [hfailure], ?_, ?_, fun _ => ⟨message, rfl⟩⟩
    · exact iff_of_false (failure_ne_line (by decide) message)
        fun ⟨start, hjudges, _⟩ => hnot start hjudges
    · exact iff_of_false (failure_ne_line (by decide) message)
        fun ⟨start, hjudges, _⟩ => hnot start hjudges
  · refine ⟨line "ACCEPTED", by rw [haccepted], iff_of_true rfl ⟨start, hjudges, hyields⟩, ?_,
      fun hnone => absurd ⟨start, hjudges⟩ hnone⟩
    refine iff_of_false accepted_ne_rejected ?_
    rintro ⟨other, hother, hnot⟩
    exact hnot (hjudges.start_unique hother ▸ hyields)
  · refine ⟨line "REJECTED", by rw [hrejected], ?_, iff_of_true rfl ⟨start, hjudges, hyields⟩,
      fun hnone => absurd ⟨start, hjudges⟩ hnone⟩
    refine iff_of_false accepted_ne_rejected.symm ?_
    rintro ⟨other, hother, hyes⟩
    exact hyields (hjudges.start_unique hother ▸ hyes)

/-- In a session that also creates another grammar and meets an error, the three operations that are
confirmed tell that the word is accepted. -/
theorem confirmed_determine_verdicts_interleaved :
    let nowhere : Disk := fun path => .error (.missing path)
    let turn (text printed : String) (entries : List (String × Grammar)) : Turn :=
      ⟨nowhere, .entered text, { printed := line printed, store := ⟨entries⟩ }⟩
    let upper : Grammar := { nonterminals := ['S'] }
    let both : Grammar := { upper with terminals := ['a'] }
    let ruled : Grammar := { both with rules := [⟨'S', .terminal 'a'⟩] }
    let ready : Grammar := { ruled with start := some 'S' }
    let since : List Turn :=
      [turn "nt g S" "OK" [("g", upper)],
        turn "nt g s" "Error: Non-terminal must be one uppercase letter: 's'" [("g", upper)],
        turn "t g a" "OK" [("g", both)],
        turn "NEW h" "Created: h" [("g", both), ("h", Grammar.empty)],
        turn "prod g S a" "OK" [("g", ruled), ("h", Grammar.empty)],
        turn "start g S" "OK" [("g", ready), ("h", Grammar.empty)]]
    let last : Store := ⟨[("g", ready), ("h", Grammar.empty)]⟩
    Session Register.empty (turn "new g" "Created: g" [("g", Grammar.empty)] :: since) last ∧
      respond nowhere last (.entered "cyk g a") =
        some { printed := line "ACCEPTED", store := last } ∧
      ready.Yields ['S'] ['a'] := by
  intro nowhere turn upper both ruled ready since last
  have hsession : Session Register.empty
      ([] ++ turn "new g" "Created: g" [("g", Grammar.empty)] :: since) last :=
    .cons (by decide +kernel) <| .cons (by decide +kernel) <| .cons (by decide +kernel) <|
      .cons (by decide +kernel) <| .cons (by decide +kernel) <| .cons (by decide +kernel) <|
      .cons (by decide +kernel) <| .nil last
  have hanswer : respond nowhere last (.entered "cyk g a") =
      some { printed := line "ACCEPTED", store := last } := by
    decide +kernel
  refine ⟨hsession, hanswer, ?_⟩
  have hkeeps : ∀ turn ∈ since, turn.replaces "g" = false := by decide +kernel
  have hcreation : (Event.entered "new g").command? = some (.create "g") := by decide +kernel
  obtain ⟨g, -, hfound, hverdicts⟩ :=
    confirmed_determine_verdicts hsession (.inl hcreation) hkeeps (by decide +kernel)
  obtain ⟨printed, hprinted, haccepted, -⟩ := hverdicts nowhere "cyk g a" ["a"]
    ⟨['c', 'y', 'k'], by decide +kernel, by decide +kernel⟩
  obtain rfl : ready = g := Option.some.inj hfound
  have hsame : printed = line "ACCEPTED" :=
    congrArg Answer.printed (Option.some.inj (hprinted.symm.trans hanswer))
  obtain ⟨start, hjudges, hyields⟩ := haccepted.1 hsame
  obtain rfl : 'S' = start := Option.some.inj hjudges.start_eq
  exact hyields

end CykChart.Console
