import CykChart.Proofs.Effects

/-!
# Sessions

A session goes through turns, in each of which an event is answered. Files may change from one turn
to the next, so every turn has a disk of its own. A session goes on until a line calls for its end
or the input ends, and then prints its farewell.

## Main definitions

- `Console.Turn`: an event with its answer.
- `Console.Session`: the turns by which a session gets from one store to another.
- `Console.Event.Exits`: the events that end a session.
- `Console.readers`, `Console.writers`: commands by what they may change.

## Main results

- `Console.respond_eq_none_iff`: the events that are not answered are those that end a session.
- `Console.exists_session`: the output of a session, turn by turn.
- `Console.reports_harmless_commands_framed`: what each command may change.
-/

namespace CykChart.Console

variable {disk : Disk} {store last : Store} {event : Event} {answer : Answer} {text : String}

/-! ## Turns -/

/-- An event with its answer, and with the files as they are when it is answered. -/
structure Turn where
  /-- The files. -/
  disk : Disk
  /-- What happens at the prompt. -/
  event : Event
  /-- The answer. -/
  answer : Answer

/-- The output of a turn, from its prompt on. -/
def Turn.chunk (turn : Turn) : Chunk :=
  { printed := prompt ++ turn.answer.printed, drawn := turn.answer.drawn }

/-- A session gets from one store to another by turns. -/
inductive Session : Store → List Turn → Store → Prop where
  | nil (store : Store) : Session store [] store
  | cons {store last : Store} {turn : Turn} {turns : List Turn}
      (hanswer : respond turn.disk store turn.event = some turn.answer)
      (hrest : Session turn.answer.store turns last) : Session store (turn :: turns) last

/-- A session begins with its first turn and goes on from the store that this one leaves. -/
theorem Session.uncons {turn : Turn} {turns : List Turn} (h : Session store (turn :: turns) last) :
    respond turn.disk store turn.event = some turn.answer ∧
      Session turn.answer.store turns last := by
  cases h with
  | cons hanswer hrest => exact ⟨hanswer, hrest⟩

/-- A session is cut between any two turns, at the store that stands between them. -/
theorem Session.exists_cut {first second : List Turn} (h : Session store (first ++ second) last) :
    ∃ middle, Session store first middle ∧ Session middle second last := by
  induction first generalizing store with
  | nil => exact ⟨store, .nil store, h⟩
  | cons turn first ih =>
    obtain ⟨hanswer, hrest⟩ := h.uncons
    obtain ⟨middle, hfirst, hsecond⟩ := ih hrest
    exact ⟨middle, .cons hanswer hfirst, hsecond⟩

/-! ## The end of a session -/

/-- An event ends the session when it is a line that calls for its end. -/
def Event.Exits (event : Event) : Prop :=
  ∃ text keyword arguments, event = .entered text ∧ keyword ∈ ["exit", "quit"] ∧
    Calls text keyword arguments

/-- Only the command to end the session has no answer. -/
theorem answer_eq_none_iff {command : Command} :
    Console.answer disk store command = none ↔ command = .exit := by
  cases command with
  | exit => simp [Console.answer]
  | ask name request =>
    rw [Console.answer]
    split <;> simp
  | delete name =>
    rw [Console.answer]
    split <;> simp
  | nothing | help | load | list | create | clear | usage | unknown => simp [Console.answer]

/-- The events that are not answered are those that end the session. -/
theorem respond_eq_none_iff : respond disk store event = none ↔ event.Exits := by
  cases event with
  | interrupted => simp [respond, Event.Exits]
  | entered text =>
    rw [respond, answer_eq_none_iff, read_eq_iff (by simp)]
    simp only [ofWords_eq_exit_iff]
    constructor
    · rintro ⟨keyword, arguments, hcalls, hkeyword⟩
      exact ⟨text, keyword, arguments, rfl, hkeyword, hcalls⟩
    · rintro ⟨_, keyword, arguments, hentered, hkeyword, hcalls⟩
      obtain rfl := Event.entered.inj hentered
      exact ⟨keyword, arguments, hcalls, hkeyword⟩

/-- The output of a session is that of its turns and the farewell. There is a turn for each event
up to the first one that ends the session. -/
theorem exists_session (disk : Disk) (store : Store) (events : List Event) :
    ∃ turns rest last, Session store turns last ∧ events = turns.map Turn.event ++ rest ∧
      (∀ turn ∈ turns, turn.disk = disk ∧ ¬ turn.event.Exits) ∧
      (∀ event, rest.head? = some event → event.Exits) ∧
      chunks disk store events = turns.map Turn.chunk ++ [{ printed := prompt ++ farewell }] := by
  induction events generalizing store with
  | nil => exact ⟨[], [], store, .nil store, rfl, by simp, by simp, rfl⟩
  | cons event events ih =>
    rw [chunks]
    cases hrespond : respond disk store event with
    | none =>
      -- The session stops here, and nothing of the rest is read.
      refine ⟨[], event :: events, store, .nil store, rfl, by simp, ?_, rfl⟩
      intro first hfirst
      exact Option.some.inj hfirst ▸ respond_eq_none_iff.1 hrespond
    | some answer =>
      obtain ⟨turns, rest, last, hsession, hevents, hturns, hrest, hchunks⟩ := ih answer.store
      have hgoes : ¬ event.Exits := by
        intro hexits
        exact absurd (hrespond.symm.trans (respond_eq_none_iff.2 hexits)) (by simp)
      refine ⟨⟨disk, event, answer⟩ :: turns, rest, last, .cons hrespond hsession, ?_, ?_, hrest,
        ?_⟩
      · rw [hevents]
        rfl
      · exact List.forall_mem_cons.2 ⟨⟨rfl, hgoes⟩, hturns⟩
      · dsimp only
        rw [hchunks]
        rfl

/-! ## Commands by what they may change -/

/-- The commands that change no grammar. -/
def readers : List String :=
  ["help", "list", "show_grammar", "productions", "grammar", "cyk", "table", "graph"]

/-- The commands that may change the grammar that they name, and no other. -/
def writers : List String :=
  ["new", "nt", "t", "start", "prod", "reset", "delete"]

/-- An interruption changes no grammar. -/
theorem store_eq_of_respond_interrupted (h : respond disk store .interrupted = some answer) :
    answer.store = store := by
  rw [← Option.some.inj h]

/-- The answer to a line has the effect of the command on it. -/
theorem effect_of_respond (h : respond disk store (.entered text) = some answer) :
    Effect disk store (Command.read text) answer :=
  effect_of_answer h

/-- A command that changes no grammar shows something, unless it lacks an argument. -/
theorem shows_or_usage_of_mem_readers {keyword : String} (h : keyword ∈ readers)
    (arguments : List String) :
    (Command.ofWords keyword arguments).Shows ∨
      ∃ synopsis, Command.ofWords keyword arguments = .usage synopsis := by
  simp only [readers, List.mem_cons, List.not_mem_nil, or_false] at h
  rcases h with rfl | rfl | rfl | rfl | rfl | rfl | rfl | rfl
  -- The first two take no arguments; the others ask something of a grammar.
  · exact .inl trivial
  · exact .inl trivial
  all_goals
    rcases arguments with _ | ⟨first, _ | ⟨second, rest⟩⟩ <;>
      first | exact .inr ⟨_, rfl⟩ | exact .inl ⟨rfl, nofun⟩

/-- The commands that change one grammar are among those that name a grammar. -/
theorem exists_needed_of_mem_writers {keyword : String} (h : keyword ∈ writers) :
    ∃ needed, (keyword, needed) ∈ grammarCommands := by
  have hwriters : ∀ keyword ∈ writers, keyword ∈ grammarCommands.map Prod.fst := by decide
  obtain ⟨⟨_, needed⟩, hcommand, rfl⟩ := List.mem_map.1 (hwriters keyword h)
  exact ⟨needed, hcommand⟩

/-- A command with too few words changes no grammar. -/
theorem store_eq_of_respond_usage {synopsis : String} (hread : Command.read text = .usage synopsis)
    (h : respond disk store (.entered text) = some answer) : answer.store = store := by
  have heffect := effect_of_respond h
  rw [hread] at heffect
  exact heffect.store_eq_of_usage

/-- A command that only reads changes no grammar. -/
theorem store_eq_of_mem_readers {keyword : String} {arguments : List String}
    (hcalls : Calls text keyword arguments) (hkeyword : keyword ∈ readers)
    (h : respond disk store (.entered text) = some answer) : answer.store = store := by
  rcases shows_or_usage_of_mem_readers hkeyword arguments with hshows | ⟨synopsis, husage⟩
  · rw [← hcalls.read_eq] at hshows
    exact (effect_of_respond h).store_eq_of_shows hshows
  · exact store_eq_of_respond_usage (hcalls.read_eq.trans husage) h

/-- A command that changes one grammar leaves all others, and their order, as they are. -/
theorem erase_store_eq_of_mem_writers {keyword name : String} {rest : List String}
    (hcalls : Calls text keyword (name :: rest)) (hkeyword : keyword ∈ writers)
    (h : respond disk store (.entered text) = some answer) :
    answer.store.erase name = store.erase name := by
  obtain ⟨needed, hcommand⟩ := exists_needed_of_mem_writers hkeyword
  rcases ofWords_cases hcommand (name :: rest) with
    ⟨other, arguments, hwords, -, hsubject⟩ | ⟨-, synopsis, husage⟩
  · obtain ⟨rfl, rfl⟩ := List.cons.inj hwords
    rw [← hcalls.read_eq] at hsubject
    exact (effect_of_respond h).erase_store_eq hsubject
  · rw [store_eq_of_respond_usage (hcalls.read_eq.trans husage) h]

/-- A command that would change one grammar changes none when no grammar is named. -/
theorem store_eq_of_mem_writers {keyword : String} (hcalls : Calls text keyword [])
    (hkeyword : keyword ∈ writers) (h : respond disk store (.entered text) = some answer) :
    answer.store = store := by
  obtain ⟨needed, hcommand⟩ := exists_needed_of_mem_writers hkeyword
  rcases ofWords_cases hcommand [] with ⟨_, _, hwords, -⟩ | ⟨-, synopsis, husage⟩
  · exact absurd hwords (by simp)
  · exact store_eq_of_respond_usage (hcalls.read_eq.trans husage) h

/-- A line that calls for a file to be loaded is answered by loading it. -/
theorem respond_load {path : String} {rest : List String}
    (hcalls : Calls text "load" (path :: rest)) :
    respond disk store (.entered text) = some (answerLoad disk store path) := by
  rw [respond, hcalls.read_eq]
  rfl

/-- What is reported has no effect, every command is confined to what it is about, and nothing but a
line that calls for it or the end of the input ends a session. In detail: an answer that begins as a
report, or prints nothing, leaves the grammars as they are. So do the commands that only show
something. The commands that may change a grammar keep all others and their order. Loading a file
files the grammars that were read from it, and no other; it changes nothing when the file cannot be
read or holds none. A session has a turn for each event up to the first that ends it, each with an
output of its own, and prints the farewell last. -/
theorem reports_harmless_commands_framed (disk : Disk) :
    (∀ store event answer, respond disk store event = some answer →
      (∃ report ∈ reports, report.toList <+: answer.printed.toList) ∨ answer.printed = "" →
      answer.store = store) ∧
    (∀ store text keyword arguments answer, Calls text keyword arguments →
      respond disk store (.entered text) = some answer →
      (keyword ∈ readers → answer.store = store) ∧
      (keyword ∈ writers →
        (arguments = [] → answer.store = store) ∧
        ∀ name rest, arguments = name :: rest →
          answer.store.erase name = store.erase name ∧
            ∀ other, other ≠ name → answer.store.find? other = store.find? other) ∧
      (keyword = "load" →
        (arguments = [] → answer.store = store) ∧
        ∀ path rest, arguments = path :: rest →
          (∀ error, Collection.load disk path = .error error → answer.store = store) ∧
          ∀ loading, Collection.load disk path = .ok loading →
            (loading.grammars.names = [] → answer.store = store) ∧
              ∀ name, answer.store.find? name =
                (loading.grammars.find? name).or (store.find? name))) ∧
    ∀ events, ∃ turns rest last, Session Register.empty turns last ∧
      events = turns.map Turn.event ++ rest ∧
      (∀ turn ∈ turns, turn.disk = disk ∧ ¬ turn.event.Exits) ∧
      (∀ event, rest.head? = some event → event.Exits) ∧
      transcript disk events =
        { printed := banner } :: turns.map Turn.chunk
          ++ [{ printed := prompt ++ "Goodbye!\n" }] := by
  refine ⟨?_, ?_, ?_⟩
  · intro store event answer h hreport
    cases event with
    | interrupted => exact store_eq_of_respond_interrupted h
    | entered text => exact (effect_of_respond h).store_eq_of_report hreport
  · intro store text keyword arguments answer hcalls h
    refine ⟨fun hkeyword => store_eq_of_mem_readers hcalls hkeyword h, ?_, ?_⟩
    · intro hkeyword
      refine ⟨?_, ?_⟩
      · rintro rfl
        exact store_eq_of_mem_writers hcalls hkeyword h
      · rintro name rest rfl
        -- A writer touches one entry, so erasing that entry shows the rest unchanged.
        have herase := erase_store_eq_of_mem_writers hcalls hkeyword h
        exact ⟨herase, fun other hother => Register.find?_eq_of_erase_eq herase hother⟩
    · rintro rfl
      refine ⟨?_, ?_⟩
      · rintro rfl
        exact store_eq_of_respond_usage hcalls.read_eq h
      · rintro path rest rfl
        obtain rfl := Option.some.inj (h.symm.trans (respond_load hcalls))
        refine ⟨?_, ?_⟩
        · intro error hload
          rw [answerLoad, hload]
        · intro loading hload
          -- A file without grammars has nothing to merge.
          refine ⟨fun hnone => ?_, find?_store_answerLoad hload store⟩
          rw [answerLoad, hload]
          exact Register.merge_eq_self hnone store
  · intro events
    obtain ⟨turns, rest, last, hsession, hevents, hturns, hrest, hchunks⟩ :=
      exists_session disk Register.empty events
    refine ⟨turns, rest, last, hsession, hevents, hturns, hrest, ?_⟩
    rw [transcript, hchunks]
    rfl

end CykChart.Console
