import CykChart.Proofs.Sessions

/-!
# Grammars of a session do not interfere

Two grammars of one session have nothing to do with each other. When commands to other grammars are
left out of a session, the rest of it reads the same to a user of one grammar: what is printed and
drawn for this grammar, and what comes of it. Only the list of all grammars may be another one, and
the answers to other grammars.

The two sessions run side by side. Their grammars may drift apart, but under the one name they
agree, and no command can tell them apart by another name except those that are about it.

## Main definitions

- `Console.Event.Concerns`: the events whose answers a user of one grammar relies on.
- `Console.Thinned`: a session without some of the commands to other grammars.
- `Console.SeenAlike`: turns that are alike to a user of one grammar.

## Main results

- `Console.exists_answer_agreeing`: agreement of two stores is kept by every command.
- `Console.Session.exists_thinned`: sessions from stores that agree are alike.
- `Console.isolated_from_other_grammars`: the statement for whole sessions.
-/

namespace CykChart.Console

variable {disk : Disk} {store first second last : Store} {command : Command} {answer : Answer}
  {name : String}

/-! ## What concerns a grammar -/

/-- A command concerns a grammar unless it is for another one or lists all grammars. -/
def Command.Concerns (name : String) (command : Command) : Prop :=
  command ≠ .list ∧ ∀ other, command.subject? = some other → other = name

/-- An event concerns a grammar unless it is a complete command to another one or lists all
grammars. -/
def Event.Concerns (name : String) (event : Event) : Prop :=
  ∀ text, event = .entered text →
    (∀ arguments, ¬ Calls text "list" arguments) ∧ ∀ other, Addresses text other → other = name

/-- The list of grammars is asked for by one word. -/
theorem read_eq_list_iff {text : String} :
    Command.read text = .list ↔ ∃ arguments, Calls text "list" arguments := by
  rw [read_eq_iff (by simp)]
  simp only [ofWords_eq_list_iff]
  constructor
  · rintro ⟨_, arguments, hcalls, rfl⟩
    exact ⟨arguments, hcalls⟩
  · rintro ⟨arguments, hcalls⟩
    exact ⟨_, arguments, hcalls, rfl⟩

/-- A line concerns a grammar when the command on it does. -/
theorem concerns_entered_iff {text : String} :
    (Event.entered text).Concerns name ↔ (Command.read text).Concerns name := by
  constructor
  · intro h
    obtain ⟨hlist, hsubject⟩ := h text rfl
    refine ⟨?_, fun other hother => hsubject other (subject?_read_eq_some_iff.1 hother)⟩
    intro hread
    obtain ⟨arguments, hcalls⟩ := read_eq_list_iff.1 hread
    exact hlist arguments hcalls
  · rintro ⟨hlist, hsubject⟩ _ hentered
    obtain rfl := Event.entered.inj hentered
    refine ⟨?_, fun other hother => hsubject other (subject?_read_eq_some_iff.2 hother)⟩
    intro arguments hcalls
    exact hlist (read_eq_list_iff.2 ⟨arguments, hcalls⟩)

/-! ## Stores that agree -/

/-- Two answers agree about a grammar: it comes out the same, and if the command concerns it then
what is printed and drawn is the same. -/
structure Agreeing (name : String) (command : Command) (answer other : Answer) : Prop where
  find?_eq : other.store.find? name = answer.store.find? name
  printed_eq : command.Concerns name → other.printed = answer.printed
  drawn_eq : command.Concerns name → other.drawn = answer.drawn

/-- A command to another grammar leaves this one as it is. -/
theorem exists_answer_agreeing_of_subject (hagree : second.find? name = first.find? name)
    {other : String} (hsubject : command.subject? = some other) (hother : other ≠ name)
    (h : Console.answer disk first command = some answer) :
    ∃ again, Console.answer disk second command = some again ∧
      Agreeing name command answer again := by
  obtain ⟨again, hagain⟩ : ∃ again, Console.answer disk second command = some again := by
    rw [← Option.ne_none_iff_exists', Ne, answer_eq_none_iff]
    rintro rfl
    exact absurd hsubject (by simp [Command.subject?])
  -- The command is about another grammar, so what it prints need not agree.
  have hforeign : ¬ command.Concerns name := fun hconcerns => hother (hconcerns.2 other hsubject)
  refine ⟨again, hagain, ?_, fun hconcerns => absurd hconcerns hforeign,
    fun hconcerns => absurd hconcerns hforeign⟩
  rw [(effect_of_answer hagain).find?_store_eq hsubject hother,
    (effect_of_answer h).find?_store_eq hsubject hother, hagree]

/-- The answer of a grammar to a request does not depend on the other grammars. -/
theorem answerRequest_agreeing (hagree : second.find? name = first.find? name) (g : Grammar)
    (request : Request) :
    Agreeing name (.ask name request) (answerRequest first name g request)
      (answerRequest second name g request) := by
  cases request with
  | declareNonterminal | declareTerminal | setStart | addRule | reset =>
    simp only [answerRequest, answerEdit]
    split
    · exact ⟨by simp, fun _ => rfl, fun _ => rfl⟩
    · exact ⟨hagree, fun _ => rfl, fun _ => rfl⟩
  -- Queries leave the store alone, and answer from the one grammar.
  | summary | productions => exact ⟨hagree, fun _ => rfl, fun _ => rfl⟩
  | productionsOf head =>
    simp only [answerRequest]
    split <;> exact ⟨hagree, fun _ => rfl, fun _ => rfl⟩
  | accepts word | table word =>
    simp only [answerRequest, answerQuery]
    split <;> exact ⟨hagree, fun _ => rfl, fun _ => rfl⟩
  | draw word =>
    simp only [answerRequest, answerDrawing]
    split <;> exact ⟨hagree, fun _ => rfl, fun _ => rfl⟩

/-- Loading a file puts the same grammars into both stores. -/
theorem answerLoad_agreeing (hagree : second.find? name = first.find? name) (path : String) :
    Agreeing name (.load path) (answerLoad disk first path) (answerLoad disk second path) := by
  cases hload : Collection.load disk path with
  | error error =>
    simp only [answerLoad, hload]
    exact ⟨hagree, fun _ => rfl, fun _ => rfl⟩
  | ok loading =>
    refine ⟨?_, fun _ => ?_, fun _ => ?_⟩
    · rw [find?_store_answerLoad hload, find?_store_answerLoad hload, hagree]
    · simp only [answerLoad, hload]
    · simp only [answerLoad, hload]

/-- Two stores that agree about a grammar answer every command, and still agree about it after. -/
theorem exists_answer_agreeing (hagree : second.find? name = first.find? name)
    (h : Console.answer disk first command = some answer) :
    ∃ again, Console.answer disk second command = some again ∧
      Agreeing name command answer again := by
  -- A command to another grammar is settled by what it leaves alone. What remains is about this
  -- grammar or about none.
  by_cases hforeign : ∃ other, command.subject? = some other ∧ other ≠ name
  · obtain ⟨other, hsubject, hother⟩ := hforeign
    exact exists_answer_agreeing_of_subject hagree hsubject hother h
  have hsubject : ∀ other, command.subject? = some other → other = name := by
    intro other hother
    by_contra hne
    exact hforeign ⟨other, hother, hne⟩
  cases command with
  | exit => exact absurd h (by simp [Console.answer])
  | nothing | help | usage | unknown =>
    obtain rfl := Option.some.inj h
    exact ⟨_, rfl, hagree, fun _ => rfl, fun _ => rfl⟩
  | list =>
    obtain rfl := Option.some.inj h
    exact ⟨_, rfl, hagree, fun hconcerns => absurd rfl hconcerns.1,
      fun hconcerns => absurd rfl hconcerns.1⟩
  | clear =>
    obtain rfl := Option.some.inj h
    exact ⟨_, rfl, rfl, fun _ => rfl, fun _ => rfl⟩
  | create other =>
    obtain rfl := hsubject other rfl
    obtain rfl := Option.some.inj h
    exact ⟨_, rfl, by simp, fun _ => rfl, fun _ => rfl⟩
  | load path =>
    obtain rfl := Option.some.inj h
    exact ⟨_, rfl, answerLoad_agreeing hagree path⟩
  | delete other =>
    obtain rfl := hsubject other rfl
    rw [Console.answer] at h ⊢
    rw [hagree]
    split at h
    next =>
      obtain rfl := Option.some.inj h
      exact ⟨_, rfl, hagree, fun _ => rfl, fun _ => rfl⟩
    next =>
      obtain rfl := Option.some.inj h
      exact ⟨_, rfl, by simp, fun _ => rfl, fun _ => rfl⟩
  | ask other request =>
    obtain rfl := hsubject other rfl
    rw [Console.answer] at h ⊢
    rw [hagree]
    split at h
    next =>
      obtain rfl := Option.some.inj h
      exact ⟨_, rfl, hagree, fun _ => rfl, fun _ => rfl⟩
    next g hfound =>
      obtain rfl := Option.some.inj h
      exact ⟨_, rfl, answerRequest_agreeing hagree g request⟩

/-! ## Sessions side by side -/

variable {turns kept : List Turn}

/-- A session is thinned by leaving out complete commands to other grammars, any number of them. -/
inductive Thinned (name : String) : List Turn → List Turn → Prop where
  | nil : Thinned name [] []
  | keep (turn : Turn) {turns kept : List Turn} (hrest : Thinned name turns kept) :
      Thinned name (turn :: turns) (turn :: kept)
  | leave {turn : Turn} {turns kept : List Turn} {text other : String}
      (hevent : turn.event = .entered text) (haddresses : Addresses text other)
      (hother : other ≠ name) (hrest : Thinned name turns kept) :
      Thinned name (turn :: turns) kept

/-- Two turns are alike to a user of a grammar: the same happens at the prompt, with the same files,
and the output is the same if the event concerns the grammar. -/
structure SeenAlike (name : String) (turn again : Turn) : Prop where
  disk_eq : again.disk = turn.disk
  event_eq : again.event = turn.event
  chunk_eq : turn.event.Concerns name → again.chunk = turn.chunk

/-- Turns that are seen alike have the same events. -/
theorem map_event_eq_of_seenAlike {turns again : List Turn}
    (h : List.Forall₂ (SeenAlike name) turns again) :
    again.map Turn.event = turns.map Turn.event := by
  induction h with
  | nil => rfl
  | cons halike _ ih => rw [List.map_cons, List.map_cons, halike.event_eq, ih]

/-- Two stores that agree about a grammar answer every event so that they still agree about it, and
alike to a user of this grammar. -/
theorem exists_turn_seenAlike {turn : Turn} (hagree : second.find? name = first.find? name)
    (h : respond turn.disk first turn.event = some turn.answer) :
    ∃ again, respond again.disk second again.event = some again.answer ∧
      SeenAlike name turn again ∧
      again.answer.store.find? name = turn.answer.store.find? name := by
  obtain ⟨disk, event, answer⟩ := turn
  cases event with
  | interrupted =>
    obtain rfl := Option.some.inj h
    exact ⟨⟨disk, .interrupted, _⟩, rfl, ⟨rfl, rfl, fun _ => rfl⟩, hagree⟩
  | entered text =>
    -- The same command answers in the second store, and agrees where it concerns the grammar.
    obtain ⟨again, hagain, hagreeing⟩ := exists_answer_agreeing hagree h
    refine ⟨⟨disk, .entered text, again⟩, hagain, ⟨rfl, rfl, fun hconcerns => ?_⟩,
      hagreeing.find?_eq⟩
    rw [concerns_entered_iff] at hconcerns
    simp only [Turn.chunk, hagreeing.printed_eq hconcerns, hagreeing.drawn_eq hconcerns]

/-- A command to another grammar leaves the one with the name as it is. -/
theorem store_eq_of_leave {turn : Turn} {text other : String}
    (h : respond turn.disk store turn.event = some turn.answer)
    (hevent : turn.event = .entered text) (haddresses : Addresses text other)
    (hother : other ≠ name) : turn.answer.store.find? name = store.find? name := by
  rw [hevent] at h
  exact (effect_of_respond h).find?_store_eq (subject?_read_eq_some_iff.2 haddresses) hother

/-- Two stores that agree about a grammar go through a session alike, also when the second leaves
out commands to other grammars. -/
theorem Session.exists_thinned (h : Session first turns last) (hthin : Thinned name turns kept)
    (hagree : second.find? name = first.find? name) :
    ∃ again last', Session second again last' ∧ List.Forall₂ (SeenAlike name) kept again ∧
      last'.find? name = last.find? name := by
  -- By induction on what is left out. A command that is left out does not disturb the agreement,
  -- and one that is kept is answered by both.
  induction hthin generalizing first second with
  | nil =>
    cases h
    exact ⟨[], second, .nil second, .nil, hagree⟩
  | keep turn hrest ih =>
    obtain ⟨hanswer, hsession⟩ := h.uncons
    obtain ⟨again, hagain, halike, hafter⟩ := exists_turn_seenAlike hagree hanswer
    obtain ⟨others, last', hothers, halikes, hlast⟩ := ih hsession hafter
    exact ⟨again :: others, last', .cons hagain hothers, .cons halike halikes, hlast⟩
  | leave hevent haddresses hother hrest ih =>
    obtain ⟨hanswer, hsession⟩ := h.uncons
    exact ih hsession (hagree.trans (store_eq_of_leave hanswer hevent haddresses hother).symm)

/-- Complete commands to other grammars can be left out of a session, any number of them. The turns
that are left follow each other as before and are alike to a user of this grammar: every event has
the same output, but for commands to other grammars and the list of all grammars. In the end the
grammar is the same, or there is none in both sessions. -/
theorem isolated_from_other_grammars (h : Session Register.empty turns last)
    (hthin : Thinned name turns kept) :
    ∃ again last', Session Register.empty again last' ∧
      List.Forall₂ (SeenAlike name) kept again ∧ last'.find? name = last.find? name :=
  h.exists_thinned hthin rfl

/-- Without the commands to `h`, of which one creates it and another fails, the question to `g` gets
the same answer. -/
theorem isolated_from_other_grammars_question :
    let nowhere : Disk := fun path => .error (.missing path)
    let turn (text printed : String) (entries : List (String × Grammar)) : Turn :=
      ⟨nowhere, .entered text, { printed := line printed, store := ⟨entries⟩ }⟩
    let upper : Grammar := { nonterminals := ['S'] }
    let question : Turn :=
      turn "cyk g" "Error: Grammar has no productions" [("g", upper), ("h", Grammar.empty)]
    let turns : List Turn :=
      [turn "new g" "Created: g" [("g", Grammar.empty)],
        turn "new h" "Created: h" [("g", Grammar.empty), ("h", Grammar.empty)],
        turn "nt g S" "OK" [("g", upper), ("h", Grammar.empty)],
        turn "t h A" "Error: Terminal must be one lowercase letter: 'A'"
          [("g", upper), ("h", Grammar.empty)],
        question]
    let last : Store := ⟨[("g", upper), ("h", Grammar.empty)]⟩
    Session Register.empty turns last ∧
      ∃ again last', Session Register.empty again last' ∧
        again.map Turn.event = [.entered "new g", .entered "nt g S", .entered "cyk g"] ∧
        again.getLast?.map Turn.chunk = some question.chunk ∧ last'.find? "g" = some upper := by
  intro nowhere turn upper question turns last
  have hsession : Session Register.empty turns last :=
    .cons (by decide +kernel) <| .cons (by decide +kernel) <| .cons (by decide +kernel) <|
      .cons (by decide +kernel) <| .cons (by decide +kernel) <| .nil last
  have hnew : Addresses "new h" "h" := subject?_read_eq_some_iff.1 (by decide +kernel)
  have hother : Addresses "t h A" "h" := subject?_read_eq_some_iff.1 (by decide +kernel)
  have hthin : Thinned "g" turns
      [turn "new g" "Created: g" [("g", Grammar.empty)],
        turn "nt g S" "OK" [("g", upper), ("h", Grammar.empty)], question] :=
    .keep _ <| .leave rfl hnew (by decide) <| .keep _ <| .leave rfl hother (by decide) <|
      .keep _ .nil
  have hconcerns : (Event.entered "cyk g").Concerns "g" := by
    have hread : Command.read "cyk g" = .ask "g" (.accepts "") := by decide +kernel
    rw [concerns_entered_iff, hread]
    exact ⟨nofun, fun other hsubject => (Option.some.inj hsubject).symm⟩
  refine ⟨hsession, ?_⟩
  obtain ⟨again, last', hagain, halike, hlast⟩ := isolated_from_other_grammars hsession hthin
  refine ⟨again, last', hagain, ?_, ?_, hlast⟩
  · rw [map_event_eq_of_seenAlike halike]
    rfl
  · obtain _ | ⟨-, _ | ⟨-, _ | ⟨hquestion, _ | _⟩⟩⟩ := halike
    exact congrArg some (hquestion.chunk_eq hconcerns)

end CykChart.Console
