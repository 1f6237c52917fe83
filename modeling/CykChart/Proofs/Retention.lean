import CykChart.Proofs.Queries
import Mathlib.Data.List.Induction

/-!
# What a recogniser remembers

A recogniser goes through operations of three kinds: edits of its grammar, its own requests, and
queries that are put to its grammar without it. Every operation acts on the grammar, and is
answered, as it would be by a grammar alone. The record is that of the last request since the
grammar was cleared: the cells of its chart, filled when the request was made. It is empty when
there is no such request, when the request had no answer, and when it was about the empty word.

## Main definitions

- `Operation`, `Reply`: what a recogniser can be asked to do, and how it answers.
- `Recogniser.respond`, `Grammar.respond`: one operation, on a recogniser and on a grammar.
- `run`: operations one after the other.

## Main results

- `Recogniser.record_run_of_keepsRecord`: which operations leave the record as it is.
- `Recogniser.record_eq_cells_of_last_request`: the record at every point of a run, and the run of
  the grammar beside it.
-/

namespace CykChart

/-! ## Runs -/

/-- What can be asked of a grammar about a word. -/
inductive Question where
  /-- Whether the word is derived. -/
  | accepts
  /-- The printed chart. -/
  | table
  /-- The chart. -/
  | chart
  /-- The drawn chart. -/
  | drawing

/-- What a recogniser can be asked to do. -/
inductive Operation where
  /-- To edit its grammar. -/
  | edit (edit : Edit)
  /-- To tell whether a word is derived, by its own request. -/
  | requestAccepts (word : List Char)
  /-- To print the chart of a word, by its own request. -/
  | requestTable (word : List Char)
  /-- To lend its grammar for a question. -/
  | ask (question : Question) (word : List Char)

/-- How an operation is answered. -/
inductive Reply where
  /-- Whether an edit is refused. -/
  | edited (outcome : Except Refusal Unit)
  /-- Whether a word is derived. -/
  | verdict (outcome : Except QueryError Bool)
  /-- A printed chart. -/
  | table (outcome : Except QueryError String)
  /-- A chart. -/
  | chart (outcome : Except QueryError Chart)
  /-- A drawn chart. -/
  | drawing (outcome : Except QueryError Dot.Graph)

namespace Grammar

/-- How a grammar answers a query. -/
def answer (g : Grammar) (word : List Char) : Question → Reply
  | .accepts => .verdict (g.accepts word)
  | .table => .table (g.table word)
  | .chart => .chart (g.chart word)
  | .drawing => .drawing (g.drawing word)

/-- The answer to an operation on a grammar, and the grammar after it. Requests are queries. -/
def respond (g : Grammar) : Operation → Reply × Grammar
  | .edit edit => (.edited ((fun _ => ()) <$> g.apply edit), g.perform edit)
  | .requestAccepts word => (g.answer word .accepts, g)
  | .requestTable word => (g.answer word .table, g)
  | .ask question word => (g.answer word question, g)

end Grammar

/-- The answer to an operation on a recogniser, and the recogniser after it. -/
def Recogniser.respond (r : Recogniser) : Operation → Reply × Recogniser
  | .edit edit => (.edited ((fun _ => ()) <$> r.apply edit), r.perform edit)
  | .requestAccepts word => (.verdict (r.accepts word).1, (r.accepts word).2)
  | .requestTable word => (.table (r.table word).1, (r.table word).2)
  | .ask question word => (r.grammar.answer word question, r)

/-- The replies to operations one after the other, and the state after them. -/
def run {σ : Type} (respond : σ → Operation → Reply × σ) : σ → List Operation → List Reply × σ
  | state, [] => ([], state)
  | state, operation :: rest =>
    let (reply, next) := respond state operation
    let (replies, last) := run respond next rest
    (reply :: replies, last)

/-- A run goes on from where its first part led. -/
theorem run_append {σ : Type} {respond : σ → Operation → Reply × σ} (state : σ)
    (first second : List Operation) :
    (run respond state (first ++ second)).2 =
      (run respond (run respond state first).2 second).2 := by
  induction first generalizing state with
  | nil => rfl
  | cons operation rest ih => exact ih (respond state operation).2

/-- The word that is asked about by a request of the recogniser. -/
def Operation.requested? : Operation → Option (List Char)
  | .requestAccepts word | .requestTable word => some word
  | _ => none

/-- Whether an operation leaves the record as it is: it is no request and does not clear. -/
def Operation.KeepsRecord (operation : Operation) : Prop :=
  operation.requested? = none ∧ operation ≠ .edit .clear

namespace Recogniser

variable {r : Recogniser} {operation : Operation} {word : List Char}

/-! ## One operation -/

/-- A recogniser acts on its grammar, and answers, as the grammar alone does. -/
theorem respond_eq (r : Recogniser) (operation : Operation) :
    (r.respond operation).1 = (r.grammar.respond operation).1 ∧
      (r.respond operation).2.grammar = (r.grammar.respond operation).2 := by
  cases operation with
  | edit edit =>
    refine ⟨?_, grammar_perform r edit⟩
    simp only [respond, Grammar.respond, ← map_grammar_apply]
    cases r.apply edit <;> rfl
  | requestAccepts word => exact ⟨congrArg _ (r.accepts_fst word), r.grammar_accepts word⟩
  | requestTable word => exact ⟨congrArg _ (r.table_fst word), r.grammar_table word⟩
  | ask question word => exact ⟨rfl, rfl⟩

/-- A request records its chart, and no cells when there is none. -/
theorem respond_request (h : operation.requested? = some word) :
    (r.respond operation).2 = r.recording (r.grammar.chart word) := by
  cases operation with
  | edit edit => exact absurd h (by simp [Operation.requested?])
  | requestAccepts asked => rw [← Option.some.inj h, respond, accepts_eq]
  | requestTable asked => rw [← Option.some.inj h, respond, table_eq]
  | ask question asked => exact absurd h (by simp [Operation.requested?])

/-- Edits keep the record, refused or not, but for clearing. -/
theorem record_perform {edit : Edit} (h : edit ≠ .clear) : (r.perform edit).record = r.record := by
  unfold perform apply
  cases happly : r.grammar.apply edit <;> cases edit <;> simp_all

/-- An operation that is no request and does not clear keeps the record. -/
theorem record_respond_of_keepsRecord (h : operation.KeepsRecord) :
    (r.respond operation).2.record = r.record := by
  obtain ⟨hrequest, hclear⟩ := h
  cases operation with
  | edit edit => exact record_perform fun heq => hclear (heq ▸ rfl)
  | requestAccepts word => exact absurd hrequest (by simp [Operation.requested?])
  | requestTable word => exact absurd hrequest (by simp [Operation.requested?])
  | ask question word => rfl

/-! ## Runs -/

/-- A run of a recogniser is one of its grammar, with the same replies. -/
theorem run_eq (r : Recogniser) (operations : List Operation) :
    (run respond r operations).1 = (run Grammar.respond r.grammar operations).1 ∧
      (run respond r operations).2.grammar = (run Grammar.respond r.grammar operations).2 := by
  induction operations generalizing r with
  | nil => exact ⟨rfl, rfl⟩
  | cons operation rest ih =>
    obtain ⟨hreply, hgrammar⟩ := r.respond_eq operation
    obtain ⟨hreplies, hlast⟩ := ih (r.respond operation).2
    rw [hgrammar] at hreplies hlast
    exact ⟨congrArg₂ _ hreply hreplies, hlast⟩

/-- Operations that keep the record keep it when they come one after the other. -/
theorem record_run_of_keepsRecord {operations : List Operation}
    (h : ∀ operation ∈ operations, operation.KeepsRecord) :
    (run respond r operations).2.record = r.record := by
  induction operations generalizing r with
  | nil => rfl
  | cons operation rest ih =>
    rw [List.forall_mem_cons] at h
    exact (ih h.2).trans (record_respond_of_keepsRecord h.1)

/-- When each request was followed by a clearing, nothing is recorded. -/
theorem record_run_of_cleared (hr : r.record = []) {operations : List Operation}
    (h : ∀ before request after, operations = before ++ request :: after →
      request.requested? ≠ none → .edit .clear ∈ after) :
    (run respond r operations).2.record = [] := by
  -- By induction from the end: the last operation clears, or it keeps the record.
  induction operations using List.reverseRecOn with
  | nil => exact hr
  | append_singleton operations operation ih =>
    rw [run_append]
    by_cases hclear : operation = .edit .clear
    · rw [hclear]
      rfl
    · have hrequest : operation.requested? = none := by
        by_contra hne
        exact List.not_mem_nil (h operations operation [] rfl hne)
      rw [record_run_of_keepsRecord (List.forall_mem_singleton.2 ⟨hrequest, hclear⟩)]
      refine ih fun before request after hcut hne => ?_
      have hmem := h before request (after ++ [operation]) (by simp [hcut]) hne
      simpa [Ne.symm hclear] using hmem

/-- A recogniser that began with a grammar and no record, after operations. -/
def after (start : Grammar) (operations : List Operation) : Recogniser :=
  (run respond ⟨start, []⟩ operations).2

/-- The record is that of the last request, as long as nothing clears. -/
theorem after_of_request (start : Grammar) {before rest : List Operation}
    (hrequest : operation.requested? = some word)
    (hrest : ∀ later ∈ rest, later.KeepsRecord) :
    (after start (before ++ operation :: rest)).record =
      ((after start before).recording ((after start before).grammar.chart word)).record := by
  rw [after, run_append]
  exact (record_run_of_keepsRecord hrest).trans (congrArg record (respond_request hrequest))

/-- At every point of a run the record is that of the last request. With `g` the grammar as it was
at that request, the record has the cells of the chart of the word, or none if there is no such
chart or the word is empty; what comes after the request may be anything but a request or a
clearing. Without a request since the beginning or the last clearing nothing is recorded. Requests
leave the grammar alone and are answered as the same questions to it are, and all replies and the
grammar are those of the same run without the record. -/
theorem record_eq_cells_of_last_request (start : Grammar) (operations : List Operation) :
    (∀ before request rest word, operations = before ++ request :: rest →
      request.requested? = some word → (∀ later ∈ rest, later.KeepsRecord) →
      let g := (after start before).grammar
      (∃ chart, g.chart word = .ok chart ∧ word ≠ [] ∧
        (after start operations).record = chart.cells) ∨
      (((∃ error, g.chart word = .error error) ∨ word = []) ∧
        (after start operations).record = [])) ∧
    ((∀ before request rest, operations = before ++ request :: rest →
      request.requested? ≠ none → .edit .clear ∈ rest) →
      (after start operations).record = []) ∧
    (∀ word, let r := after start operations
      (r.accepts word).1 = r.grammar.accepts word ∧ (r.accepts word).2.grammar = r.grammar ∧
        (r.table word).1 = r.grammar.table word ∧ (r.table word).2.grammar = r.grammar) ∧
    (run respond ⟨start, []⟩ operations).1 = (run Grammar.respond start operations).1 ∧
    (after start operations).grammar = (run Grammar.respond start operations).2 := by
  refine ⟨?_, record_run_of_cleared rfl, ?_, run_eq ⟨start, []⟩ operations⟩
  · rintro before request rest word rfl hrequest hrest g
    -- Later operations keep the record, so it is the one the request left.
    rw [after_of_request start hrequest hrest]
    cases hchart : (after start before).grammar.chart word with
    | error error => exact .inr ⟨.inl ⟨error, rfl⟩, rfl⟩
    | ok chart =>
      by_cases hword : word = []
      · subst hword
        exact .inr ⟨.inr rfl, Grammar.cells_eq_nil_of_chart_nil hchart⟩
      · exact .inl ⟨chart, rfl, hword, rfl⟩
  · intro word
    exact ⟨accepts_fst _ word, grammar_accepts _ word, table_fst _ word, grammar_table _ word⟩

end Recogniser

end CykChart
