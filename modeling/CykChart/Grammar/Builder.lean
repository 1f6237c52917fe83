import CykChart.Datum
import CykChart.Grammar.Basic
import CykChart.Raising

/-!
# Building a grammar

A grammar is built by declaring symbols, setting the start symbol and adding rules. Each operation
takes data of any kind and either yields a new grammar or refuses; a refusal leaves the grammar as
it was. An `Edit` is one such operation as a value, so that a history of a grammar is a list of
edits. A call of an operation ends with the new grammar, or with what is raised for its refusal.

Of several faults in a rule the first in this order is reported: a body that is no sequence of
texts, a head that is not declared, a body that is not in normal form, a rule that is there
already.

## Main definitions

- `Refusal`: why an operation is refused; `Refusal.message` words it.
- `Refusal.raised`: what is raised when an operation is refused.
- `Grammar.declareNonterminal`, `declareTerminal`, `setStart`, `addRule`: the operations.
- `Edit`, `Grammar.apply`, `Grammar.perform`: operations as values.
- `Grammar.call`: how a call of an operation ends.
-/

namespace CykChart

/-- Why an operation on a grammar is refused. -/
inductive Refusal where
  /-- The datum is not one upper-case character. -/
  | notNonterminal (symbol : Datum)
  /-- The datum is not one lower-case character. -/
  | notTerminal (symbol : Datum)
  /-- The nonterminal is declared already. -/
  | nonterminalDeclared (symbol : Char)
  /-- The terminal is declared already. -/
  | terminalDeclared (symbol : Char)
  /-- The start symbol is not a declared nonterminal. -/
  | startUndeclared (symbol : Datum)
  /-- The head of a rule is not a declared nonterminal. -/
  | headUndeclared (head : Datum)
  /-- The body of a rule is neither a text nor a list or tuple of texts. -/
  | bodyNotSymbols (head body : Datum)
  /-- The only symbol of a body is not a declared terminal. -/
  | bodyNotTerminal (head symbol : Char)
  /-- The two symbols of a body are not both declared nonterminals. -/
  | bodyNotPair (head left right : Char)
  /-- A body has no symbol or more than two. -/
  | bodyLength (head : Char) (symbols : List Char)
  /-- The grammar has the rule already. -/
  | ruleDefined (rule : Rule)
  deriving Repr

/-- A head and a body with an arrow between them. -/
def arrowed (head body : String) : String :=
  head ++ " -> " ++ body

/-- The wording of a refusal. -/
def Refusal.message : Refusal → String
  | .notNonterminal symbol => "Non-terminal must be one uppercase letter: " ++ symbol.quoted
  | .notTerminal symbol => "Terminal must be one lowercase letter: " ++ symbol.quoted
  | .nonterminalDeclared symbol => "Non-terminal already declared: " ++ symbol.toString
  | .terminalDeclared symbol => "Terminal already declared: " ++ symbol.toString
  | .startUndeclared symbol => "Start symbol is not a declared non-terminal: " ++ symbol.quoted
  | .headUndeclared head => "Production head is not a declared non-terminal: " ++ head.quoted
  | .bodyNotSymbols head body =>
    arrowed head.shown body.quoted ++ ": body symbols must be strings"
  | .bodyNotTerminal head symbol =>
    arrowed head.toString symbol.toString ++ ": a single symbol must be a declared terminal"
  | .bodyNotPair head left right =>
    arrowed head.toString (String.ofList [left, right])
      ++ ": a pair must be two declared non-terminals"
  | .bodyLength head symbols =>
    arrowed head.toString (String.ofList symbols) ++ ": body must have one or two symbols"
  | .ruleDefined rule =>
    "Production already defined: "
      ++ arrowed rule.head.toString (String.ofList rule.body.symbols)

/-- The integers that the wording of a refusal shows. -/
def Refusal.numbers : Refusal → List Int
  | .notNonterminal symbol | .notTerminal symbol | .startUndeclared symbol => symbol.numbers
  | .headUndeclared head => head.numbers
  | .bodyNotSymbols head body => head.numbers ++ body.numbers
  | _ => []

/-- What is raised when an operation is refused. -/
def Refusal.raised (limit : DigitLimit) (refusal : Refusal) : Raised Refusal :=
  limit.raise refusal refusal.numbers

namespace Datum

/-- The nonterminal that a datum is: a text of one upper-case character. -/
def nonterminal? (datum : Datum) : Option Char :=
  datum.char?.filter isNonterminal

/-- The terminal that a datum is: a text of one lower-case character. -/
def terminal? (datum : Datum) : Option Char :=
  datum.char?.filter isTerminal

end Datum

namespace Grammar

/-- Declare a nonterminal. -/
def declareNonterminal (g : Grammar) (symbol : Datum) : Except Refusal Grammar :=
  match symbol.nonterminal? with
  | none => .error (.notNonterminal symbol)
  | some c =>
    if c ∈ g.nonterminals then .error (.nonterminalDeclared c)
    else .ok { g with nonterminals := g.nonterminals ++ [c] }

/-- Declare a terminal. -/
def declareTerminal (g : Grammar) (symbol : Datum) : Except Refusal Grammar :=
  match symbol.terminal? with
  | none => .error (.notTerminal symbol)
  | some c =>
    if c ∈ g.terminals then .error (.terminalDeclared c)
    else .ok { g with terminals := g.terminals ++ [c] }

/-- The declared nonterminal that a datum names. -/
def declaredNonterminal? (g : Grammar) (symbol : Datum) : Option Char :=
  symbol.char?.filter (· ∈ g.nonterminals)

/-- Set the start symbol. -/
def setStart (g : Grammar) (symbol : Datum) : Except Refusal Grammar :=
  match g.declaredNonterminal? symbol with
  | none => .error (.startUndeclared symbol)
  | some c => .ok { g with start := some c }

/-- The body that a head may have with given symbols: one declared terminal or two declared
nonterminals. -/
def readBody (g : Grammar) (head : Char) : List Char → Except Refusal Body
  | [symbol] =>
    if symbol ∈ g.terminals then .ok (.terminal symbol)
    else .error (.bodyNotTerminal head symbol)
  | [left, right] =>
    if left ∈ g.nonterminals ∧ right ∈ g.nonterminals then .ok (.pair left right)
    else .error (.bodyNotPair head left right)
  | symbols => .error (.bodyLength head symbols)

/-- Add a rule that is not there already. -/
def insertRule (g : Grammar) (rule : Rule) : Except Refusal Grammar :=
  if rule ∈ g.rules then .error (.ruleDefined rule)
  else .ok { g with rules := g.rules ++ [rule] }

/-- Add a rule whose body is given as symbols. -/
def addSymbols (g : Grammar) (head : Datum) (symbols : List Char) : Except Refusal Grammar :=
  match g.declaredNonterminal? head with
  | none => .error (.headUndeclared head)
  | some c => do
    let body ← g.readBody c symbols
    g.insertRule ⟨c, body⟩

/-- Add a rule. Its body is a text, or a list or tuple of texts that are read one after another. -/
def addRule (g : Grammar) (head body : Datum) : Except Refusal Grammar :=
  -- The kind of the body is looked at before the head.
  match body.joined? with
  | none => .error (.bodyNotSymbols head body)
  | some symbols => g.addSymbols head symbols

end Grammar

/-- An operation on a grammar. -/
inductive Edit where
  /-- Declare a nonterminal. -/
  | declareNonterminal (symbol : Datum)
  /-- Declare a terminal. -/
  | declareTerminal (symbol : Datum)
  /-- Set the start symbol. -/
  | setStart (symbol : Datum)
  /-- Add a rule. -/
  | addRule (head body : Datum)
  /-- Remove all symbols and rules. -/
  | clear
  deriving Repr

namespace Grammar

/-- The grammar after an operation, or why it is refused. -/
def apply (g : Grammar) : Edit → Except Refusal Grammar
  | .declareNonterminal symbol => g.declareNonterminal symbol
  | .declareTerminal symbol => g.declareTerminal symbol
  | .setStart symbol => g.setStart symbol
  | .addRule head body => g.addRule head body
  | .clear => .ok empty

/-- How a call of an operation ends: with the grammar after it, or with what is raised. -/
def call (limit : DigitLimit) (g : Grammar) (edit : Edit) : Except (Raised Refusal) Grammar :=
  (g.apply edit).mapError (Refusal.raised limit)

/-- The grammar after an operation, which has no effect when it is refused. -/
def perform (g : Grammar) (edit : Edit) : Grammar :=
  match g.apply edit with
  | .ok next => next
  | .error _ => g

/-- The grammar after a history of operations. -/
def performAll (g : Grammar) (edits : List Edit) : Grammar :=
  edits.foldl perform g

end Grammar

end CykChart
