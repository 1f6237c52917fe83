import CykChart.Document.Line
import CykChart.Grammar.Builder

/-!
# Grammars from text

A grammar text is first read as a document, which is a list of lines, and the grammar is then
built from the document by the operations of `Grammar`, in this order:

1. the symbols of the declaring lines, nonterminals before terminals;
2. every other symbol of a rule that can be a nonterminal or a terminal, as it appears;
3. the start symbol: the one of the last `START:` line, and when that is missing or empty, `S` if
   it is declared, else the head of the first rule;
4. the rules.

The first operation that is refused ends the reading with its refusal. A line of no kind is
reported before any of them.

## Main definitions

- `Document`, `Document.read`: the document that a text is.
- `Document.build`: the grammar that a document describes.
- `Grammar.ofText`: both steps.
- `ReadError`: why a text is no grammar.
-/

namespace CykChart

/-- The lines of a grammar text that say something. -/
structure Document where
  /-- What the lines say, in order. -/
  lines : List Document.Line
  deriving DecidableEq, Repr

/-- Why a text is no grammar. -/
inductive ReadError where
  /-- The line is of no kind. -/
  | unreadable (line : List Char)
  /-- There is nothing that could be the start symbol. -/
  | noStart
  /-- An operation that the text asks for is refused. -/
  | refused (refusal : Refusal)
  deriving Repr

/-- The wording of a read error. -/
def ReadError.message : ReadError → String
  | .unreadable line => "Cannot parse grammar line: " ++ Text.quoted line
  | .noStart => "No productions found or unable to determine start symbol"
  -- The operations of a document are given texts, so there is no integer that could be too long.
  | .refused refusal => refusal.message

namespace Document

/-- What a visible line says. -/
def readLine (line : List Char) : Except ReadError Line :=
  match Line.read? line with
  | some said => .ok said
  | none => .error (.unreadable line)

/-- The document that a text is. -/
def read (text : List Char) : Except ReadError Document :=
  Document.mk <$> ((Text.lines text).filterMap visible?).mapM readLine

/-- The nonterminals to declare. -/
def nonterminals (document : Document) : List (List Char) :=
  document.lines.flatMap fun
    | .nonterminals symbols => symbols
    | _ => []

/-- The terminals to declare. -/
def terminals (document : Document) : List (List Char) :=
  document.lines.flatMap fun
    | .terminals symbols => symbols
    | _ => []

/-- The start symbol of the last line that sets it; empty when no line does. -/
def start (document : Document) : List Char :=
  (document.lines.filterMap fun
    | .start symbol => some symbol
    | _ => none).getLast?.getD []

/-- Heads with their bodies, in the order of the lines. -/
def rules (document : Document) : List (List Char × List (List Char)) :=
  document.lines.filterMap fun
    | .rules head bodies => some (head, bodies)
    | _ => none

/-- The symbols that the rules mention, heads before bodies on each line. -/
def mentions (document : Document) : List Char :=
  document.rules.flatMap fun (head, bodies) => head ++ bodies.flatten

/-- A text as a datum. -/
def datum (cs : List Char) : Datum :=
  .text (String.ofList cs)

/-- The operations that declare symbols. -/
def declarations (document : Document) : List Edit :=
  document.nonterminals.map (fun symbol => .declareNonterminal (datum symbol))
    ++ document.terminals.map (fun symbol => .declareTerminal (datum symbol))

/-- The operations that add rules. -/
def additions (document : Document) : List Edit :=
  document.rules.flatMap fun (head, bodies) =>
    bodies.map fun body => .addRule (datum head) (datum body)

end Document

namespace Grammar

/-- The grammar after operations none of which is refused. -/
def applyAll (g : Grammar) (edits : List Edit) : Except Refusal Grammar :=
  edits.foldlM apply g

/-- Declare a symbol that a rule mentions, if it can be declared and is not. -/
def mention (g : Grammar) (symbol : Char) : Grammar :=
  if g.declares symbol then g
  else if isNonterminal symbol then { g with nonterminals := g.nonterminals ++ [symbol] }
  else if isTerminal symbol then { g with terminals := g.terminals ++ [symbol] }
  else g

end Grammar

namespace Document

/-- The start symbol of a grammar with all its symbols declared. -/
def startFor? (document : Document) (g : Grammar) : Option (List Char) :=
  match document.start with
  | [] =>
    if 'S' ∈ g.nonterminals then some ['S']
    else document.rules.head?.map (·.1)
  | symbol => some symbol

/-- The grammar that a document describes. -/
def build (document : Document) : Except ReadError Grammar := do
  -- Declared symbols come first and keep their order; mentioned ones follow as they appear.
  let declared ← (Grammar.empty.applyAll document.declarations).mapError .refused
  let mentioned := document.mentions.foldl Grammar.mention declared
  match document.startFor? mentioned with
  | none => .error .noStart
  | some symbol =>
    -- A start symbol that is not declared is refused before any rule is added.
    (mentioned.applyAll (.setStart (datum symbol) :: document.additions)).mapError .refused

end Document

/-- The grammar that a text describes. -/
def Grammar.ofText (text : List Char) : Except ReadError Grammar := do
  let document ← Document.read text
  document.build

end CykChart
