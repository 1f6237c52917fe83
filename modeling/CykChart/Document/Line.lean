import CykChart.Text.Scan

/-!
# Lines of a grammar text

A grammar text is read line by line. What follows the first `#` of a line is a comment, and white
space at the ends of a line does not count. Any other line is of one of four kinds:

- `START:` and the start symbol,
- `NONTERMINALS:` or `NON_TERMINALS:` and nonterminals,
- `TERMINALS:` and terminals,
- a head, an arrow, and bodies separated by `|`.

An arrow is written `->`, `→` or `::=`. The first arrow of a line divides it; a later one belongs
to a body, as `->`. A head may stand in angle brackets. White space inside a body is dropped, and
an empty body is a body.

## Main definitions

- `Line`: what a line says.
- `Line.read?`: the reader for one line.
- `visible?`: a line without its comment.
-/

namespace CykChart.Document

/-- What a line of a grammar text says. -/
inductive Line where
  /-- The start symbol. -/
  | start (symbol : List Char)
  /-- Nonterminals to declare. -/
  | nonterminals (symbols : List (List Char))
  /-- Terminals to declare. -/
  | terminals (symbols : List (List Char))
  /-- The rules of a head. -/
  | rules (head : List Char) (bodies : List (List Char))
  deriving DecidableEq, Repr

/-- A line without comment and without white space at its ends; none when nothing is left. -/
def visible? (line : List Char) : Option (List Char) :=
  match Text.trim (line.takeWhile (· != '#')) with
  | [] => none
  | visible => some visible

/-- What follows a keyword at the beginning of a line. -/
def after? (keyword : String) (line : List Char) : Option (List Char) :=
  keyword.toList.isPrefixOf? line

/-- A line with every arrow written `->`. -/
def plainArrows : List Char → List Char
  | '→' :: rest => '-' :: '>' :: plainArrows rest
  | ':' :: ':' :: '=' :: rest => '-' :: '>' :: plainArrows rest
  | c :: rest => c :: plainArrows rest
  | [] => []

/-- What stands before and after the first `->` of a line. -/
def cutArrow? : List Char → Option (List Char × List Char)
  | '-' :: '>' :: rest => some ([], rest)
  | c :: rest => (cutArrow? rest).map fun (before, behind) => (c :: before, behind)
  | [] => none

/-- A head without the angle brackets around it. -/
def unbracketed : List Char → List Char
  | '<' :: rest => if rest.getLast? = some '>' then rest.dropLast else '<' :: rest
  | head => head

/-- The rules that a line states; none for a line without arrow. -/
def readRules? (line : List Char) : Option Line :=
  (cutArrow? (plainArrows line)).map fun (head, alternatives) =>
    .rules (unbracketed (Text.trim head)) ((alternatives.splitOn '|').map Text.withoutBlanks)

/-- What a visible line says; none for a line of no kind. -/
def Line.read? (line : List Char) : Option Line :=
  -- The keywords come first, so a line that begins with one states no rules even with an arrow.
  match after? "START:" line with
  | some symbol => some (.start (Text.trim symbol))
  | none =>
    match after? "NON_TERMINALS:" line, after? "NONTERMINALS:" line, after? "TERMINALS:" line with
    | some symbols, _, _ | none, some symbols, _ => some (.nonterminals (Text.words symbols))
    | none, none, some symbols => some (.terminals (Text.words symbols))
    | none, none, none => readRules? line

end CykChart.Document
