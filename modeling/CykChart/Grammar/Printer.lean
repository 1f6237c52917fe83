import CykChart.Datum
import CykChart.Grammar.Basic

/-!
# Printed grammars

A grammar is printed in two forms. `Grammar.productions` has one line for each nonterminal, empty
for one without rules, in a notation that the reader of grammar texts accepts. `Grammar.summary`
describes the whole state: symbols, start symbol and rules.

## Main definitions

- `Grammar.productionsOf`: the rules of one head, as `A::=BC|a`.
- `Grammar.productions`: the rules of all heads.
- `Grammar.summary`: the state of a grammar.
-/

namespace CykChart

/-- The text of a body. -/
def Body.print (body : Body) : String :=
  String.ofList body.symbols

/-- Why a datum cannot name an entry. -/
inductive UnusableKey where
  /-- Data of this kind change with their content. -/
  | changeable (kind : String)
  deriving DecidableEq, Repr

/-- The wording of an unusable key. -/
def UnusableKey.message : UnusableKey → String
  | .changeable kind => "unhashable type: '" ++ kind ++ "'"

namespace Grammar

/-- The rules of one head, or no text when it has none. -/
def productionsOf (g : Grammar) (head : Char) : String :=
  match g.bodies head with
  | [] => ""
  | bodies => head.toString ++ "::=" ++ String.intercalate "|" (bodies.map Body.print)

/-- The rules of the head that a datum names. -/
def productionsUnder (g : Grammar) (symbol : Datum) : Except UnusableKey String :=
  match symbol.changeableKind? with
  | some kind => .error (.changeable kind)
  | none => .ok ((symbol.char?.map g.productionsOf).getD "")

/-- The rules of all nonterminals, one line each, in order of declaration. -/
def productions (g : Grammar) : String :=
  String.join (g.nonterminals.map fun head => g.productionsOf head ++ "\n")

/-- Symbols between braces. -/
def braced (symbols : List Char) : String :=
  "\x7b" ++ String.intercalate ", " (symbols.map Char.toString) ++ "\x7d"

/-- The line of the summary for one nonterminal, or no text when it has no rules. -/
def summaryLine (g : Grammar) (head : Char) : String :=
  match g.bodies head with
  | [] => ""
  | bodies =>
    "    " ++ head.toString ++ " -> " ++ String.intercalate " | " (bodies.map Body.print) ++ "\n"

/-- The state of a grammar: symbols, start symbol (a dash when it is not set) and rules. -/
def summary (g : Grammar) : String :=
  "Grammar (CNF)\n"
    ++ "  Non-terminals: " ++ braced g.nonterminals ++ "\n"
    ++ "  Terminals: " ++ braced g.terminals ++ "\n"
    ++ "  Start symbol: " ++ (g.start.getD '-').toString ++ "\n"
    ++ "  Productions:\n"
    ++ String.join (g.nonterminals.map g.summaryLine)

end Grammar

end CykChart
