import CykChart.Text.Casing
import CykChart.Text.Scan

/-!
# Commands of the console

A line entered at the console is a command: a word that names it, in any case, and further words as
its arguments. Arguments beyond those that a command takes are passed over.

## Main definitions

- `Request`: what may be asked of a grammar under its name.
- `Command`: the commands.
- `Command.read`: the command that a line is.
-/

namespace CykChart.Console

/-- What may be asked of a grammar. -/
inductive Request where
  /-- Declare a nonterminal. -/
  | declareNonterminal (symbol : String)
  /-- Declare a terminal. -/
  | declareTerminal (symbol : String)
  /-- Set the start symbol. -/
  | setStart (symbol : String)
  /-- Add a rule. -/
  | addRule (head body : String)
  /-- Remove all symbols and rules. -/
  | reset
  /-- Show the state. -/
  | summary
  /-- Show the rules of one head. -/
  | productionsOf (head : String)
  /-- Show all rules. -/
  | productions
  /-- Tell whether a word is derived. -/
  | accepts (word : String)
  /-- Show the chart of a word. -/
  | table (word : String)
  /-- Draw the chart of a word. -/
  | draw (word : String)
  deriving DecidableEq, Repr

/-- A command. -/
inductive Command where
  /-- A blank line. -/
  | nothing
  /-- End the session. -/
  | exit
  /-- Show the commands. -/
  | help
  /-- Load the grammars of a file. -/
  | load (path : String)
  /-- List the grammars. -/
  | list
  /-- Create an empty grammar. -/
  | create (name : String)
  /-- Ask something of a grammar. -/
  | ask (name : String) (request : Request)
  /-- Remove a grammar. -/
  | delete (name : String)
  /-- Remove all grammars. -/
  | clear
  /-- A command with too few arguments, by how it is used. -/
  | usage (synopsis : String)
  /-- A word that names no command. -/
  | unknown (word : String)
  deriving DecidableEq, Repr

/-- The command with a name, in lower case, and arguments. -/
def Command.ofWords (name : String) (arguments : List String) : Command :=
  match name, arguments with
  | "exit", _ => .exit
  | "quit", _ => .exit
  | "help", _ => .help
  | "load", path :: _ => .load path
  | "load", _ => .usage "load <filename>"
  | "list", _ => .list
  | "new", grammar :: _ => .create grammar
  | "new", _ => .usage "new <name>"
  | "nt", grammar :: symbol :: _ => .ask grammar (.declareNonterminal symbol)
  | "nt", _ => .usage "nt <name> <symbol>"
  | "t", grammar :: symbol :: _ => .ask grammar (.declareTerminal symbol)
  | "t", _ => .usage "t <name> <symbol>"
  | "start", grammar :: symbol :: _ => .ask grammar (.setStart symbol)
  | "start", _ => .usage "start <name> <symbol>"
  | "prod", grammar :: head :: body :: _ => .ask grammar (.addRule head body)
  | "prod", _ => .usage "prod <name> <X> <body>"
  | "reset", grammar :: _ => .ask grammar .reset
  | "reset", _ => .usage "reset <name>"
  | "show_grammar", grammar :: _ => .ask grammar .summary
  | "show_grammar", _ => .usage "show_grammar <name>"
  | "productions", grammar :: head :: _ => .ask grammar (.productionsOf head)
  | "productions", _ => .usage "productions <name> <X>"
  | "grammar", grammar :: _ => .ask grammar .productions
  | "grammar", _ => .usage "grammar <name>"
  | "cyk", grammar :: word :: _ => .ask grammar (.accepts word)
  | "cyk", [grammar] => .ask grammar (.accepts "")
  | "cyk", _ => .usage "cyk <name> <word>"
  | "table", grammar :: word :: _ => .ask grammar (.table word)
  | "table", _ => .usage "table <name> <word>"
  | "graph", grammar :: word :: _ => .ask grammar (.draw word)
  | "graph", _ => .usage "graph <name> <word>"
  | "delete", grammar :: _ => .delete grammar
  | "delete", _ => .usage "delete <name>"
  | "clear", _ => .clear
  | other, _ => .unknown other

/-- The command that a line is. -/
def Command.read (line : String) : Command :=
  match Text.words line.toList with
  | [] => .nothing
  | name :: arguments =>
    ofWords (String.ofList (Text.lowered name)) (arguments.map String.ofList)

end CykChart.Console
