import CykChart.Chart.Drawing
import CykChart.Collection
import CykChart.Console.Command
import CykChart.Grammar.Printer

/-!
# Sessions at the console

A session keeps grammars under names and answers commands one after another. An answer is what is
printed and drawn, and the grammars afterwards. A command that fails prints why and changes
nothing.

The console prints a banner, and before each command a prompt. An interrupt at the prompt is
answered by a hint. The session ends with a farewell, after the command that ends it or at the end
of the input.

## Main definitions

- `Store`: the grammars of a session.
- `Answer`: the effect of a command.
- `answer`: the answer to a command.
- `Event`, `respond`, `transcript`: whole sessions.
-/

namespace CykChart.Console

/-- The grammars of a session, by name. -/
abbrev Store := Register Grammar

/-- The effect of a command. -/
structure Answer where
  /-- What is printed. -/
  printed : String
  /-- What is drawn. -/
  drawn : List Rendering := []
  /-- The grammars afterwards. -/
  store : Store
  deriving DecidableEq, Repr

/-- A text with a line feed at its end. -/
def line (text : String) : String :=
  text ++ "\n"

/-- The line that reports a failure. -/
def failure (message : String) : String :=
  line ("Error: " ++ message)

/-- The list of commands. -/
def helpText : String :=
  "\nCommands:\n"
    ++ "  LOADING:\n"
    ++ "    load <file>                  - Load grammars from file\n"
    ++ "    list                         - List all loaded grammars\n"
    ++ "\n  BUILDING:\n"
    ++ "    new <name>                   - Create an empty grammar\n"
    ++ "    nt <name> <X>                - Add non-terminal X\n"
    ++ "    t <name> <a>                 - Add terminal a\n"
    ++ "    start <name> <X>             - Set start symbol\n"
    ++ "    prod <name> <X> <body>       - Add production X -> body (a or BC)\n"
    ++ "    reset <name>                 - Remove every symbol and production\n"
    ++ "\n  INSPECTION:\n"
    ++ "    show_grammar <name>          - Show grammar info\n"
    ++ "    productions <name> <X>       - Show productions of X (X::=...)\n"
    ++ "    grammar <name>               - Show all productions\n"
    ++ "\n  CYK:\n"
    ++ "    cyk <name> <word>            - Membership test\n"
    ++ "    table <name> <word>          - Print the CYK table\n"
    ++ "    graph <name> <word>          - Visualize the CYK table\n"
    ++ "\n  GENERAL:\n"
    ++ "    delete <name>                - Delete grammar\n"
    ++ "    clear                        - Clear all\n"
    ++ "    exit                         - Exit\n"
    ++ "\n"

/-- The order of names by code points. -/
def nameLe (a b : String × Grammar) : Bool :=
  a.1 ≤ b.1

/-- The line of a grammar in the list of grammars. -/
def listing (name : String) (g : Grammar) : String :=
  line ("  " ++ name ++ ": " ++ toString g.nonterminals.length ++ " non-terminals, "
    ++ toString g.rules.length ++ " productions")

/-- The list of grammars, by name. -/
def listText (store : Store) : String :=
  if store.isEmpty then line "Nothing loaded"
  else line "Grammars:"
    ++ String.join ((sortBy nameLe store.entries).map fun (name, g) => listing name g)

/-- The answer to a command that loads a file: warnings come before the count. -/
def answerLoad (disk : Disk) (store : Store) (path : String) : Answer :=
  match Collection.load disk path with
  | .error error => { printed := failure error.message, store }
  | .ok loading =>
    let outcome :=
      if loading.grammars.isEmpty then "No items loaded"
      else "Loaded " ++ toString loading.grammars.size ++ " grammars: "
        ++ String.intercalate ", " loading.grammars.names
    { printed := loading.report ++ line outcome, store := store.merge loading.grammars }

/-- The answer to a request that changes a grammar. -/
def answerEdit (store : Store) (name : String) (g : Grammar) (edit : Edit) (done : String) :
    Answer :=
  match g.apply edit with
  | .ok next => { printed := line done, store := store.put name next }
  -- Commands hand over texts, in whose messages there are no integers that could be too long.
  | .error refusal => { printed := failure refusal.message, store }

/-- The answer to a request that asks about a word. -/
def answerQuery {α : Type} (store : Store) (result : Except QueryError α) (print : α → String) :
    Answer :=
  match result with
  | .ok value => { printed := print value, store }
  | .error error => { printed := failure error.message, store }

/-- The answer to a request that draws a chart. -/
def answerDrawing (store : Store) (name : String) (g : Grammar) (word : String) : Answer :=
  let filename := name ++ "_" ++ word
  match g.drawing word.toList with
  | .ok graph =>
    { printed := line ("Created: " ++ filename ++ ".png")
      drawn := [Rendering.ofGraph filename true graph]
      store }
  | .error error => { printed := failure error.message, store }

/-- The answer to a request to a grammar with a name. -/
def answerRequest (store : Store) (name : String) (g : Grammar) : Request → Answer
  | .declareNonterminal symbol => answerEdit store name g (.declareNonterminal (.text symbol)) "OK"
  | .declareTerminal symbol => answerEdit store name g (.declareTerminal (.text symbol)) "OK"
  | .setStart symbol => answerEdit store name g (.setStart (.text symbol)) "OK"
  | .addRule head body => answerEdit store name g (.addRule (.text head) (.text body)) "OK"
  | .reset => answerEdit store name g .clear ("Reset: " ++ name)
  | .summary => { printed := line g.summary, store }
  | .productionsOf head =>
    match g.productionsUnder (.text head) with
    | .ok text => { printed := line text, store }
    | .error error => { printed := failure error.message, store }
  | .productions => { printed := g.productions, store }
  | .accepts word =>
    answerQuery store (g.accepts word.toList) fun accepted =>
      line (if accepted then "ACCEPTED" else "REJECTED")
  | .table word => answerQuery store (g.table word.toList) id
  | .draw word => answerDrawing store name g word

/-- The answer to a command; none for the command that ends the session. -/
def answer (disk : Disk) (store : Store) : Command → Option Answer
  | .exit => none
  | .nothing => some { printed := "", store }
  | .help => some { printed := helpText, store }
  | .load path => some (answerLoad disk store path)
  | .list => some { printed := listText store, store }
  | .create name =>
    some { printed := line ("Created: " ++ name), store := store.put name Grammar.empty }
  | .ask name request =>
    match store.find? name with
    | none => some { printed := line ("Grammar not found: " ++ name), store }
    | some g => some (answerRequest store name g request)
  | .delete name =>
    match store.find? name with
    | none => some { printed := line ("Not found: " ++ name), store }
    | some _ => some { printed := line ("Deleted: " ++ name), store := store.erase name }
  | .clear => some { printed := line "Cleared all", store := Register.empty }
  | .usage synopsis => some { printed := line ("Usage: " ++ synopsis), store }
  | .unknown word => some { printed := line ("Unknown command: " ++ word), store }

/-- What happens at the prompt. -/
inductive Event where
  /-- A line is entered. -/
  | entered (line : String)
  /-- The user interrupts. -/
  | interrupted
  deriving DecidableEq, Repr

/-- What the console prints at the start of a session. -/
def banner : String :=
  "CYK Grammar Terminal - Type 'help' for commands\n\n"

/-- What the console prints before each command. -/
def prompt : String :=
  "> "

/-- What the console prints at the end of a session. -/
def farewell : String :=
  line "Goodbye!"

/-- The answer to an event; none for the command that ends the session. -/
def respond (disk : Disk) (store : Store) : Event → Option Answer
  | .interrupted => some { printed := line "\nUse 'exit' to quit", store }
  | .entered text => answer disk store (Command.read text)

/-- A stretch of output, from one prompt to the next. -/
structure Chunk where
  /-- What is printed. -/
  printed : String
  /-- What is drawn. -/
  drawn : List Rendering := []
  deriving DecidableEq, Repr

/-- The output from the first prompt on. After the last event the input ends. -/
def chunks (disk : Disk) (store : Store) : List Event → List Chunk
  | [] => [{ printed := prompt ++ farewell }]
  | event :: rest =>
    match respond disk store event with
    | none => [{ printed := prompt ++ farewell }]
    | some answer =>
      { printed := prompt ++ answer.printed, drawn := answer.drawn }
        :: chunks disk answer.store rest

/-- The output of a whole session. -/
def transcript (disk : Disk) (events : List Event) : List Chunk :=
  { printed := banner } :: chunks disk Register.empty events

end CykChart.Console
