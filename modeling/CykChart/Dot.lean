/-!
# Graphs in the DOT language

A drawing is a directed graph whose nodes stand in ranks. Its source has one statement on each
line: the attributes of the graph and the defaults for nodes and edges, a block for each rank, and
the edges. Attributes are written in the order given.

An identifier or numeral stands bare in the source, unless it is a keyword. Any other text stands
in double quotes, with line feeds as they are.

## Main definitions

- `Dot.Graph`: graphs with attributes.
- `Dot.word`: a text as a word of the language.
- `Dot.Graph.source`: the source of a graph.
-/

namespace CykChart.Dot

/-- A named property of a graph, node or edge. -/
structure Attribute where
  /-- The name of the property. -/
  name : String
  /-- Its value. -/
  value : String
  deriving DecidableEq, Repr

/-- A node. -/
structure Node where
  /-- The identifier of the node. -/
  name : String
  /-- Its properties. -/
  attributes : List Attribute
  deriving DecidableEq, Repr

/-- A directed edge. -/
structure Edge where
  /-- The identifier of the node where the edge begins. -/
  source : String
  /-- The identifier of the node where it ends. -/
  target : String
  deriving DecidableEq, Repr

/-- A directed graph with its nodes in ranks. -/
structure Graph where
  /-- The name of the graph. -/
  name : String
  /-- The properties of the graph. -/
  attributes : List Attribute
  /-- The properties that nodes have by default. -/
  nodeDefaults : List Attribute
  /-- The properties that edges have by default. -/
  edgeDefaults : List Attribute
  /-- The nodes, rank by rank. -/
  ranks : List (List Node)
  /-- The edges. -/
  edges : List Edge
  deriving DecidableEq, Repr

/-- Whether a character may begin an identifier. -/
def beginsIdentifier (c : Char) : Bool :=
  c.isAlpha || c == '_'

/-- Whether a text is an identifier. -/
def isIdentifier : List Char → Bool
  | [] => false
  | c :: rest => beginsIdentifier c && rest.all fun d => beginsIdentifier d || d.isDigit

/-- Whether a text is a numeral without sign. -/
def isUnsigned (cs : List Char) : Bool :=
  match cs.dropWhile Char.isDigit with
  | [] => !cs.isEmpty
  | '.' :: fraction =>
    fraction.all Char.isDigit && (!fraction.isEmpty || (cs.takeWhile Char.isDigit) != [])
  | _ => false

/-- Whether a text is a numeral. -/
def isNumeral : List Char → Bool
  | '-' :: rest => isUnsigned rest
  | cs => isUnsigned cs

/-- The words that cannot be identifiers, in any case. -/
def keywords : List String :=
  ["node", "edge", "graph", "digraph", "subgraph", "strict"]

/-- A text between double quotes. -/
def inQuotes (cs : List Char) : List Char :=
  '\x22' :: cs.flatMap (fun c => if c = '\x22' then ['\\', c] else [c]) ++ ['\x22']

/-- A text as a word of the language, bare where that is possible. -/
def word (text : String) : String :=
  let cs := text.toList
  let isKeyword := keywords.any fun keyword => keyword.toList == cs.map Char.toLower
  if (isIdentifier cs || isNumeral cs) && !isKeyword then text else String.ofList (inQuotes cs)

/-- Attributes between brackets. -/
def bracketed (attributes : List Attribute) : String :=
  "[" ++ String.intercalate " " (attributes.map fun a => word a.name ++ "=" ++ word a.value) ++ "]"

/-- The line of a node within its rank. -/
def Node.source (node : Node) : String :=
  "\t\t" ++ word node.name ++ " " ++ bracketed node.attributes ++ "\n"

/-- The block of a rank. -/
def rankSource (nodes : List Node) : String :=
  "\t\x7b\n\t\trank=same\n" ++ String.join (nodes.map Node.source) ++ "\t\x7d\n"

/-- The line of an edge. -/
def Edge.line (edge : Edge) : String :=
  "\t" ++ word edge.source ++ " -> " ++ word edge.target ++ "\n"

/-- The line of defaults of one kind. -/
def defaultsLine (kind : String) (attributes : List Attribute) : String :=
  "\t" ++ kind ++ " " ++ bracketed attributes ++ "\n"

/-- The source of a graph. -/
def Graph.source (graph : Graph) : String :=
  "digraph " ++ word graph.name ++ " \x7b\n"
    ++ defaultsLine "graph" graph.attributes
    ++ defaultsLine "node" graph.nodeDefaults
    ++ defaultsLine "edge" graph.edgeDefaults
    ++ String.join (graph.ranks.map rankSource)
    ++ String.join (graph.edges.map Edge.line)
    ++ "\x7d\n"

end CykChart.Dot
