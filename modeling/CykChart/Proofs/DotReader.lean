import CykChart.Proofs.DotWords
import CykChart.Proofs.Pieces

/-!
# Reading graphs in the DOT language

The statements of a source are read from its words and signs, each statement by its first words. The
source of a graph is read back as that graph, whatever names and attributes it has, as long as none
of its texts has a backslash.

## Main definitions

- `Dot.read?`: the graph of a source.
- `Dot.Graph.texts`, `Dot.Plain`: the texts of a graph, and texts without backslashes.
- `Dot.Graph.tokens`: the words and signs of a graph.

## Main results

- `Dot.tokens?_source`: the source of a graph consists of its words and signs.
- `Dot.readGraph_tokens`: they are read as the graph.
- `Dot.read?_source`: the source of a graph is read back.
-/

namespace CykChart.Dot

/-! ## Statements -/

/-- What reads something off the front of a source. -/
abbrev Reader (α : Type) : Type :=
  List Token → Option (α × List Token)

/-- What a reader reads again and again, up to a number of times. -/
def manyUpTo {α : Type} (reader : Reader α) : Nat → List Token → List α × List Token
  | 0, tokens => ([], tokens)
  | bound + 1, tokens =>
    match reader tokens with
    | some (a, rest) =>
      let (as, last) := manyUpTo reader bound rest
      (a :: as, last)
    | none => ([], tokens)

/-- What a reader reads again and again. Whatever is read is not empty, so there are no more times
than tokens. -/
def many {α : Type} (reader : Reader α) (tokens : List Token) : List α × List Token :=
  manyUpTo reader tokens.length tokens

/-- Reads an attribute. -/
def readAttribute : Reader Attribute
  | .name name :: .sign '=' :: .name value :: rest => some (⟨name, value⟩, rest)
  | _ => none

/-- Reads attributes between brackets. -/
def readBracketed : Reader (List Attribute)
  | .sign '[' :: tokens =>
    match many readAttribute tokens with
    | (attributes, .sign ']' :: rest) => some (attributes, rest)
    | _ => none
  | _ => none

/-- Reads the defaults of one kind. -/
def readDefaults (kind : List Char) : Reader (List Attribute)
  | .keyword text :: rest => if text = kind then readBracketed rest else none
  | _ => none

/-- Reads a node. -/
def readNode : Reader Node
  | .name name :: tokens => (readBracketed tokens).map fun (attributes, rest) =>
    (⟨name, attributes⟩, rest)
  | _ => none

/-- Reads a rank. -/
def readRank : Reader (List Node)
  | .sign '\x7b' :: .name "rank" :: .sign '=' :: .name "same" :: tokens =>
    match many readNode tokens with
    | (nodes, .sign '\x7d' :: rest) => some (nodes, rest)
    | _ => none
  | _ => none

/-- Reads an edge. -/
def readEdge : Reader Edge
  | .name source :: .arrow :: .name target :: rest => some (⟨source, target⟩, rest)
  | _ => none

/-- Reads the statements of a graph. -/
def readBody (name : String) (tokens : List Token) : Option Graph := do
  let (attributes, tokens) ← readDefaults "graph".toList tokens
  let (nodeDefaults, tokens) ← readDefaults "node".toList tokens
  let (edgeDefaults, tokens) ← readDefaults "edge".toList tokens
  let (ranks, tokens) := many readRank tokens
  let (edges, tokens) := many readEdge tokens
  if tokens = [.sign '\x7d'] then
    some { name, attributes, nodeDefaults, edgeDefaults, ranks, edges }
  else none

/-- Reads a directed graph. -/
def readGraph : List Token → Option Graph
  | .keyword ['d', 'i', 'g', 'r', 'a', 'p', 'h'] :: .name name :: .sign '\x7b' :: tokens =>
    readBody name tokens
  | _ => none

/-- The graph of a source. -/
def read? (cs : List Char) : Option Graph :=
  (tokens? cs).bind readGraph

/-! ## The texts of a graph -/

/-- The texts of an attribute. -/
def Attribute.texts (property : Attribute) : List String :=
  [property.name, property.value]

/-- The texts of a node. -/
def Node.texts (node : Node) : List String :=
  node.name :: node.attributes.flatMap Attribute.texts

/-- The texts of an edge. -/
def Edge.texts (edge : Edge) : List String :=
  [edge.source, edge.target]

/-- The texts of a graph. -/
def Graph.texts (graph : Graph) : List String :=
  graph.name :: ((graph.attributes ++ graph.nodeDefaults ++ graph.edgeDefaults).flatMap
    Attribute.texts ++ (graph.ranks.flatten.flatMap Node.texts ++ graph.edges.flatMap Edge.texts))

/-- Texts without backslashes. -/
def Plain (texts : List String) : Prop :=
  ∀ text ∈ texts, '\\' ∉ text.toList

section Plain

variable {text : String} {texts others : List String}

/-- Texts have no backslashes when the first one and the others have none. -/
theorem plain_cons : Plain (text :: texts) ↔ '\\' ∉ text.toList ∧ Plain texts :=
  List.forall_mem_cons

/-- The texts of two lists have no backslashes when those of each have none. -/
theorem plain_append : Plain (texts ++ others) ↔ Plain texts ∧ Plain others :=
  List.forall_mem_append

/-- When the texts of many things have no backslashes, those of each have none. -/
theorem Plain.of_mem_flatMap {α : Type} {as : List α} {f : α → List String}
    (h : Plain (as.flatMap f)) {a : α} (ha : a ∈ as) : Plain (f a) :=
  fun text htext => h text (List.mem_flatMap_of_mem ha htext)

end Plain

/-! ## The words and signs of a graph -/

/-- The words and signs of an attribute. -/
def Attribute.tokens (property : Attribute) : List Token :=
  [.name property.name, .sign '=', .name property.value]

/-- The words and signs of attributes between brackets. -/
def bracketedTokens (attributes : List Attribute) : List Token :=
  .sign '[' :: (attributes.flatMap Attribute.tokens ++ [.sign ']'])

/-- The words and signs of defaults. -/
def defaultsTokens (kind : String) (attributes : List Attribute) : List Token :=
  .keyword kind.toList :: bracketedTokens attributes

/-- The words and signs of a node. -/
def Node.tokens (node : Node) : List Token :=
  .name node.name :: bracketedTokens node.attributes

/-- The words and signs of a rank. -/
def rankTokens (nodes : List Node) : List Token :=
  .sign '\x7b' :: .name "rank" :: .sign '=' :: .name "same" ::
    (nodes.flatMap Node.tokens ++ [.sign '\x7d'])

/-- The words and signs of an edge. -/
def Edge.tokens (edge : Edge) : List Token :=
  [.name edge.source, .arrow, .name edge.target]

/-- The words and signs of a graph. -/
def Graph.tokens (graph : Graph) : List Token :=
  .keyword "digraph".toList :: .name graph.name :: .sign '\x7b' ::
    (defaultsTokens "graph" graph.attributes ++ (defaultsTokens "node" graph.nodeDefaults ++
      (defaultsTokens "edge" graph.edgeDefaults ++ (graph.ranks.flatMap rankTokens ++
        (graph.edges.flatMap Edge.tokens ++ [.sign '\x7d'])))))

/-- An attribute as it stands between brackets. -/
def Attribute.assignment (property : Attribute) : List Char :=
  (word property.name).toList ++ '=' :: (word property.value).toList

/-- A text that begins and ends between words is read as words and signs. -/
def Lexes (cs : List Char) (tokens : List Token) : Prop :=
  ∀ taken rest,
    Reading.lex ⟨taken, .between⟩ (cs ++ rest) =
      Reading.lex ⟨tokens.reverse ++ taken, .between⟩ rest

section Lexes

variable {cs ds : List Char} {tokens others : List Token} {text : String}

/-- Texts that are read between words are read one after the other. -/
theorem Lexes.append (h : Lexes cs tokens) (h' : Lexes ds others) :
    Lexes (cs ++ ds) (tokens ++ others) := by
  intro taken rest
  rw [List.append_assoc, h taken, h', List.reverse_append, List.append_assoc]

/-- So are the texts of many things. -/
theorem Lexes.flatMap {α : Type} {as : List α} {f : α → List Char} {g : α → List Token}
    (h : ∀ a ∈ as, Lexes (f a) (g a)) : Lexes (as.flatMap f) (as.flatMap g) := by
  induction as with
  | nil => exact fun taken rest => rfl
  | cons a as ih =>
    obtain ⟨ha, has⟩ := List.forall_mem_cons.1 h
    rw [List.flatMap_cons, List.flatMap_cons]
    exact ha.append (ih has)

/-- A word in front of what ends it. -/
theorem Lexes.word (h : Lexes cs tokens) (hplain : '\\' ∉ text.toList) (hcs : EndsWord cs) :
    Lexes ((Dot.word text).toList ++ cs) (.name text :: tokens) := by
  intro taken rest
  have hend : EndsWord (cs ++ rest) := by
    obtain ⟨c, later, rfl, hc⟩ := hcs
    exact ⟨c, later ++ rest, rfl, hc⟩
  rw [List.append_assoc, lex_word hplain hend, h, List.reverse_cons, List.append_assoc]
  rfl

/-- An attribute in front of what ends a word. -/
theorem Lexes.assignment {property : Attribute} (h : Lexes cs tokens)
    (hplain : Plain property.texts) (hcs : EndsWord cs) :
    Lexes (property.assignment ++ cs) (property.tokens ++ tokens) := by
  obtain ⟨hname, hvalue, -⟩ := by simpa only [Attribute.texts, plain_cons] using hplain
  have hequals : Lexes ['='] [.sign '='] := fun taken rest => rfl
  have hrest := (hequals.append (h.word hvalue hcs)).word hname ⟨'=', _, rfl, by decide +kernel⟩
  simpa [Attribute.tokens, Attribute.assignment] using hrest

/-- Attributes up to the bracket, with a space before each of them. -/
theorem lexes_assignments {properties : List Attribute}
    (hplain : Plain (properties.flatMap Attribute.texts)) :
    EndsWord (properties.flatMap (' ' :: ·.assignment) ++ [']']) ∧
      Lexes (properties.flatMap (' ' :: ·.assignment) ++ [']'])
        (properties.flatMap Attribute.tokens ++ [.sign ']']) := by
  induction properties with
  | nil => exact ⟨⟨']', [], rfl, by decide +kernel⟩, fun taken rest => rfl⟩
  | cons property properties ih =>
    rw [List.flatMap_cons, plain_append] at hplain
    obtain ⟨hends, hlexes⟩ := ih hplain.2
    refine ⟨⟨' ', _, rfl, by decide +kernel⟩, ?_⟩
    have hspace : Lexes [' '] [] := fun taken rest => rfl
    simpa using hspace.append (hlexes.assignment hplain.1 hends)

/-- Attributes stand between brackets, with spaces between them. -/
theorem toList_bracketed (properties : List Attribute) :
    (bracketed properties).toList =
      '[' :: ([' '].intercalate (properties.map Attribute.assignment) ++ [']']) := by
  have hassignment : (properties.map fun property =>
      word property.name ++ "=" ++ word property.value).map String.toList =
        properties.map Attribute.assignment := by
    simp [Attribute.assignment, Function.comp_def]
  rw [bracketed, String.toList_append, String.toList_append, String.toList_intercalate,
    hassignment]
  rfl

/-- Attributes between brackets are read as an opening bracket, the attributes and a closing one. -/
theorem lexes_bracketed {properties : List Attribute}
    (hplain : Plain (properties.flatMap Attribute.texts)) :
    Lexes (bracketed properties).toList (bracketedTokens properties) := by
  have hopen : Lexes ['['] [.sign '['] := fun taken rest => rfl
  rw [toList_bracketed]
  cases properties with
  | nil => exact fun taken rest => rfl
  | cons property properties =>
    rw [List.flatMap_cons, plain_append] at hplain
    obtain ⟨hends, hlexes⟩ := lexes_assignments hplain.2
    have hall := hopen.append (hlexes.assignment hplain.1 hends)
    rw [List.map_cons, intercalate_cons_eq_flatMap, List.flatMap_map, List.append_assoc]
    simpa [bracketedTokens] using hall

/-- The line of a node is read as its name and its attributes. -/
theorem lexes_node {node : Node} (hplain : Plain node.texts) :
    Lexes node.source.toList node.tokens := by
  obtain ⟨hname, hattributes⟩ := plain_cons.1 hplain
  have htabs : Lexes ['\t', '\t'] [] := fun taken rest => rfl
  have hspace : Lexes [' '] [] := fun taken rest => rfl
  have hline : Lexes ['\n'] [] := fun taken rest => rfl
  have hrest := (hspace.append (lexes_bracketed hattributes)).append hline
  have hall := htabs.append (hrest.word hname ⟨' ', _, rfl, by decide +kernel⟩)
  simpa [Node.source, Node.tokens] using hall

/-- The block of a rank is read as a brace, its attribute, its nodes and a closing brace. -/
theorem lexes_rank {nodes : List Node} (hplain : Plain (nodes.flatMap Node.texts)) :
    Lexes (rankSource nodes).toList (rankTokens nodes) := by
  have hopen : Lexes "\t\x7b\n\t\trank=same\n".toList
      [.sign '\x7b', .name "rank", .sign '=', .name "same"] := fun taken rest => rfl
  have hclose : Lexes "\t\x7d\n".toList [.sign '\x7d'] := fun taken rest => rfl
  have hnodes : Lexes (nodes.flatMap fun node => node.source.toList)
      (nodes.flatMap Node.tokens) :=
    .flatMap fun node hnode => lexes_node (hplain.of_mem_flatMap hnode)
  -- A node line is lexed whatever follows it, so the lines of a rank are lexed one by one.
  have hall := hopen.append (hnodes.append hclose)
  unfold rankSource
  rw [String.toList_append, String.toList_append, String.toList_join, List.flatMap_map,
    List.append_assoc]
  exact hall

/-- The line of an edge is read as an arrow between two names. -/
theorem lexes_edge {edge : Edge} (hplain : Plain edge.texts) :
    Lexes edge.line.toList edge.tokens := by
  obtain ⟨hsource, htarget, -⟩ := by simpa only [Edge.texts, plain_cons] using hplain
  have htab : Lexes ['\t'] [] := fun taken rest => rfl
  have harrow : Lexes " -> ".toList [.arrow] := fun taken rest => rfl
  have hline : Lexes ['\n'] [] := fun taken rest => rfl
  have hrest := harrow.append (hline.word htarget ⟨'\n', _, rfl, by decide +kernel⟩)
  have hall := htab.append (hrest.word hsource ⟨' ', _, rfl, by decide +kernel⟩)
  simpa [Edge.line, Edge.tokens] using hall

/-- The line of defaults, whose kind is a keyword. -/
theorem lexes_defaults {kind : String} {properties : List Attribute}
    (hkind : Lexes (kind.toList ++ [' ']) [.keyword kind.toList])
    (hplain : Plain (properties.flatMap Attribute.texts)) :
    Lexes (defaultsLine kind properties).toList (defaultsTokens kind properties) := by
  have htab : Lexes ['\t'] [] := fun taken rest => rfl
  have hline : Lexes ['\n'] [] := fun taken rest => rfl
  have hall := htab.append (hkind.append ((lexes_bracketed hplain).append hline))
  simpa [defaultsLine, defaultsTokens] using hall

/-- The source of a graph consists of its words and signs. -/
theorem tokens?_source {graph : Graph} (hplain : Plain graph.texts) :
    tokens? graph.source.toList = some graph.tokens := by
  obtain ⟨hname, hall⟩ := plain_cons.1 hplain
  simp only [plain_append, List.flatMap_append] at hall
  obtain ⟨⟨⟨hattributes, hnodeDefaults⟩, hedgeDefaults⟩, hnodes, hedges⟩ := hall
  -- Each part of the source is lexed whatever follows it.
  have hranks : Lexes (graph.ranks.flatMap fun nodes => (rankSource nodes).toList)
      (graph.ranks.flatMap rankTokens) := .flatMap fun nodes hrank =>
    lexes_rank fun text htext => by
      obtain ⟨node, hnode, hin⟩ := List.mem_flatMap.1 htext
      exact hnodes text (List.mem_flatMap.2 ⟨node, List.mem_flatten.2 ⟨_, hrank, hnode⟩, hin⟩)
  have hlines : Lexes (graph.edges.flatMap fun edge => edge.line.toList)
      (graph.edges.flatMap Edge.tokens) :=
    .flatMap fun edge hedge => lexes_edge (hedges.of_mem_flatMap hedge)
  have hbegin : Lexes "digraph ".toList [.keyword "digraph".toList] := fun taken rest => rfl
  have hopen : Lexes " \x7b\n".toList [.sign '\x7b'] := fun taken rest => rfl
  have hclose : Lexes "\x7d\n".toList [.sign '\x7d'] := fun taken rest => rfl
  have hgraph : Lexes (defaultsLine "graph" graph.attributes).toList _ :=
    lexes_defaults (fun taken rest => rfl) hattributes
  have hnode : Lexes (defaultsLine "node" graph.nodeDefaults).toList _ :=
    lexes_defaults (fun taken rest => rfl) hnodeDefaults
  have hedge : Lexes (defaultsLine "edge" graph.edgeDefaults).toList _ :=
    lexes_defaults (fun taken rest => rfl) hedgeDefaults
  have hbody := hgraph.append (hnode.append (hedge.append (hranks.append (hlines.append hclose))))
  -- The name of the graph ends at the blank before the brace.
  have hsource := hbegin.append
    ((hopen.append hbody).word hname ⟨' ', _, rfl, by decide +kernel⟩)
  have htext : graph.source.toList = "digraph ".toList ++ ((word graph.name).toList ++
      (" \x7b\n".toList ++ ((defaultsLine "graph" graph.attributes).toList ++
        ((defaultsLine "node" graph.nodeDefaults).toList ++
          ((defaultsLine "edge" graph.edgeDefaults).toList ++
            ((graph.ranks.flatMap fun nodes => (rankSource nodes).toList) ++
              ((graph.edges.flatMap fun edge => edge.line.toList) ++ "\x7d\n".toList))))))) := by
    unfold Graph.source
    simp only [String.toList_append, String.toList_join, List.flatMap_map, List.append_assoc]
  have hlex := hsource [] []
  rw [List.append_nil, List.append_nil] at hlex
  rw [tokens?, htext, hlex]
  simp [Reading.lex, Reading.settle, Graph.tokens]

end Lexes

/-! ## What statements are read as -/

section Readers

variable {α : Type} {reader : Reader α} {write : α → List Token} {as : List α}
  {stop rest : List Token}

/-- What is written one after the other is read so, up to where nothing more can be read. -/
theorem manyUpTo_flatMap (hread : ∀ a ∈ as, ∀ rest, reader (write a ++ rest) = some (a, rest))
    (hstop : reader stop = none) {bound : Nat} (hbound : as.length ≤ bound) :
    manyUpTo reader bound (as.flatMap write ++ stop) = (as, stop) := by
  induction as generalizing bound with
  | nil =>
    cases bound with
    | zero => rfl
    | succ bound => simp [manyUpTo, hstop]
  | cons a as ih =>
    obtain ⟨ha, has⟩ := List.forall_mem_cons.1 hread
    cases bound with
    -- The bound leaves a step for each item that was written.
    | zero => exact absurd hbound (by simp)
    | succ bound =>
      have hlater := ih has (Nat.le_of_succ_le_succ hbound)
      rw [manyUpTo, List.flatMap_cons, List.append_assoc, ha]
      simp [hlater]

/-- Things that take at least one word each are no more than the words, so there are enough tries to
read them all. -/
theorem length_le_length_flatMap (hne : ∀ a ∈ as, write a ≠ []) :
    as.length ≤ (as.flatMap write).length := by
  induction as with
  | nil => exact Nat.le_refl 0
  | cons a as ih =>
    obtain ⟨ha, has⟩ := List.forall_mem_cons.1 hne
    have hpos : 0 < (write a).length := List.length_pos_iff.2 ha
    have hlater := ih has
    rw [List.flatMap_cons, List.length_cons, List.length_append]
    omega

/-- Things of one kind are read until something else stands there. -/
theorem many_flatMap (hread : ∀ a ∈ as, ∀ rest, reader (write a ++ rest) = some (a, rest))
    (hstop : reader stop = none) : many reader (as.flatMap write ++ stop) = (as, stop) := by
  refine manyUpTo_flatMap hread hstop ?_
  -- Nothing is written as no token, because that could be read where nothing can.
  have hne : ∀ a ∈ as, write a ≠ [] := fun a ha hnil => by
    have hsome := hread a ha stop
    rw [hnil, List.nil_append, hstop] at hsome
    exact absurd hsome (by simp)
  rw [List.length_append]
  exact (length_le_length_flatMap hne).trans (Nat.le_add_right _ _)

/-- Attributes between brackets are read back. -/
theorem readBracketed_tokens (properties : List Attribute) (rest : List Token) :
    readBracketed (bracketedTokens properties ++ rest) = some (properties, rest) := by
  have hmany : many readAttribute (properties.flatMap Attribute.tokens ++ .sign ']' :: rest) =
      (properties, .sign ']' :: rest) :=
    many_flatMap (fun property _ rest => rfl) rfl
  simp [bracketedTokens, readBracketed, hmany]

/-- Defaults are read back behind the word for what they are defaults of. -/
theorem readDefaults_tokens (kind : String) (properties : List Attribute) (rest : List Token) :
    readDefaults kind.toList (defaultsTokens kind properties ++ rest) =
      some (properties, rest) := by
  simp [defaultsTokens, readDefaults, readBracketed_tokens]

/-- A node is read back. -/
theorem readNode_tokens (node : Node) (rest : List Token) :
    readNode (node.tokens ++ rest) = some (node, rest) := by
  simp [Node.tokens, readNode, readBracketed_tokens]

/-- A rank is read back, with its nodes in their order. -/
theorem readRank_tokens (nodes : List Node) (rest : List Token) :
    readRank (rankTokens nodes ++ rest) = some (nodes, rest) := by
  have hmany : many readNode (nodes.flatMap Node.tokens ++ .sign '\x7d' :: rest) =
      (nodes, .sign '\x7d' :: rest) :=
    many_flatMap (fun node _ => readNode_tokens node) rfl
  simp [rankTokens, readRank, hmany]

/-- The words and signs of a graph are read as that graph. -/
theorem readGraph_tokens (graph : Graph) : readGraph graph.tokens = some graph := by
  have hedges : many readEdge (graph.edges.flatMap Edge.tokens ++ [.sign '\x7d']) =
      (graph.edges, [.sign '\x7d']) :=
    many_flatMap (fun edge _ rest => rfl) rfl
  have hranks : many readRank (graph.ranks.flatMap rankTokens ++
      (graph.edges.flatMap Edge.tokens ++ [.sign '\x7d'])) =
        (graph.ranks, graph.edges.flatMap Edge.tokens ++ [.sign '\x7d']) :=
    -- An edge begins with a name, a rank with a brace.
    many_flatMap (fun nodes _ => readRank_tokens nodes) (by cases graph.edges <;> rfl)
  have hbody : readBody graph.name (defaultsTokens "graph" graph.attributes ++
      (defaultsTokens "node" graph.nodeDefaults ++ (defaultsTokens "edge" graph.edgeDefaults ++
        (graph.ranks.flatMap rankTokens ++
          (graph.edges.flatMap Edge.tokens ++ [.sign '\x7d']))))) = some graph := by
    simp only [readBody, readDefaults_tokens, Option.bind_eq_bind, Option.bind_some, hranks, hedges,
      if_true]
  rw [Graph.tokens]
  exact hbody

end Readers

/-- The source of a graph is read back as that graph. -/
theorem read?_source {graph : Graph} (hplain : Plain graph.texts) :
    read? graph.source.toList = some graph := by
  rw [read?, tokens?_source hplain, Option.bind_some, readGraph_tokens]

/-- Other sources are read too: here are fewer blanks and a keyword in capitals. -/
example : (read? "DIGRAPH g\x7bgraph[]node[]edge[]a->\x22node\x22\x7d".toList).map Graph.edges =
    some [⟨"a", "node"⟩] := by
  decide +kernel

end CykChart.Dot
