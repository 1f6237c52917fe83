import CykChart.Grammar.Basic

/-!
# Grammars over bit masks

Filling a chart takes many unions of sets of nonterminals. A grammar that is ready for it numbers
its nonterminals by code point, so that a set of them is a natural number: bit `i` stands for the
nonterminal with number `i`. A mask therefore reads back in order of code points.

## Main definitions

- `BitGrammar`: a grammar with its rules over masks.
- `BitGrammar.bit`, `BitGrammar.mask`: from nonterminals to masks.
- `BitGrammar.symbols`: from masks to nonterminals.
- `commonBits`: what an integer of either sign shares with a mask.
- `BitGrammar.combine`: the heads of the rules that join two sets.
- `Grammar.toBits`: the masks of a grammar that has rules and a start symbol.
-/

namespace CykChart

/-- A rule with two nonterminals in its body. Each field is the bit of a nonterminal. -/
structure BitRule where
  /-- The first nonterminal of the body. -/
  left : Nat
  /-- The second nonterminal of the body. -/
  right : Nat
  /-- The head. -/
  head : Nat
  deriving DecidableEq, Repr

/-- A grammar ready for filling charts. -/
structure BitGrammar where
  /-- The nonterminals by code point; the place of one in this list is its number. -/
  nonterminals : List Char
  /-- The terminals, in order of declaration. -/
  terminals : List Char
  /-- The start symbol. -/
  start : Char
  /-- The terminals that have rules, by code point, with the mask of their heads. -/
  unary : List (Char × Nat)
  /-- The rules with pairs, ordered by the declaration of their heads. -/
  binary : List BitRule
  deriving DecidableEq, Repr

/-- Why a grammar is not ready for filling charts. -/
inductive NotReady where
  /-- It has no rules. -/
  | noRules
  /-- Its start symbol is not set. -/
  | noStart
  deriving DecidableEq, Repr

/-- The wording of a missing part. -/
def NotReady.message : NotReady → String
  | .noRules => "Grammar has no productions"
  | .noStart => "Grammar has no start symbol"

/-- The bit of a symbol in a list that numbers symbols by their places. -/
def bitIn (symbols : List Char) (symbol : Char) : Nat :=
  1 <<< symbols.idxOf symbol

/-- The symbols of a list whose places are the bits set in a number. A negative number stands for
its two's complement, which has infinitely many leading ones. -/
def selectBits : List Char → Int → List Char
  | [], _ => []
  | symbol :: rest, bits =>
    if bits % 2 = 1 then symbol :: selectBits rest (bits / 2) else selectBits rest (bits / 2)

/-- The bits that an integer shares with a mask. A negative number stands for its two's complement:
it has the bits that the number below its opposite does not have. -/
def commonBits : Int → Nat → Nat
  | .ofNat bits, mask => bits &&& mask
  | .negSucc bits, mask => mask ^^^ (bits &&& mask)

namespace BitGrammar

/-- The mask of one nonterminal. -/
def bit (g : BitGrammar) (symbol : Char) : Nat :=
  bitIn g.nonterminals symbol

/-- The bit of the nonterminal that a text names; none for any other text. -/
def bit? (g : BitGrammar) : List Char → Option Nat
  | [symbol] => if symbol ∈ g.nonterminals then some (g.bit symbol) else none
  | _ => none

/-- The nonterminals of a mask, by code point. -/
def symbols (g : BitGrammar) (mask : Int) : List Char :=
  selectBits g.nonterminals mask

/-- The heads of the rules with a terminal as body. -/
def heads (g : BitGrammar) (terminal : Char) : Nat :=
  (g.unary.lookup terminal).getD 0

/-- The heads of the rules whose body takes its first nonterminal from one mask and its second
from another. -/
def combine (g : BitGrammar) (left right : Int) : Nat :=
  g.binary.foldl (fun found rule =>
    if commonBits left rule.left ≠ 0 ∧ commonBits right rule.right ≠ 0 then found ||| rule.head
    else found) 0

end BitGrammar

namespace Grammar

/-- The union of the bits of nonterminals. -/
def maskIn (symbols members : List Char) : Nat :=
  members.foldl (fun mask member => mask ||| bitIn symbols member) 0

/-- The declared nonterminals with a rule for a terminal. -/
def headsOf (g : Grammar) (terminal : Char) : List Char :=
  g.nonterminals.filter fun head => (g.bodies head).contains (.terminal terminal)

/-- The rules with pairs over bits, in the order of the declaration of their heads. -/
def bitRules (g : Grammar) (numbering : List Char) : List BitRule :=
  g.nonterminals.flatMap fun head =>
    (g.bodies head).filterMap fun
      | .terminal _ => none
      | .pair left right =>
        some ⟨bitIn numbering left, bitIn numbering right, bitIn numbering head⟩

/-- The masks of the heads of each terminal that has rules. -/
def unaryMasks (g : Grammar) (numbering : List Char) : List (Char × Nat) :=
  (sortBy symbolLe g.terminals).filterMap fun terminal =>
    match g.headsOf terminal with
    | [] => none
    | heads => some (terminal, maskIn numbering heads)

/-- A grammar with its rules over masks, if nothing is missing. -/
def toBits (g : Grammar) : Except NotReady BitGrammar :=
  let numbering := sortBy symbolLe g.nonterminals
  -- Rules are looked for before the start symbol.
  match g.rules, g.start with
  | [], _ => .error .noRules
  | _ :: _, none => .error .noStart
  | _ :: _, some start =>
    .ok
      { nonterminals := numbering
        terminals := g.terminals
        start
        unary := g.unaryMasks numbering
        binary := g.bitRules numbering }

end Grammar

end CykChart
