import CykChart.Text.Quoted

/-!
# Data handed to a grammar

The operations that build a grammar take data of any kind where they expect a symbol or a body,
and refuse what they cannot use. A refusal shows the datum in a message, so a datum has two texts:
`shown`, in which a text stands for itself, and `quoted`, in which texts have quotes. Both write the
integers in the datum with all their digits; whether that many may be written is for the limit in
force to say.

## Main definitions

- `Datum`: the kinds of data.
- `Datum.shown`, `Datum.quoted`: the two texts.
- `Datum.numbers`: the integers that both of them show.
- `Datum.char?`: the character that a datum is, if it is one.
- `Datum.joined?`: the text that a datum spells, at once or piece by piece.
- `Datum.changeableKind?`: why a datum cannot name an entry.
-/

namespace CykChart

/-- A piece of data of any kind. -/
inductive Datum where
  /-- The absence of a value. -/
  | null
  /-- A truth value. -/
  | bool (value : Bool)
  /-- An integer of any size. -/
  | int (value : Int)
  /-- A text. -/
  | text (value : String)
  /-- A list. -/
  | list (items : List Datum)
  /-- A tuple. -/
  | tuple (items : List Datum)
  /-- Named fields, in order. -/
  | record (fields : List (String × Datum))
  deriving Inhabited, Repr

namespace Datum

/-- Texts with commas between them. -/
def commaSeparated (texts : List String) : String :=
  String.intercalate ", " texts

/-- The texts of a tuple: a single one is followed by a comma. -/
def tupled : List String → String
  | [only] => "(" ++ only ++ ",)"
  | texts => "(" ++ commaSeparated texts ++ ")"

mutual

/-- The text of a datum in which texts, its own included, have quotes. -/
def quoted : Datum → String
  | .null => "None"
  | .bool true => "True"
  | .bool false => "False"
  | .int value => toString value
  | .text value => Text.quoted value.toList
  | .list items => "[" ++ commaSeparated (quotedItems items) ++ "]"
  | .tuple items => tupled (quotedItems items)
  | .record fields => "\x7b" ++ commaSeparated (quotedFields fields) ++ "\x7d"

/-- The quoted texts of items. -/
def quotedItems : List Datum → List String
  | [] => []
  | item :: rest => quoted item :: quotedItems rest

/-- The quoted texts of fields, each after its name. -/
def quotedFields : List (String × Datum) → List String
  | [] => []
  | (name, value) :: rest =>
    (Text.quoted name.toList ++ ": " ++ quoted value) :: quotedFields rest

end

/-- The text of a datum in which a text stands for itself. -/
def shown : Datum → String
  | .text value => value
  | datum => datum.quoted

mutual

/-- The integers in a datum, in the order in which its texts show them. -/
def numbers : Datum → List Int
  | .int value => [value]
  | .list items | .tuple items => numbersOfItems items
  | .record fields => numbersOfFields fields
  | .null | .bool _ | .text _ => []

/-- The integers in items. -/
def numbersOfItems : List Datum → List Int
  | [] => []
  | item :: rest => numbers item ++ numbersOfItems rest

/-- The integers in the values of fields. -/
def numbersOfFields : List (String × Datum) → List Int
  | [] => []
  | (_, value) :: rest => numbers value ++ numbersOfFields rest

end

/-- The characters of a text; none for data of other kinds. -/
def chars? : Datum → Option (List Char)
  | .text value => some value.toList
  | _ => none

/-- The character that makes up a text of length one. -/
def char? (datum : Datum) : Option Char :=
  match datum.chars? with
  | some [c] => some c
  | _ => none

/-- The characters that a text holds, or that the texts of a list or tuple hold together; none
where a list or tuple holds data of other kinds, and for all other data. -/
def joined? : Datum → Option (List Char)
  | .text value => some value.toList
  | .list items | .tuple items => (items.mapM chars?).map List.flatten
  | _ => none

mutual

/-- The kind of the first part of a datum that changes with its content, for lists and records. A
datum with such a part, which may stand within tuples, cannot name an entry. -/
def changeableKind? : Datum → Option String
  | .list _ => some "list"
  | .record _ => some "dict"
  | .tuple items => firstChangeable? items
  | .null | .bool _ | .int _ | .text _ => none

/-- The kind of the first such part of items. -/
def firstChangeable? : List Datum → Option String
  | [] => none
  | item :: rest => (changeableKind? item).or (firstChangeable? rest)

end

end Datum

end CykChart
