import CykChart.Disk
import CykChart.Document.Reading
import CykChart.Register
import CykChart.Text.Pattern
import CykChart.Text.WordChar

/-!
# Files of grammars

A file holds one grammar or several. In a file of several, each grammar has a section that begins
with a header, a line with a name and a colon and nothing else; text before the first header is
passed over. A file without headers is one grammar, named after the file.

Sections stand by themselves: one that is blank is passed over, and one that is no grammar is
reported by a warning and keeps no other from being read. A later section of the same name takes
the place of an earlier one if it can be read.

## Main definitions

- `Collection.header`: the pattern of a header.
- `Collection.sections`: the sections of a text.
- `Collection.load`: the grammars of a file.
-/

namespace CykChart.Collection

/-- A named stretch of a file. -/
structure Section where
  /-- The name. -/
  name : String
  /-- The text of the grammar. -/
  text : List Char
  deriving DecidableEq, Repr

/-- The header of a section: on a line of its own a name, which is an ASCII letter and further word
characters, and a colon. White space may follow, also that of blank lines. -/
def header : Text.Pattern where
  before := [.lineStart]
  captured := [.one Text.isAsciiLetter, .many Text.isWordChar]
  after := [.one (· == ':'), .many Text.isBlank, .lineEnd]
  advances := rfl

/-- The sections that begin with headers. -/
def sections (text : List Char) : List Section :=
  (header.split (.first text)).2.map fun (name, between) =>
    ⟨String.ofList (Text.trim name), Text.trim between⟩

/-- The last name of a path. -/
def lastName (path : List Char) : List Char :=
  (path.splitOn '/').getLastD []

/-- A file name without its extension, which is what follows the last dot. -/
def withoutExtension (name : List Char) : List Char :=
  if name.contains '.' then ((name.reverse.dropWhile (· != '.')).drop 1).reverse else name

/-- The sections of a file: all of it is one when it has no headers. -/
def sectionsOfFile (path : String) (text : List Char) : List Section :=
  match header.find? (.first text) with
  | none => [⟨String.ofList (withoutExtension (lastName path.toList)), text⟩]
  | some _ => (sections text).filter (!·.text.isEmpty)

/-- A section that is no grammar. -/
structure Warning where
  /-- The name of the section. -/
  name : String
  /-- Why it is no grammar. -/
  error : ReadError
  deriving Repr

/-- The wording of a warning. -/
def Warning.message (warning : Warning) : String :=
  "Warning: Failed to load grammar '" ++ warning.name ++ "': " ++ warning.error.message

/-- What was read from a file. -/
structure Loading where
  /-- The grammars, by name. -/
  grammars : Register Grammar := {}
  /-- The sections that are no grammars, in order. -/
  warnings : List Warning := []
  deriving Repr

/-- What was read, with one more section. -/
def Loading.add (loading : Loading) (part : Section) : Loading :=
  match Grammar.ofText part.text with
  | .ok g => { loading with grammars := loading.grammars.put part.name g }
  | .error error => { loading with warnings := loading.warnings ++ [⟨part.name, error⟩] }

/-- The lines that the warnings are reported on. -/
def Loading.report (loading : Loading) : String :=
  String.join (loading.warnings.map fun warning => warning.message ++ "\n")

/-- The grammars in a text that was read from a path. -/
def ofText (path : String) (text : List Char) : Loading :=
  (sectionsOfFile path text).foldl Loading.add {}

/-- The grammars of a file. -/
def load (disk : Disk) (path : String) : Except DiskError Loading :=
  ofText path <$> disk.readText path

end CykChart.Collection

namespace CykChart

/-- Why a file is no grammar. -/
inductive FileError where
  /-- The file cannot be read. -/
  | disk (error : DiskError)
  /-- Its text is no grammar. -/
  | text (error : ReadError)
  deriving Repr

/-- The wording of a file error. -/
def FileError.message : FileError → String
  | .disk error => error.message
  | .text error => error.message

/-- The grammar that the whole text of a file describes. -/
def Grammar.ofFile (disk : Disk) (path : String) : Except FileError Grammar := do
  let text ← (disk.readText path).mapError .disk
  (Grammar.ofText text).mapError .text

end CykChart
