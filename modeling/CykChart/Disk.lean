import CykChart.Text.Quoted
import CykChart.Text.Scan
import CykChart.Text.Utf8

/-!
# Files

Grammars are read from text files. A `Disk` is all that reading needs to know about files: the
bytes found under each path, or why there are none. A `Folder` is a disk in memory. It holds files
in directories, and paths are followed through it step by step, so that a file is no directory to
go through and `..` leads back; what lies outside the folder cannot be seen.

A text file is UTF-8, and any of the three usual line ends ends a line.

## Main definitions

- `Disk`, `DiskError`: files as seen by a reader.
- `Disk.readText`: the text of a file.
- `Folder`, `Folder.disk`: files in memory.
-/

namespace CykChart

/-- Why a file cannot be read. -/
inductive DiskError where
  /-- Nothing has the path. -/
  | missing (path : String)
  /-- The path leads to a directory. -/
  | isDirectory (path : String)
  /-- The path leads through a file. -/
  | notDirectory (path : String)
  /-- The file may not be read. -/
  | denied (path : String)
  /-- The path has 4096 bytes or more, or a name in it more than 255. -/
  | nameTooLong (path : String)
  /-- The path holds the character NUL. -/
  | embeddedNul
  /-- The bytes are no UTF-8 text. -/
  | undecodable (fault : Text.Utf8.Fault)
  deriving DecidableEq, Repr

/-- An error with its number and the path in quotes. -/
def numbered (number reason path : String) : String :=
  "[Errno " ++ number ++ "] " ++ reason ++ ": " ++ Text.quoted path.toList

/-- The wording of a disk error. -/
def DiskError.message : DiskError → String
  | .missing path => numbered "2" "No such file or directory" path
  | .isDirectory path => numbered "21" "Is a directory" path
  | .notDirectory path => numbered "20" "Not a directory" path
  | .denied path => numbered "13" "Permission denied" path
  | .nameTooLong path => numbered "36" "File name too long" path
  | .embeddedNul => "embedded null byte"
  | .undecodable fault => fault.message

/-- The bytes under each path. -/
abbrev Disk := String → Except DiskError (List UInt8)

/-- The text of a file. -/
def Disk.readText (disk : Disk) (path : String) : Except DiskError (List Char) := do
  let bytes ← disk path
  let text ← (Text.Utf8.decode bytes).mapError .undecodable
  return Text.unixNewlines text

/-- Files in memory, each under the names of the directories that lead to it and its own. -/
structure Folder where
  /-- The files. -/
  files : List (List String × List UInt8)
  deriving DecidableEq, Repr

namespace Folder

/-- What a path leads to. -/
inductive Place where
  /-- A file. -/
  | file (bytes : List UInt8)
  /-- A directory of the folder, by the names that lead to it. -/
  | directory (trail : List String)
  /-- A directory outside the folder. -/
  | outside
  deriving DecidableEq, Repr

/-- Why a path leads nowhere. -/
inductive Obstacle where
  /-- A name is not there. -/
  | missing
  /-- A file is in the way. -/
  | file
  /-- A name is too long. -/
  | longName
  deriving DecidableEq, Repr

/-- Whether there is a directory with a trail. -/
def hasDirectory (folder : Folder) (trail : List String) : Bool :=
  trail.isEmpty || folder.files.any fun (path, _) => trail.isPrefixOf path && trail != path

/-- What has a trail in the folder. -/
def at? (folder : Folder) (trail : List String) : Option Place :=
  match folder.files.lookup trail with
  | some bytes => some (.file bytes)
  | none => if folder.hasDirectory trail then some (.directory trail) else none

/-- One step of a path. An empty name, as between two slashes, and a dot stay where they are. -/
def step (folder : Folder) (place : Place) (name : String) : Except Obstacle Place :=
  match place with
  | .file _ => .error .file
  | .outside =>
    -- Outside there are directories above directories, and no known name.
    if name = "" ∨ name = "." ∨ name = ".." then .ok .outside
    else if name.utf8ByteSize > 255 then .error .longName
    else .error .missing
  | .directory trail =>
    if name = "" ∨ name = "." then .ok place
    else if name = ".." then .ok (if trail.isEmpty then .outside else .directory trail.dropLast)
    else if name.utf8ByteSize > 255 then .error .longName
    else match folder.at? (trail ++ [name]) with
      | some found => .ok found
      | none => .error .missing

/-- What a path leads to. A path that begins with a slash begins outside. -/
def follow (folder : Folder) (path : List Char) : Except Obstacle Place :=
  let beginning := if path.head? = some '/' then Place.outside else Place.directory []
  ((path.splitOn '/').map String.ofList).foldlM folder.step beginning

/-- The files of a folder as a disk. The empty path leads nowhere. -/
def disk (folder : Folder) : Disk := fun path =>
  if path.toList.contains '\x00' then .error .embeddedNul
  else if path = "" then .error (.missing path)
  else if path.utf8ByteSize ≥ 4096 then .error (.nameTooLong path)
  else match folder.follow path.toList with
    | .ok (.file bytes) => .ok bytes
    | .ok _ => .error (.isDirectory path)
    | .error .missing => .error (.missing path)
    | .error .file => .error (.notDirectory path)
    | .error .longName => .error (.nameTooLong path)

end Folder

end CykChart
