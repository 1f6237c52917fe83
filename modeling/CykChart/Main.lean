import CykChart.Console.Session

/-!
# The console program

Reads lines from standard input and prints the answers, until a command or the end of the input
ends the session. Grammars are loaded from the file system. The source of a drawing is written to
its file, from which a renderer for the DOT language can make the picture.
-/

namespace CykChart.Console

/-- The number of an error, which the system may give with the opposite sign. -/
def errorNumber (code : UInt32) : Nat :=
  if code.toNat < 0x80000000 then code.toNat else 0x100000000 - code.toNat

/-- Why the system cannot read a file. -/
def diskError (path : String) : IO.Error → DiskError
  | .inappropriateType _ code _ =>
    if errorNumber code = 20 then .notDirectory path else .isDirectory path
  | .invalidArgument _ code _ =>
    if errorNumber code = 36 then .nameTooLong path else .missing path
  | .permissionDenied _ _ _ => .denied path
  | _ => .missing path

/-- The bytes of a file of the system. -/
def readBytes (path : String) : IO (Except DiskError (List UInt8)) := do
  if path.toList.contains '\x00' then
    return .error .embeddedNul
  try
    let bytes ← IO.FS.readBinFile path
    return .ok bytes.toList
  catch error =>
    return .error (diskError path error)

/-- A disk on which a command finds the file that it needs, and which holds no other. -/
def diskFor : Command → IO Disk
  | .load path => do
    let content ← readBytes path
    return fun asked => if asked = path then content else .error (.missing asked)
  | _ => return fun asked => .error (.missing asked)

/-- Write the sources of drawings to their files. -/
def writeDrawings (drawn : List Rendering) : IO Unit :=
  drawn.forM fun drawing => IO.FS.writeFile drawing.filename drawing.source

/-- A line as it was entered, without the line feed that ends it. -/
def entered (text : String) : String :=
  match text.toList.reverse with
  | '\n' :: rest => String.ofList rest.reverse
  | _ => text

/-- Answer lines until the session ends. -/
partial def serve (input output : IO.FS.Stream) (store : Store) : IO Unit := do
  output.putStr prompt
  output.flush
  let text ← input.getLine
  if text.isEmpty then
    output.putStr farewell
  else
    let command := Command.read (entered text)
    let disk ← diskFor command
    match answer disk store command with
    | none => output.putStr farewell
    | some answer =>
      try
        writeDrawings answer.drawn
        output.putStr answer.printed
      catch error =>
        output.putStr (failure (toString error))
      serve input output answer.store

end CykChart.Console

/-- A session on standard input and output. -/
def main : IO Unit := do
  let output ← IO.getStdout
  output.putStr CykChart.Console.banner
  CykChart.Console.serve (← IO.getStdin) output CykChart.Register.empty
