import TripleStore.Shell.Run

/-!
Contract: the shell as a program.

Owns: reading the environment, the data file and the lines of standard input, and
writing what a session shows.

Does not own: what any of it means (`TripleStore.Shell`).
-/

namespace TripleStore.Main

open TripleStore.Shell

def environment : IO (Setting → Option String) := do
  let dataFile ← IO.getEnv Setting.dataFile.name
  let dataFormat ← IO.getEnv Setting.dataFormat.name
  let cellWidth ← IO.getEnv Setting.cellWidth.name
  return fun
    | .dataFile => dataFile
    | .dataFormat => dataFormat
    | .cellWidth => cellWidth

def sourceAt (path : String) : IO Load.Source := do
  match ← (IO.FS.readBinFile path).toBaseIO with
  | .ok bytes => return .file bytes.toList
  | .error (.noFileOrDirectory ..) => return .missing
  | .error (.permissionDenied ..) => return .missing
  | .error _ => return .directory

def dataFile? (argument : Option String) (lookup : Setting → Option String) :
    Option String :=
  (Settings.load argument lookup).toOption.map (·.dataFile)

/-- The bytes up to the next newline or the end of the input, the newline included. -/
partial def readLine (input : IO.FS.Stream) (read : ByteArray) : IO ByteArray := do
  let next ← input.read 1
  if next.isEmpty then
    return read
  else if next.toList = [Text.newline] then
    return read ++ next
  else
    readLine input (read ++ next)

def display : Message → IO Unit
  | .result text => do
      let output ← IO.getStdout
      output.putStr text
      output.flush
  | .fault text => do
      let output ← IO.getStderr
      output.putStr text
      output.flush

partial def converse (ready : Readiness) (input : IO.FS.Stream) : IO Ending := do
  match Text.lines (← readLine input .empty).toList with
  | [] => return .finished
  | line :: _ =>
      match react ready.store ready.cellWidth line with
      | .stop ending => return ending
      | .proceed messages => do
          messages.forM display
          converse ready input

end TripleStore.Main

def main (arguments : List String) : IO UInt32 := do
  let argument := arguments.head?
  let lookup ← TripleStore.Main.environment
  let source ←
    match TripleStore.Main.dataFile? argument lookup with
    | some path => TripleStore.Main.sourceAt path
    | none => pure .missing
  match TripleStore.Shell.prepare argument lookup fun _ => source with
  | none => return TripleStore.Shell.unpreparedCode.toUInt32
  | some ready => do
      let ending ← TripleStore.Main.converse ready (← IO.getStdin)
      return ending.code.toUInt32
