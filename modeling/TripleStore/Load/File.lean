import TripleStore.Load.Format
import TripleStore.Load.Json
import TripleStore.Load.Turtle
import TripleStore.Store.Basic

/-!
Contract: the store that a data file holds.

Owns: the format in which a file is read, and the faults of files that cannot be.

Does not own: the formats (`TripleStore.Load.Json`, `TripleStore.Load.Turtle`), and
opening files.

The format is settled before the file is looked at.
-/

namespace TripleStore.Load

inductive Source where
  | missing
  /-- A directory, which can be opened and not be read. -/
  | directory
  | file (bytes : List UInt8)
deriving Repr

def readRecords (format : Format) (bytes : List UInt8) : Except LoadError (List Record) :=
  match format with
  | .json => readJson bytes
  | .jsonLines => readJsonLines bytes
  | .turtle => readTurtle bytes

def unreadableFault : Format → LoadError
  | .json => .json .unreadable
  | .jsonLines => .unreadable
  | .turtle => .turtle

def Source.records (source : Source) (format : Format) : Except LoadError (List Record) :=
  match source with
  | missing => .error .unreadable
  | directory => .error (unreadableFault format)
  | file bytes => readRecords format bytes

/-- The format that is given, or else the one that the path tells. -/
def formatFor (path : String) (given : Option Format) : Except LoadError Format :=
  match given <|> Format.ofPath? path.toUTF8.toList with
  | some format => .ok format
  | none => .error (.unknownFormat path)

def loadStore (path : String) (given : Option Format) (source : Source) :
    Except LoadError Store := do
  let format ← formatFor path given
  return .ofRecords (← source.records format)

end TripleStore.Load
