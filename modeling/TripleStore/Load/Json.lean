import TripleStore.Json.Reader
import TripleStore.Load.Error
import TripleStore.Text.Blank
import TripleStore.Text.Lines
import TripleStore.Triple

/-!
Contract: records in JSON, as one document and line by line.

Owns:
- the names of a record's fields and of a document's only field;
- the records of a document;
- the records of a file with one record to a line, whatever reads a single line.

Does not own: the syntax of JSON (`TripleStore.Json`).

A file of lines may have blank ones. They hold no record and are counted all the same.
-/

namespace TripleStore.Load

open TripleStore.Json (Reader)

def recordOf? : List String → Option Record
  | [subject, predicate, object] => some { subject, predicate, object }
  | _ => none

def recordsOf? : List (List Record) → Option (List Record)
  | [records] => some records
  | _ => none

def recordReader : Reader Record :=
  (Reader.fields ["subject", "prop", "object"] .text).refine recordOf?

def documentReader : Reader (List Record) :=
  (Reader.fields ["triples"] (.list recordReader)).refine recordsOf?

def jsonDocument (bytes : List UInt8) : Except Json.Fault (List Record) :=
  documentReader.whole (Text.decode bytes)

def readJson (bytes : List UInt8) : Except LoadError (List Record) :=
  (jsonDocument bytes).mapError .json

/-- What reads the record on a line that is not blank. -/
abbrev LineReader := List Char → Except Json.Fault Record

/-- The record on the line of that number, if the line is not blank. -/
def readLine (recordOn : LineReader) (number : Nat) (line : List UInt8) :
    Except LoadError (Option Record) :=
  match Text.decode? line with
  | none => .error .unreadable
  | some characters =>
      if Text.trimChars characters = [] then
        .ok none
      else
        ((recordOn characters).map some).mapError (.jsonLine number)

def readLinesFrom (recordOn : LineReader) (number : Nat) :
    List (List UInt8) → Except LoadError (List Record)
  | [] => .ok []
  | line :: rest => do
      let record ← readLine recordOn number line
      let records ← readLinesFrom recordOn (number + 1) rest
      return record.toList ++ records

def readLines (recordOn : LineReader) (bytes : List UInt8) : Except LoadError (List Record) :=
  readLinesFrom recordOn 1 (Text.lines bytes)

def jsonRecord : LineReader := fun characters =>
  recordReader.whole (characters.map .char)

def readJsonLines : List UInt8 → Except LoadError (List Record) :=
  readLines jsonRecord

end TripleStore.Load
