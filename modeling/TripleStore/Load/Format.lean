import TripleStore.Text.Pieces
import TripleStore.Text.Utf8

/-!
Contract: the formats of data files.

Owns: the names of the formats, and the format that the name of a file tells.

Does not own: reading a file of a format.
-/

namespace TripleStore.Load

inductive Format where
  | json
  | jsonLines
  | turtle
deriving DecidableEq, Repr

namespace Format

def name : Format → String
  | json => "json"
  | jsonLines => "jsonl"
  | turtle => "turtle"

def ofExtension? (extension : String) : Option Format :=
  if extension = "json" then some json
  else if extension = "jsonl" ∨ extension = "ndjson" then some jsonLines
  else if extension = "ttl" ∨ extension = "turtle" then some turtle
  else none

/-- The format of a name. Letters may be capital or small, and one name is not the
end of any file's name. -/
def ofName? (name : String) : Option Format :=
  let small := name.map Char.toLower
  if small = "json-lines" then some jsonLines else ofExtension? small

end Format

/-! ## The name of a file -/

def slash : UInt8 := 0x2F

def dot : UInt8 := 0x2E

/-- The last component of a path. Empty pieces and single dots do not count; two dots
name no file. -/
def fileName? (path : List UInt8) : Option (List UInt8) :=
  match ((Text.pieces slash path).filter fun piece => piece ≠ [] ∧ piece ≠ [dot]).getLast? with
  | some name => if name = [dot, dot] then none else some name
  | none => none

/-- What follows the last dot of a file's name, if the name does not start with it. -/
def extension? (path : List UInt8) : Option (List UInt8) := do
  let name ← fileName? path
  let reversed := name.reverse
  let ending := reversed.takeWhile (· ≠ dot)
  match reversed.drop ending.length with
  | _ :: _ :: _ => some ending.reverse
  | _ => none

def Format.ofPath? (path : List UInt8) : Option Format := do
  let characters ← Text.decode? (← extension? path)
  ofExtension? (String.ofList (characters.map Char.toLower))

end TripleStore.Load
