import TripleStore.Json.Scan

/-!
Contract: why a data file cannot be loaded.

Owns: the causes, and how the wording of each starts.

Does not own: deciding which cause a file gives rise to.
-/

namespace TripleStore.Load

inductive LoadError where
  /-- The file, or a line of it as text, cannot be had. -/
  | unreadable
  | json (fault : Json.Fault)
  /-- The line, counted from one, is not a record in JSON. -/
  | jsonLine (line : Nat) (fault : Json.Fault)
  | turtle
  /-- No format has this name, or no format is told by this path. -/
  | unknownFormat (name : String)
deriving DecidableEq, Repr

/-- How the wording of the error starts. What follows the colon is left to whoever
reports it, except for the name of an unknown format. -/
def LoadError.message : LoadError → String
  | unreadable => "i/o error: "
  | json _ => "invalid JSON: "
  | jsonLine line _ => "invalid JSON on line " ++ toString line ++ ": "
  | turtle => "invalid Turtle: "
  | unknownFormat name => "unknown data format: " ++ name

end TripleStore.Load
