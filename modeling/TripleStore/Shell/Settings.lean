import TripleStore.Load.Format
import TripleStore.Text.Decimal

/-!
Contract: the settings of the shell, from an argument and from the environment.

Owns: the names and admissible values of the settings, and which fault is reported.

Does not own: reading the environment.
-/

namespace TripleStore.Shell

open TripleStore.Text (decimalValue)

inductive Setting where
  | dataFile
  | dataFormat
  | cellWidth
deriving DecidableEq, Repr

def Setting.name : Setting → String
  | dataFile => "SIMPLEGRAPH_DATA_FILE"
  | dataFormat => "SIMPLEGRAPH_DATA_FORMAT"
  | cellWidth => "SIMPLEGRAPH_CELL_WIDTH"

/-- The cell width that leaves room for one character and the mark of a cut. -/
def minimumCellWidth : Nat := 3

def defaultCellWidth : Nat := 30

/-- Widths are numbers of one machine word. -/
def widthBound : Nat := UInt64.size

structure Settings where
  dataFile : String
  /-- The format given explicitly; otherwise the name of the file tells it. -/
  dataFormat : Option Load.Format
  cellWidth : Nat
deriving DecidableEq, Repr

inductive SettingsError where
  | missing (setting : Setting)
  | emptyDataFile
  | badFormat (value : String)
  | badWidth (value : String)
deriving DecidableEq, Repr

namespace SettingsError

def setting : SettingsError → Setting
  | missing setting => setting
  | emptyDataFile => .dataFile
  | badFormat _ => .dataFormat
  | badWidth _ => .cellWidth

def detail : SettingsError → String
  | missing _ => ""
  | emptyDataFile => "must not be empty"
  | badFormat value => "'" ++ value ++ "' is not one of json, jsonl, turtle"
  | badWidth value =>
      "'" ++ value ++ "' is not a width of at least " ++ toString minimumCellWidth

def message (error : SettingsError) : String :=
  match error with
  | missing setting => "missing required environment variable: " ++ setting.name
  | _ => "invalid value for " ++ error.setting.name ++ ": " ++ error.detail

end SettingsError

/-- The number that a text writes: at most one plus sign, then digits and nothing
else, and a number below the bound. -/
def width? (text : String) : Option Nat :=
  let digits :=
    match text.toList with
    | '+' :: rest => rest
    | characters => characters
  if digits ≠ [] ∧ digits.all Char.isDigit ∧ decimalValue digits < widthBound then
    some (decimalValue digits)
  else
    none

namespace Settings

/-- The data file, which an argument gives before the environment does. -/
def dataFileFrom (argument : Option String) (lookup : Setting → Option String) :
    Except SettingsError String :=
  match argument, lookup .dataFile with
  | some path, _ => .ok path
  | none, none => .error (.missing .dataFile)
  | none, some path => if path = "" then .error .emptyDataFile else .ok path

def dataFormatFrom (lookup : Setting → Option String) :
    Except SettingsError (Option Load.Format) :=
  match lookup .dataFormat with
  | none => .ok none
  | some value =>
      match Load.Format.ofName? value with
      | some format => .ok (some format)
      | none => .error (.badFormat value)

def cellWidthFrom (lookup : Setting → Option String) : Except SettingsError Nat :=
  match lookup .cellWidth with
  | none => .ok defaultCellWidth
  | some value =>
      match width? value with
      | some width => if minimumCellWidth ≤ width then .ok width else .error (.badWidth value)
      | none => .error (.badWidth value)

/-- The settings, or the first fault among data file, format and width. -/
def load (argument : Option String) (lookup : Setting → Option String) :
    Except SettingsError Settings := do
  let dataFile ← dataFileFrom argument lookup
  let dataFormat ← dataFormatFrom lookup
  let cellWidth ← cellWidthFrom lookup
  return { dataFile, dataFormat, cellWidth }

end Settings

end TripleStore.Shell
