import TripleStore.Load.File
import TripleStore.Shell.Session
import TripleStore.Shell.Settings

/-!
Contract: one run of the shell from its settings to its end.

Owns: what a run needs before its session, and how a run ends.

Does not own: the environment, files, and standard input and output
(`TripleStore.Main`).

A run that lacks settings or a store ends at once and shows nothing.
-/

namespace TripleStore.Shell

structure Readiness where
  store : Store
  cellWidth : Nat

/-- What a run needs before its session, if its settings and its data file are sound. -/
def prepare (argument : Option String) (lookup : Setting → Option String)
    (source : String → Load.Source) : Option Readiness :=
  match Settings.load argument lookup with
  | .error _ => none
  | .ok settings =>
      match Load.loadStore settings.dataFile settings.dataFormat (source settings.dataFile) with
      | .error _ => none
      | .ok store => some { store, cellWidth := settings.cellWidth }

structure Outcome where
  messages : List Message
  code : Nat
deriving DecidableEq, Repr

def unpreparedCode : Nat := 1

def run (argument : Option String) (lookup : Setting → Option String)
    (source : String → Load.Source) (input : List UInt8) : Outcome :=
  match prepare argument lookup source with
  | none => { messages := [], code := unpreparedCode }
  | some ready =>
      let (messages, ending) := session ready.store ready.cellWidth (Text.lines input)
      { messages, code := ending.code }

namespace Outcome

def results (outcome : Outcome) : String :=
  String.join (outcome.messages.filterMap fun message =>
    match message with
    | .result text => some text
    | .fault _ => none)

def faults (outcome : Outcome) : String :=
  String.join (outcome.messages.filterMap fun message =>
    match message with
    | .result _ => none
    | .fault text => some text)

end Outcome

end TripleStore.Shell
