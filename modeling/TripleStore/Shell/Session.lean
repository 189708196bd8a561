import TripleStore.Query.Answer
import TripleStore.Table
import TripleStore.Text.Backspace
import TripleStore.Text.Lines

/-!
Contract: queries answered one line after another.

Owns:
- what a line asks for;
- what is shown for an answer and for a fault;
- when a session ends, and whether it ends well.

Does not own: reading lines and showing texts (`TripleStore.Main`).

A fault in one query does not end the session. A line that is no text does.
-/

namespace TripleStore.Shell

inductive Command where
  | nothing
  | quit
  | query (text : String)
deriving DecidableEq, Repr

namespace Command

/-- What the line asks for. Blanks at its two ends do not count. -/
def ofLine (line : String) : Command :=
  let text := Text.trim line
  if text = "" then nothing
  else if text = "quit" ∨ text = "exit" then quit
  else query text

end Command

inductive Message where
  | result (text : String)
  | fault (text : String)
deriving DecidableEq, Repr

/-- What is shown for a query: the table of its answer and the number of rows, or the
fault. -/
def respond (store : Store) (cellWidth : Nat) (query : String) : Message :=
  match Query.answer store query with
  | .ok answer =>
      .result (Table.render cellWidth answer.grid ++ "(" ++ toString answer.rows.length ++
        " rows)\n")
  | .error error => .fault ("error: " ++ error.message ++ "\n")

inductive Ending where
  | finished
  | unreadable
deriving DecidableEq, Repr

def Ending.code : Ending → Nat
  | finished => 0
  | unreadable => 1

inductive Reaction where
  | proceed (messages : List Message)
  | stop (ending : Ending)
deriving DecidableEq, Repr

/-- What the edit makes of the line, if its bytes are text. -/
def editedWith? (edit : List Char → List Char) (line : List UInt8) : Option String :=
  (Text.decode? line).map fun characters => .ofList (edit characters)

/-- What was typed in the line, if its bytes are text. -/
def typed? : List UInt8 → Option String :=
  editedWith? Text.applyBackspaces

def react (store : Store) (cellWidth : Nat) (line : List UInt8) : Reaction :=
  match typed? line with
  | none => .stop .unreadable
  | some line =>
      match Command.ofLine line with
      | .nothing => .proceed []
      | .quit => .stop .finished
      | .query text => .proceed [respond store cellWidth text]

def session (store : Store) (cellWidth : Nat) :
    List (List UInt8) → List Message × Ending
  | [] => ([], .finished)
  | line :: rest =>
      match react store cellWidth line with
      | .stop ending => ([], ending)
      | .proceed messages =>
          let (others, ending) := session store cellWidth rest
          (messages ++ others, ending)

end TripleStore.Shell
