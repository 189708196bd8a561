import TripleStore.Query.Parser
import TripleStore.Query.Plan
import TripleStore.Query.Validity

/-!
Contract: the answer of a store to a query.

Owns:
- the columns and rows of an answer;
- the two ways in which a query text can fail;
- the grid of an answer, header first.

Does not own: how a grid is drawn (`TripleStore.Table`).

Rows are not merged: two triples that show the same terms give two equal rows. The
modifiers of a query do not change its answer.
-/

namespace TripleStore.Query

/-- Columns by the variables they show, and one row of terms for each match. -/
structure Answer where
  columns : List String
  rows : List (List String)
deriving DecidableEq, Repr

def Answer.grid (answer : Answer) : List (List String) :=
  answer.columns :: answer.rows

def SelectQuery.roleOf? (query : SelectQuery) (wanted : Variable) : Option Role :=
  (query.pattern.placeholders.find? fun (_, name) => name == wanted).map Prod.fst

/-- The roles of the projected variables, in the order of the columns. -/
def SelectQuery.projectedRoles (query : SelectQuery) : List Role :=
  query.projected.filterMap query.roleOf?

def project (store : Store) (query : SelectQuery) (matching : List Triple) : Answer where
  columns := query.projected.map Variable.text
  rows := matching.map fun triple => query.projectedRoles.map (store.termOf triple.toKey)

def execute (store : Store) (query : SelectQuery) : Except Invalidity Answer :=
  match query.invalidity? with
  | some fault => .error fault
  | none => .ok (project store query ((Plan.build store query.pattern).run store))

inductive QueryError where
  | unreadable (error : ParseError)
  | invalid (fault : Invalidity)
deriving DecidableEq, Repr

def QueryError.message : QueryError → String
  | unreadable error => error.message
  | invalid fault => "invalid query: " ++ fault.message

def answer (store : Store) (text : String) : Except QueryError Answer :=
  match parse text with
  | .error error => .error (.unreadable error)
  | .ok query => (execute store query).mapError .invalid

end TripleStore.Query
