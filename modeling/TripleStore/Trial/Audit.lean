import TripleStore.Query.Answer
import TripleStore.Text.Quoted
import TripleStore.Trial.Operation

/-!
Contract: comparing a store with a plain map of what it should hold.

Owns:
- the map, and the ways in which a store can differ from it;
- the check of a whole store, and the check of the answer to one query;
- the wording of each difference.

Does not own: when checks are made (`TripleStore.Trial.Simulation`).

A query is checked through its text, so the check covers reading it as well as
answering it.
-/

namespace TripleStore.Trial

/-- The payloads that a store should hold. -/
abbrev Model := Std.ExtTreeMap Record String

structure Violation where
  index : Nat
  description : String
  context : String
deriving DecidableEq, Repr

structure Audit where
  violations : List Violation
deriving DecidableEq, Repr

/-- A difference, before it is known when it was found. -/
structure Finding where
  description : String
  context : String
deriving DecidableEq, Repr

def Finding.at (finding : Finding) (index : Nat) : Violation where
  index := index
  description := finding.description
  context := finding.context

def reportUnless (condition : Prop) [Decidable condition] (finding : Finding) :
    List Finding :=
  if condition then [] else [finding]

def spaced (record : Record) : String :=
  record.subject ++ " " ++ record.predicate ++ " " ++ record.object

def quotedRecord (record : Record) : String :=
  "(" ++ Text.quote record.subject ++ ", " ++ Text.quote record.predicate ++ ", " ++
    Text.quote record.object ++ ")"

/-! ## The whole store -/

def orderFindings (store : Store) (record : Record) (value : String) (key : Key)
    (order : RoleOrder) : List Finding :=
  reportUnless (store.probe order key = some value)
    { description := "ordering disagrees with model"
      context :=
        order.name ++ " " ++ spaced record ++ ": expected " ++ value ++ ", found " ++
          Text.quoteOption (store.probe order key) }

def recordFindings (store : Store) (record : Record) (value : String) : List Finding :=
  match store.key? record with
  | none => [{ description := "model triple has unknown term", context := spaced record }]
  | some key =>
      RoleOrder.all.flatMap (orderFindings store record value key) ++
        reportUnless (store.sharesLeaves key = true)
          { description := "partner orderings do not share a leaf", context := spaced record }

/-- The map that a list of triples amounts to, and the records that come twice. -/
def scan (store : Store) : Model → List Triple → Model × List Finding
  | seen, [] => (seen, [])
  | seen, triple :: rest =>
      let record := store.record triple.toKey
      let (model, findings) := scan store (seen.insert record triple.value) rest
      (model,
        reportUnless (record ∉ seen)
          { description := "full scan returned a triple twice"
            context := quotedRecord record } ++ findings)

def scanFindings (store : Store) (model : Model) : List Finding :=
  let (scanned, findings) := scan store ∅ store.triples
  findings ++
    reportUnless (scanned = model)
      { description := "full scan differs from model"
        context := "scan=" ++ toString scanned.size ++ " model=" ++ toString model.size }

/-- The terms of a lexicon whose identifiers do not lead back to them. -/
def lexiconFindings {space : IdSpace} (lexicon : Lexicon space) (name : String) :
    List Finding :=
  lexicon.toList.flatMap fun (id, term) =>
    reportUnless (lexicon.id? term = some id)
      { description := name ++ " dictionary is not a bijection", context := term }

def storeFindings (store : Store) (model : Model) : List Finding :=
  reportUnless (store.size = model.size)
      { description := "stored triple count differs from model"
        context := "store=" ++ toString store.size ++ " model=" ++ toString model.size } ++
    (model.toList.flatMap fun (record, value) => recordFindings store record value) ++
      scanFindings store model ++
        lexiconFindings store.entityTerms "entity" ++
          lexiconFindings store.predicateTerms "predicate"

/-! ## One query -/

def slotOf (name : String) : Option String → Query.Slot
  | some term => .literal term
  | none => .placeholder { name }

def queryText (pattern : TermPattern) : String :=
  let slots : Query.Pattern :=
    { subject := slotOf "s" pattern.subject
      predicate := slotOf "p" pattern.predicate
      object := slotOf "o" pattern.object }
  "SELECT * WHERE " ++ slots.text

def expectedRows (model : Model) (pattern : TermPattern) : List (List String) :=
  (model.keys.filter fun record => pattern.Matches record).map pattern.openTerms

def queryFindings (store : Store) (model : Model) (pattern : TermPattern) : List Finding :=
  let text := queryText pattern
  match Query.answer store text with
  | .error error =>
      [{ description := "generated query failed", context := text ++ ": " ++ error.message }]
  | .ok answer =>
      let expected := expectedRows model pattern
      reportUnless (answer.rows.Perm expected)
        { description := "query rows differ from model"
          context :=
            text ++ ": got " ++ toString answer.rows.length ++ " rows, expected " ++
              toString expected.length }

namespace Audit

def empty : Audit where
  violations := []

def report (audit : Audit) (index : Nat) (findings : List Finding) : Audit where
  violations := audit.violations ++ findings.map (·.at index)

def checkStore (audit : Audit) (store : Store) (model : Model) (index : Nat) : Audit :=
  audit.report index (storeFindings store model)

def checkQuery (audit : Audit) (store : Store) (model : Model) (pattern : TermPattern)
    (index : Nat) : Audit :=
  audit.report index (queryFindings store model pattern)

end Audit

end TripleStore.Trial
