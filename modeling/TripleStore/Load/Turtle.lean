import TripleStore.Load.Error
import TripleStore.Triple
import TripleStore.Turtle.Graph

/-!
Contract: records in Turtle.

Owns: the record of a triple of a graph, and the records of a document, whatever reads its
triples.

Does not own: the syntax of Turtle (`TripleStore.Turtle`), and the text that stands for
a term (`TripleStore.Rdf.Term`).
-/

namespace TripleStore.Load

/-- The record of a triple, without the tags of literals. -/
def recordOfTriple (triple : Rdf.Triple) : Record where
  subject := .ofList triple.subject.text
  predicate := .ofList triple.predicate
  object := .ofList triple.object.text

/-- What reads the triples of a document. -/
abbrev GraphReader := List UInt8 → Option (List Rdf.Triple)

def readGraph (triplesIn : GraphReader) (bytes : List UInt8) : Except LoadError (List Record) :=
  match triplesIn bytes with
  | some triples => .ok (triples.map recordOfTriple)
  | none => .error .turtle

def turtleTriples : GraphReader := fun bytes =>
  Turtle.triples? (Text.decode bytes)

def readTurtle : List UInt8 → Except LoadError (List Record) :=
  readGraph turtleTriples

end TripleStore.Load
