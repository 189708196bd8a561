/-!
Contract: the terms of an RDF graph, quoted triples among them.

Owns:
- terms and triples of terms;
- how a term is written out in full, and the shorter text that stands for it.

Does not own: IRIs and language tags as such (`TripleStore.Rdf.Iri`,
`TripleStore.Rdf.LanguageTag`).
-/

namespace TripleStore.Rdf

inductive Tag where
  | plain
  | language (tag : List Char)
  | datatype (iri : List Char)
deriving DecidableEq, Repr

/-- A node of a graph. A quoted triple is a node as well. -/
inductive Term where
  | iri (text : List Char)
  | blank (label : List Char)
  | literal (lexical : List Char) (tag : Tag)
  | quoted (subject : Term) (predicate : List Char) (object : Term)
deriving DecidableEq, Repr

structure Triple where
  subject : Term
  predicate : List Char
  object : Term
deriving DecidableEq, Repr

def escape (character : Char) : List Char :=
  if character = '\n' then ['\\', 'n']
  else if character = '\r' then ['\\', 'r']
  else if character = '"' then ['\\', '"']
  else if character = '\\' then ['\\', '\\']
  else [character]

def writeIri (iri : List Char) : List Char :=
  '<' :: (iri ++ ['>'])

def Tag.write : Tag → List Char
  | plain => []
  | language tag => '@' :: tag
  | datatype iri => '^' :: '^' :: writeIri iri

namespace Term

def write : Term → List Char
  | iri text => writeIri text
  | blank label => '_' :: ':' :: label
  | literal lexical tag => '"' :: (lexical.flatMap escape ++ '"' :: tag.write)
  | quoted subject predicate object =>
      ['<', '<', ' '] ++ subject.write ++ ' ' :: writeIri predicate ++ ' ' :: object.write ++
        [' ', '>', '>']

/-- The text that stands for the term: of an IRI the bare text, of a literal the bare
lexical form, and of any other term what is written in full. -/
def text : Term → List Char
  | iri text => text
  | literal lexical _ => lexical
  | other => other.write

end Term

end TripleStore.Rdf
