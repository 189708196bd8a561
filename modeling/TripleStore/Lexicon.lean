import TripleStore.Id

/-!
Contract: the two-way table between the terms of one space and their identifiers.

Owns:
- numbering terms in the order in which they are first used;
- looking up the newest identifier of a term and the term of an identifier;
- that the counter of handed out numbers stays in step with the numbered terms.

Does not own: which terms are entities and which are predicates.

A lexicon is only ever extended, so an identifier keeps its term for good.
-/

namespace TripleStore

/-- The terms of one space in the order of their numbers, the newest number of each
term, and the number that comes next. -/
structure Lexicon (space : IdSpace) where
  terms : Array String
  ids : Std.ExtTreeMap String (Id space)
  counter : Nat
  counter_eq : counter = terms.size

namespace Lexicon

variable {space : IdSpace}

def empty : Lexicon space where
  terms := #[]
  ids := ∅
  counter := 0
  counter_eq := rfl

def size (lexicon : Lexicon space) : Nat :=
  lexicon.terms.size

def nextId (lexicon : Lexicon space) : Id space :=
  ⟨lexicon.counter⟩

def id? (lexicon : Lexicon space) (term : String) : Option (Id space) :=
  lexicon.ids[term]?

def term? (lexicon : Lexicon space) (id : Id space) : Option String :=
  lexicon.terms[id.index]?

/-- Hand out a new identifier for the term, whether or not it has one already. -/
def append (lexicon : Lexicon space) (term : String) : Id space × Lexicon space :=
  (lexicon.nextId,
    { terms := lexicon.terms.push term
      ids := lexicon.ids.insert term lexicon.nextId
      counter := lexicon.counter + 1
      counter_eq := by rw [Array.size_push, lexicon.counter_eq] })

/-- The identifier of the term, handed out now if the term has none. -/
def intern (lexicon : Lexicon space) (term : String) : Id space × Lexicon space :=
  match lexicon.id? term with
  | some id => (id, lexicon)
  | none => lexicon.append term

/-- The numbers that were handed out, each with its term. -/
def toList (lexicon : Lexicon space) : List (Id space × String) :=
  ((List.range lexicon.counter).map Id.mk).zip lexicon.terms.toList

/-! ## What extending a lexicon does to its two views -/

@[simp] theorem size_empty : (empty : Lexicon space).size = 0 := rfl

theorem index_nextId (lexicon : Lexicon space) : lexicon.nextId.index = lexicon.size :=
  lexicon.counter_eq

@[simp] theorem size_append (lexicon : Lexicon space) (term : String) :
    (lexicon.append term).2.size = lexicon.size + 1 := by
  simp [append, size]

theorem id?_append (lexicon : Lexicon space) (term other : String) :
    (lexicon.append term).2.id? other =
      if term = other then some lexicon.nextId else lexicon.id? other := by
  simp [append, id?, Std.ExtTreeMap.getElem?_insert]

theorem term?_append (lexicon : Lexicon space) (term : String) (id : Id space) :
    (lexicon.append term).2.term? id =
      if id = lexicon.nextId then some term else lexicon.term? id := by
  obtain ⟨index⟩ := id
  simp [append, term?, nextId, lexicon.counter_eq, Array.getElem?_push]

end Lexicon

end TripleStore
