import TripleStore.Proofs.Load.TurtleRecords
import TripleStore.Proofs.Store.Encoding
import TripleStore.Proofs.Text.Utf8

/-!
Contract: the entities of a Turtle document.

Owns: that the subjects of a document become as many entity terms as they are subjects.

Does not own: what is written of terms (`TripleStore.Proofs.Rdf.Term`), and which terms a
document can hold (`TripleStore.Proofs.Turtle.Graph`).
-/

namespace TripleStore.Load

theorem entityId?_ofRecords_ne
    {listed : List Record}
    {first second : Record}
    (firstListed : first ∈ listed)
    (secondListed : second ∈ listed)
    (different : first.subject ≠ second.subject) :
    ∃ firstId secondId,
      (Store.ofRecords listed).entityId? first.subject = some firstId ∧
        (Store.ofRecords listed).entityId? second.subject = some secondId ∧
          firstId ≠ secondId := by
  obtain ⟨firstKey, firstKnown⟩ := Store.exists_key?_ofRecords firstListed
  obtain ⟨secondKey, secondKnown⟩ := Store.exists_key?_ofRecords secondListed
  have firstId := (Store.key?_eq_some_iff.mp firstKnown).1
  have secondId := (Store.key?_eq_some_iff.mp secondKnown).1
  refine ⟨firstKey.subject, secondKey.subject, firstId, secondId, ?_⟩
  intro same
  have entities := (Store.faithful_ofRecords listed).entities
  have firstStands := (entities _ _).mp firstId
  have secondStands := (entities _ _).mp secondId
  rw [← same, firstStands] at secondStands
  exact different (Option.some.inj secondStands)

/-- Of legible subjects no two have one text. Every subject of a document is legible, so
two of them become two entity terms, which the store of the document numbers apart. -/
theorem distinct_subjects_become_distinct_entities :
    (∀ left right : Rdf.Term,
        left.IsLegibleSubject →
          right.IsLegibleSubject → left.text = right.text → left = right) ∧
      ∀ bytes triples,
        Turtle.triples? (Text.decode bytes) = some triples →
          readTurtle bytes = .ok (triples.map recordOfTriple) ∧
            ∀ first ∈ triples, ∀ second ∈ triples, first.subject ≠ second.subject →
              (recordOfTriple first).subject ≠ (recordOfTriple second).subject ∧
                ∃ firstId secondId,
                  (Store.ofRecords (triples.map recordOfTriple)).entityId?
                      (recordOfTriple first).subject = some firstId ∧
                    (Store.ofRecords (triples.map recordOfTriple)).entityId?
                        (recordOfTriple second).subject = some secondId ∧
                      firstId ≠ secondId := by
  refine ⟨fun left right => Rdf.Term.text_inj, ?_⟩
  intro bytes triples found
  constructor
  · rw [readTurtle, readGraph, turtleTriples, found]
  · intro first firstMember second secondMember different
    have legible := turtleLibrary.isLegible_of_triplesIn found
    have differentTexts : (recordOfTriple first).subject ≠ (recordOfTriple second).subject := by
      intro same
      exact different (Rdf.Term.text_inj (legible first firstMember).subject
        (legible second secondMember).subject (String.ofList_injective same))
    exact ⟨differentTexts, entityId?_ofRecords_ne (List.mem_map_of_mem firstMember)
      (List.mem_map_of_mem secondMember) differentTexts⟩

/-- A quoted triple that is quoted itself. -/
def nestedSubject : Rdf.Term :=
  .quoted (.quoted (.iri "a:s".toList) "a:p".toList (.literal "x".toList .plain)) "a:p".toList
    (.iri "a:o".toList)

/-- A quoted triple with a literal that reads like the end of one and the start of more. -/
def lookAlikeSubject : Rdf.Term :=
  .quoted (.iri "a:s".toList) "a:p".toList
    (.literal "x\" >> <a:p> <a:o>".toList (.language "en".toList))

def lookAlikeTriples : List Rdf.Triple :=
  [{ subject := nestedSubject, predicate := "a:p".toList, object := .iri "a:o".toList },
    { subject := lookAlikeSubject, predicate := "a:p".toList, object := .iri "a:o".toList }]

def lookAlikeDocument : List Char :=
  ("<<<<<a:s> <a:p> \"x\">> <a:p> <a:o>>> <a:p> <a:o> .\n" ++
    "<< <a:s> <a:p> \"x\\\" >> <a:p> <a:o>\"@en >> <a:p> <a:o> .").toList

theorem distinct_subjects_become_distinct_entities_look_alike :
    nestedSubject.text ≠ lookAlikeSubject.text ∧
      Turtle.triples? (Text.decode (Text.encode lookAlikeDocument)) = some lookAlikeTriples ∧
        ∃ firstId secondId,
          (Store.ofRecords (lookAlikeTriples.map recordOfTriple)).entityId?
              (.ofList nestedSubject.text) = some firstId ∧
            (Store.ofRecords (lookAlikeTriples.map recordOfTriple)).entityId?
                (.ofList lookAlikeSubject.text) = some secondId ∧
              firstId ≠ secondId := by
  have subject : Rdf.IsLegibleIri "a:s".toList := ⟨by decide, by decide, by decide⟩
  have predicate : Rdf.IsLegibleIri "a:p".toList := ⟨by decide, by decide, by decide⟩
  have object : Rdf.IsLegibleIri "a:o".toList := ⟨by decide, by decide, by decide⟩
  have language : ' ' ∉ "en".toList := by decide
  have nested : nestedSubject.IsLegibleSubject :=
    ⟨trivial, trivial, ⟨trivial, subject, predicate, trivial⟩, predicate, object⟩
  have lookAlike : lookAlikeSubject.IsLegibleSubject :=
    ⟨trivial, trivial, subject, predicate, language⟩
  have different : nestedSubject ≠ lookAlikeSubject := by decide
  have found : Turtle.triples? (Text.decode (Text.encode lookAlikeDocument)) =
      some lookAlikeTriples := by
    decide +kernel
  have apart := (distinct_subjects_become_distinct_entities.2 _ _ found).2
    _ List.mem_cons_self _ (List.mem_cons_of_mem _ List.mem_cons_self) different
  refine ⟨?_, found, apart.2⟩
  intro same
  exact different
    (distinct_subjects_become_distinct_entities.1 _ _ nested lookAlike same)

end TripleStore.Load
