import TripleStore.Proofs.Query.Records

/-!
Contract: answers depend on the stored records alone.

Owns:
- when two answers are the same but for the order of their rows;
- that stores with the same records give every query text the same answer, whatever was
  added and erased on the way, and in whatever order.

Does not own: what the answer is (`TripleStore.Proofs.Query.Records`).
-/

namespace TripleStore.Query

/-- One error in both, or the same columns over the same rows in some order. -/
inductive SameAnswer : Except QueryError Answer → Except QueryError Answer → Prop where
  | failed (error : QueryError) : SameAnswer (.error error) (.error error)
  | answered
      {left right : Answer}
      (columns : left.columns = right.columns)
      (rows : left.rows.Perm right.rows) :
      SameAnswer (.ok left) (.ok right)

theorem SelectQuery.Shows.sameAnswer
    {query : SelectQuery}
    {leftRecords rightRecords : RecordContents}
    {left right : Answer}
    (leftShows : query.Shows leftRecords left)
    (rightShows : query.Shows rightRecords right)
    (sameRecords : ∀ record, record ∈ leftRecords ↔ record ∈ rightRecords) :
    SameAnswer (.ok left) (.ok right) := by
  have sameKeys : leftRecords.keys.Perm rightRecords.keys := by
    rw [List.perm_ext_iff_of_nodup Std.ExtTreeMap.nodup_keys Std.ExtTreeMap.nodup_keys]
    intro record
    rw [Std.ExtTreeMap.mem_keys, Std.ExtTreeMap.mem_keys]
    exact sameRecords record
  apply SameAnswer.answered
  · exact leftShows.columns.trans rightShows.columns.symm
  · exact leftShows.rows.trans (((sameKeys.filter _).map _).trans rightShows.rows.symm)

theorem answer_sameAnswer
    {left right : Store}
    {leftContents rightContents : Contents}
    {leftRecords rightRecords : RecordContents}
    (leftEncodes : left.Encodes leftContents leftRecords)
    (rightEncodes : right.Encodes rightContents rightRecords)
    (sameRecords : ∀ record, left.Stores record ↔ right.Stores record)
    (text : String) :
    SameAnswer (answer left text) (answer right text) := by
  unfold answer
  cases parse text with
  | error error => exact SameAnswer.failed _
  | ok query =>
      cases found : query.invalidity? with
      | some fault =>
          simp only [execute, found]
          exact SameAnswer.failed _
      | none =>
          have valid := query.invalidity?_eq_none_iff.mp found
          rcases valid.exists_shows leftEncodes with ⟨leftAnswer, leftFound, leftShows⟩
          rcases valid.exists_shows rightEncodes with ⟨rightAnswer, rightFound, rightShows⟩
          simp only [leftFound, rightFound]
          apply leftShows.sameAnswer rightShows
          intro record
          rw [← leftEncodes.stores_iff, ← rightEncodes.stores_iff]
          exact sameRecords record

/-- Two runs that leave the same records stored leave stores that no query text tells
apart, and so do two lists of records from files that hold the same ones. -/
theorem answer_forgets_history :
    (∀ left right : List Store.RecordEdit,
      (∀ record, (Store.afterRecordEdits left).Stores record ↔
        (Store.afterRecordEdits right).Stores record) →
      ∀ text, SameAnswer (answer (Store.afterRecordEdits left) text)
        (answer (Store.afterRecordEdits right) text)) ∧
    ∀ left right : List Record,
      (∀ record, record ∈ left ↔ record ∈ right) →
      ∀ text, SameAnswer (answer (Store.ofRecords left) text)
        (answer (Store.ofRecords right) text) := by
  constructor
  · intro left right sameRecords text
    exact answer_sameAnswer (Store.encodes_afterRecordEdits left)
      (Store.encodes_afterRecordEdits right) sameRecords text
  · intro left right sameRecords text
    have sameStored : ∀ record,
        (Store.ofRecords left).Stores record ↔ (Store.ofRecords right).Stores record := by
      intro record
      rw [Store.stores_ofRecords_iff, Store.stores_ofRecords_iff]
      exact sameRecords record
    rw [Store.ofRecords_eq, Store.ofRecords_eq] at sameStored ⊢
    exact answer_sameAnswer (Store.encodes_afterRecordEdits _)
      (Store.encodes_afterRecordEdits _) sameStored text

/-- The second run numbers other terms first and erases their record again. The second
list repeats a record and turns the order around. -/
theorem answer_forgets_erased_record :
    SameAnswer
        (answer (Store.afterRecordEdits
          [.insert ⟨"Apple", "Likes", "Banana"⟩ "1"]) "SELECT ?s, ?o WHERE \x7b ?s ?p ?o \x7d")
        (answer (Store.afterRecordEdits
          [.insert ⟨"Cow", "Eats", "Apple"⟩ "2", .insert ⟨"Apple", "Likes", "Banana"⟩ "3",
            .erase ⟨"Cow", "Eats", "Apple"⟩]) "SELECT ?s, ?o WHERE \x7b ?s ?p ?o \x7d") ∧
      SameAnswer
        (answer (Store.ofRecords
          [⟨"Apple", "Likes", "Banana"⟩, ⟨"Cow", "Eats", "Apple"⟩])
            "SELECT * WHERE \x7b 'Cow' ?p ?o \x7d")
        (answer (Store.ofRecords
          [⟨"Cow", "Eats", "Apple"⟩, ⟨"Apple", "Likes", "Banana"⟩, ⟨"Cow", "Eats", "Apple"⟩])
            "SELECT * WHERE \x7b 'Cow' ?p ?o \x7d") := by
  constructor
  · apply answer_forgets_history.1
    intro record
    rw [(Store.encodes_afterRecordEdits _).stores_iff,
      (Store.encodes_afterRecordEdits _).stores_iff]
    simp only [Store.recordsAfter, Store.RecordEdit.mirror, List.foldl_cons, List.foldl_nil,
      Std.ExtTreeMap.mem_insert, Std.ExtTreeMap.mem_erase, Std.ExtTreeMap.not_mem_empty,
      Std.LawfulEqCmp.compare_eq_iff_eq, ne_eq, or_false]
    constructor
    · rintro rfl
      exact ⟨by decide, Or.inl rfl⟩
    · rintro ⟨notErased, same | same⟩
      · exact same
      · exact absurd same notErased
  · apply answer_forgets_history.2
    intro record
    simp only [List.mem_cons, List.not_mem_nil, or_false]
    tauto

end TripleStore.Query
