import TripleStore.Proofs.Query.Quotes
import TripleStore.Proofs.Query.Records
import TripleStore.Proofs.Trial.StoreCheck

/-!
Contract: the check of the answer to a query compares the rows of the pattern that it is given.

Owns:
- that the text of a pattern asks for it exactly if no term of it holds a single quote;
- that the answer then has the rows which the stored records have for the pattern, so that the
  check finds something exactly if the map has others;
- a pattern that no text asks for, and that is reported although store and map agree.

Does not own: what is reported of other patterns with a single quote in a term, whose text
may be read as another query.
-/

namespace TripleStore.Trial

open TripleStore.Query

/-- The term holds no single quote, so it can be written between two of them. -/
def Plain (term : String) : Prop :=
  '\x27' ∉ term.toList

instance (term : String) : Decidable (Plain term) :=
  inferInstanceAs (Decidable ('\x27' ∉ term.toList))

namespace TermPattern

def Plain (pattern : TermPattern) : Prop :=
  (∀ term ∈ pattern.subject, Trial.Plain term) ∧
    (∀ term ∈ pattern.predicate, Trial.Plain term) ∧ ∀ term ∈ pattern.object, Trial.Plain term

/-- The query for all open places of the pattern. -/
def query (pattern : TermPattern) : SelectQuery where
  projection := .all
  pattern :=
    { subject := slotOf "s" pattern.subject
      predicate := slotOf "p" pattern.predicate
      object := slotOf "o" pattern.object }
  modifiers := []

end TermPattern

/-! ## Reading the text -/

theorem spelled_slotOf
    (name : String)
    {bound : Option String}
    (isWord : IsWord name.toList)
    (plain : ∀ term ∈ bound, Plain term) :
    (slotOf name bound).kind.Spelled (slotOf name bound).text.toList := by
  cases bound with
  | none =>
      have spelled := TokenKind.Spelled.variableName _ isWord
      rw [String.ofList_toList] at spelled
      simpa [slotOf, Slot.kind, Slot.text, Variable.text] using spelled
  | some term =>
      have spelled := TokenKind.Spelled.literal _ '\x27' rfl (plain term rfl)
      rw [String.ofList_toList] at spelled
      simpa [slotOf, Slot.kind, Slot.text] using spelled

/-- The text of a pattern is its spellings, one space apart. -/
theorem toList_queryText (pattern : TermPattern) :
    (queryText pattern).toList =
      "SELECT".toList ++ ' ' :: (['*'] ++ ' ' :: ("WHERE".toList ++ ' ' :: (['{'] ++
        ' ' :: ((slotOf "s" pattern.subject).text.toList ++
          ' ' :: ((slotOf "p" pattern.predicate).text.toList ++
            ' ' :: ((slotOf "o" pattern.object).text.toList ++ ' ' :: ['}'])))))) := by
  change ("SELECT * WHERE " ++ pattern.query.pattern.text).toList = _
  simp only [Pattern.text, String.toList_append, List.append_assoc]
  rfl

theorem writes_queryText {pattern : TermPattern} (plain : pattern.Plain) :
    pattern.query.Writes (queryText pattern) := by
  obtain ⟨plainSubject, plainPredicate, plainObject⟩ := plain
  have subject := spelled_slotOf "s" (.letters 's' [] rfl (by simp)) plainSubject
  have predicate := spelled_slotOf "p" (.letters 'p' [] rfl (by simp)) plainPredicate
  have object := spelled_slotOf "o" (.letters 'o' [] rfl (by simp)) plainObject
  have laidOut : LaidOut Separated 0 _ _ :=
    .token 0 [] _ _ _ _ (by simp [AreBlank]) (.keyword .SELECT "SELECT".toList (by decide))
      (separated_space _) <|
    .spaced .star (separated_space _) <|
    .spaced (.keyword .WHERE "WHERE".toList (by decide)) (separated_space _) <|
    .spaced .leftBrace (separated_space _) <|
    .spaced subject (separated_space _) <|
    .spaced predicate (separated_space _) <|
    .spaced object (separated_space _) <|
    .spaced .rightBrace separated_nil <|
    .finish _ [] (by simp [AreBlank])
  have derives : pattern.query.Derives _ :=
    .sentence .all pattern.query.pattern [] [] [] (by simp) (Or.inl rfl) (by simp) (Or.inl rfl)
  refine ⟨?tokens, _, ?spelled, derives, ?kinds⟩
  case spelled =>
    rw [toList_queryText]
    exact laidOut
  case kinds => rfl

/-- A literal slot stands between single quotes, whatever its term holds. -/
theorem count_text_slotOf
    (name : String)
    (noQuote : '\x27' ∉ name.toList)
    (bound : Option String) :
    (slotOf name bound).text.toList.count '\x27' = (slotOf name bound).kind.quoteRoom := by
  cases bound with
  | none =>
      simpa [slotOf, Slot.text, Variable.text, Slot.kind, TokenKind.quoteRoom,
        List.count_eq_zero] using noQuote
  | some term => simp [slotOf, Slot.text, Slot.kind, TokenKind.quoteRoom]

theorem count_queryText (pattern : TermPattern) :
    (queryText pattern).toList.count '\x27' = quoteRoom pattern.query.pattern.kinds := by
  have subject := count_text_slotOf "s" (by decide) pattern.subject
  have predicate := count_text_slotOf "p" (by decide) pattern.predicate
  have object := count_text_slotOf "o" (by decide) pattern.object
  rw [toList_queryText]
  simp [Pattern.kinds, TermPattern.query, subject, predicate, object]

theorem plain_kind_slotOf_iff {name : String} {bound : Option String} :
    (slotOf name bound).kind.Plain ↔ ∀ term ∈ bound, Plain term := by
  cases bound <;> simp [slotOf, Slot.kind, TokenKind.Plain, Plain]

/-- The text of a pattern asks for the pattern exactly if no term of it holds a single
quote. -/
theorem parse_queryText_eq_ok_iff (pattern : TermPattern) :
    parse (queryText pattern) = .ok pattern.query ↔ pattern.Plain := by
  constructor
  · intro accepted
    have plain := plain_of_parse accepted (count_queryText pattern).ge
    simpa [Pattern.kinds, TermPattern.query, TermPattern.Plain, plain_kind_slotOf_iff] using plain
  · intro plain
    exact (writes_queryText plain).parse_eq

/-! ## Rows -/

theorem valid_query (pattern : TermPattern) : pattern.query.Valid where
  listed := List.nodup_nil
  placed := by
    obtain ⟨_ | subject, _ | predicate, _ | object⟩ := pattern <;>
      simp [TermPattern.query, Pattern.allVariables, Pattern.placeholders, Pattern.slots,
        slotOf, Slot.placeholder?]
  bound := by simp [SelectQuery.listedVariables, TermPattern.query]

theorem admitsTerm_slotOf (name : String) (bound : Option String) (term : String) :
    (slotOf name bound).AdmitsTerm term ↔ ∀ wanted ∈ bound, term = wanted := by
  cases bound with
  | none => simp [slotOf, Slot.AdmitsTerm]
  | some wanted => simp [slotOf, Slot.AdmitsTerm, eq_comm]

theorem describes_iff_matches (pattern : TermPattern) (record : Record) :
    pattern.query.pattern.Describes record ↔ pattern.Matches record := by
  simp only [Pattern.Describes, TermPattern.query, TermPattern.Matches, admitsTerm_slotOf]

/-- A row shows the terms in the open places. -/
theorem map_shown_projected (pattern : TermPattern) (record : Record) :
    pattern.query.projected.map (pattern.query.pattern.shown record) =
      pattern.openTerms record := by
  obtain ⟨_ | subject, _ | predicate, _ | object⟩ := pattern <;> rfl

/-! ## The check -/

/-- One row for each of the records that match, with the terms in the open places. -/
def TermPattern.rows (pattern : TermPattern) (records : List Record) : List (List String) :=
  (records.filter fun record => pattern.Matches record).map pattern.openTerms

theorem TermPattern.rows_perm
    (pattern : TermPattern)
    {left right : List Record}
    (perm : left.Perm right) :
    (pattern.rows left).Perm (pattern.rows right) :=
  (perm.filter _).map _

variable {store : Store} {contents : Contents} {records : RecordContents} {model : Model}
variable {pattern : TermPattern}

theorem exists_answer_queryText
    (encodes : store.Encodes contents records)
    (plain : pattern.Plain) :
    ∃ found, answer store (queryText pattern) = .ok found ∧
      found.rows.Perm (pattern.rows records.keys) := by
  have accepted := (parse_queryText_eq_ok_iff pattern).mpr plain
  obtain ⟨found, executed, shows⟩ := (valid_query pattern).exists_shows encodes
  refine ⟨found, ?_, ?_⟩
  · unfold answer
    rw [accepted]
    simp only [executed]
    rfl
  · have shown := shows.rows
    simp only [describes_iff_matches, map_shown_projected] at shown
    exact shown

/-- The check finds nothing exactly in the maps that have the rows of the map which the
store encodes. -/
theorem queryFindings_eq_nil_iff
    (encodes : store.Encodes contents records)
    (plain : pattern.Plain) :
    queryFindings store model pattern = [] ↔
      (pattern.rows records.keys).Perm (pattern.rows model.keys) := by
  obtain ⟨found, answered, rows⟩ := exists_answer_queryText encodes plain
  simp only [queryFindings, answered, reportUnless_eq_nil_iff]
  exact rows.congr_left _

/-- After any edits by terms, and for a pattern without single quotes, the check of its query
appends a violation exactly if the stored records and those of the map have other rows for
the pattern. -/
theorem checkQuery_appends_nothing_iff
    (edits : List Store.RecordEdit)
    (audit : Audit)
    (model : Model)
    (pattern : TermPattern)
    (plain : pattern.Plain)
    (index : Nat) :
    let store := Store.afterRecordEdits edits
    ∃ appended,
      (audit.checkQuery store model pattern index).violations = audit.violations ++ appended ∧
        (appended = [] ↔
          (pattern.rows store.storedRecords).Perm (pattern.rows model.keys)) ∧
        ((∀ record, record ∈ model ↔ store.Stores record) → appended = []) ∧
        ∀ violation ∈ appended, violation.index = index := by
  intro store
  have encodes := Store.encodes_afterRecordEdits edits
  obtain ⟨appended, follows, nothing, indexed⟩ :=
    audit.exists_appended (queryFindings store model pattern) index
  have compares :
      appended = [] ↔ (pattern.rows store.storedRecords).Perm (pattern.rows model.keys) := by
    rw [nothing, queryFindings_eq_nil_iff encodes plain]
    exact (pattern.rows_perm encodes.perm_storedRecords.symm).congr_left _
  refine ⟨appended, follows, compares, ?_, indexed⟩
  intro same
  have named : store.storedRecords.Perm model.keys := by
    rw [List.perm_ext_iff_of_nodup encodes.nodup_storedRecords Std.ExtTreeMap.nodup_keys]
    intro record
    rw [Std.ExtTreeMap.mem_keys, same, Store.mem_storedRecords_iff]
  exact compares.mpr (pattern.rows_perm named)

/-- The terms hold double quotes and a brace, or are a reserved word. -/
def wordyPattern : TermPattern where
  subject := some "say \"\x7d\""
  predicate := none
  object := some "WHERE"

def wordyEdits : List Store.RecordEdit :=
  [.insert { subject := "say \"\x7d\"", predicate := "LIMIT", object := "WHERE" } "v"]

/-- The check passes the map with the stored record, and reports an empty one. -/
theorem checkQuery_appends_nothing_iff_wordy :
    wordyPattern.Plain ∧
      (Audit.empty.checkQuery (Store.afterRecordEdits wordyEdits)
        (Store.recordsAfter wordyEdits) wordyPattern 3).violations = [] ∧
      (Audit.empty.checkQuery (Store.afterRecordEdits wordyEdits) ∅ wordyPattern 3).violations ≠
        [] := by
  have plain : wordyPattern.Plain := by
    simp [TermPattern.Plain, Plain, wordyPattern]
  have encodes := Store.encodes_afterRecordEdits wordyEdits
  obtain ⟨appended, follows, _, agree, _⟩ :=
    checkQuery_appends_nothing_iff wordyEdits .empty (Store.recordsAfter wordyEdits)
      wordyPattern plain 3
  obtain ⟨reported, reportFollows, compares, _⟩ :=
    checkQuery_appends_nothing_iff wordyEdits .empty ∅ wordyPattern plain 3
  refine ⟨plain, ?_, ?_⟩
  · rw [follows, agree fun record => (encodes.stores_iff record).symm]
    rfl
  · rw [reportFollows]
    intro nothing
    have rows :=
      (wordyPattern.rows_perm encodes.perm_storedRecords.symm).trans (compares.mp nothing)
    exact absurd rows.length_eq (by decide +kernel)

/-! ## A term with both quotes -/

/-- The subject holds each of the quotes that a literal can stand between. -/
def doublyQuotedPattern : TermPattern where
  subject := some "'\""
  predicate := none
  object := none

/-- No text is read as the query for the pattern, and the check reports a store without
triples although the map is empty as well. -/
theorem checkQuery_reports_doubly_quoted :
    (∀ text, parse text ≠ .ok doublyQuotedPattern.query) ∧
      ¬∃ appended,
        (Audit.empty.checkQuery (Store.afterRecordEdits []) ∅ doublyQuotedPattern 0).violations =
            Audit.empty.violations ++ appended ∧
          (appended = [] ↔
            (doublyQuotedPattern.rows (Store.afterRecordEdits []).storedRecords).Perm
              (doublyQuotedPattern.rows (∅ : Model).keys)) := by
  constructor
  · intro text accepted
    have writable := (SelectQuery.writable_of_parse accepted).slots
      (.subject, .literal "'\"") (by simp [doublyQuotedPattern, TermPattern.query, slotOf,
        Pattern.slots])
    exact writable (by decide)
  · rintro ⟨appended, follows, compares⟩
    have reported :
        (Audit.empty.checkQuery (Store.afterRecordEdits []) ∅ doublyQuotedPattern 0).violations ≠
          [] := by
      decide +kernel
    rw [follows] at reported
    exact reported (compares.mpr (by rfl))

end TripleStore.Trial
