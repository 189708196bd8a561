import TripleStore.Proofs.Query.Meaning
import TripleStore.Proofs.Store.Encoding

/-!
Contract: what the answer to a query says about the stored records, identifiers left out.

Owns:
- when a pattern describes a record, slot by slot, and what a variable shows of it;
- the answer of a store that encodes records as the rows of the described ones.

Does not own: answers of stores with keys that stand for no record
(`TripleStore.Proofs.Query.Meaning`).
-/

namespace TripleStore.Query

/-- An open slot admits every term, and a literal its own. -/
def Slot.AdmitsTerm (term : String) : Slot → Prop
  | placeholder _ => True
  | literal wanted => wanted = term

instance (term : String) : (slot : Slot) → Decidable (slot.AdmitsTerm term)
  | .placeholder _ => instDecidableTrue
  | .literal wanted => instDecidableEqString wanted term

/-- Each slot admits the term that the record has in its role. -/
def Pattern.Describes (pattern : Pattern) (record : Record) : Prop :=
  pattern.subject.AdmitsTerm record.subject ∧
    pattern.predicate.AdmitsTerm record.predicate ∧
      pattern.object.AdmitsTerm record.object

instance (pattern : Pattern) (record : Record) : Decidable (pattern.Describes record) := by
  unfold Pattern.Describes
  infer_instance

/-- The term that the record has in the slot of the variable. -/
def Pattern.shown (pattern : Pattern) (record : Record) (wanted : Variable) : String :=
  if pattern.subject = .placeholder wanted then record.subject
  else if pattern.predicate = .placeholder wanted then record.predicate
  else if pattern.object = .placeholder wanted then record.object
  else ""

theorem Slot.admits_iff_admitsTerm
    {space : IdSpace}
    {lexicon : Lexicon space}
    (faithful : lexicon.Faithful)
    {term : String}
    {id : Id space}
    (known : lexicon.id? term = some id)
    (slot : Slot) :
    slot.Admits lexicon.id? id ↔ slot.AdmitsTerm term := by
  cases slot with
  | placeholder name => exact Iff.rfl
  | literal wanted =>
      constructor
      · intro wantedKnown
        have stands := (faithful wanted id).mp wantedKnown
        rw [(faithful term id).mp known] at stands
        exact (Option.some.inj stands).symm
      · rintro rfl
        exact known

/-- With every term numbered once, a pattern selects the key of a record exactly if it
describes the record. -/
theorem Pattern.selects_iff_describes
    {store : Store}
    (faithful : store.Faithful)
    {record : Record}
    {key : Key}
    (known : store.key? record = some key)
    (pattern : Pattern) :
    pattern.Selects store key ↔ pattern.Describes record := by
  rw [Store.key?_eq_some_iff] at known
  rcases known with ⟨subject, predicate, object⟩
  exact and_congr (Slot.admits_iff_admitsTerm faithful.entities subject _)
    (and_congr (Slot.admits_iff_admitsTerm faithful.predicates predicate _)
      (Slot.admits_iff_admitsTerm faithful.entities object _))

namespace SelectQuery

/-- The columns are the projected variables, and there is one row for each described
record. -/
structure Shows (query : SelectQuery) (records : RecordContents) (answer : Answer) : Prop where
  columns : answer.columns = query.projected.map fun wanted => "?" ++ wanted.name
  rows : answer.rows.Perm
    ((records.keys.filter fun record => query.pattern.Describes record).map
      fun record => query.projected.map (query.pattern.shown record))

variable {query : SelectQuery} {store : Store} {contents : Contents}
variable {records : RecordContents} {answer : Answer}

theorem AnsweredBy.shows
    (answered : query.AnsweredBy store contents answer)
    (encodes : store.Encodes contents records) :
    query.Shows records answer where
  columns := answered.columns
  rows := by
    let row (record : Record) := query.projected.map (query.pattern.shown record)
    have selected :
        (contents.toList.filter fun entry => query.pattern.Selects store entry.1) =
          contents.toList.filter fun entry =>
            query.pattern.Describes (store.record entry.1) := by
      apply List.filter_congr
      intro entry member
      have known := encodes.key?_record (Map.mem_of_mem_toList member)
      exact decide_eq_decide.mpr
        (query.pattern.selects_iff_describes encodes.faithful known)
    have named : (contents.toList.map fun entry => store.record entry.1).Perm records.keys := by
      have pairs := encodes.perm_toList.map Prod.fst
      rwa [List.map_map, Std.ExtTreeMap.map_fst_toList_eq_keys] at pairs
    have shown := (named.filter fun record => query.pattern.Describes record).map row
    rw [List.filter_map, List.map_map] at shown
    refine answered.rows.trans ?_
    rw [selected]
    exact shown

/-- A query without a fault has an answer, which shows the records. -/
theorem Valid.exists_shows
    (valid : query.Valid)
    (encodes : store.Encodes contents records) :
    ∃ answer, execute store query = .ok answer ∧ query.Shows records answer := by
  refine ⟨_, ?_, (valid.answeredBy_project encodes.represents).shows encodes⟩
  unfold execute
  rw [query.invalidity?_eq_none_iff.mpr valid]

end SelectQuery

end TripleStore.Query
