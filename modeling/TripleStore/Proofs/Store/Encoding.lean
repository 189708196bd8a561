import TripleStore.Proofs.Lexicon
import TripleStore.Proofs.Store.AccessPath

/-!
Contract: a store that was edited by terms, as one plain map from records to payloads.

Owns:
- `RecordEdit`, the two edits that name their triple by terms, and runs of them;
- `Store.Encodes`, by which the stored keys and the records of a map stand for each
  other, with the same payloads;
- that every run of such edits keeps it, and the records that a store then lists.

Does not own: edits by identifiers, which may leave keys that stand for no record.
-/

namespace TripleStore

/-- Payloads by record, in one plain map. -/
abbrev RecordContents := Std.ExtTreeMap Record String

namespace Store

/-- An edit that names its triple by terms. -/
inductive RecordEdit where
  | insert (record : Record) (value : String)
  | erase (record : Record)
deriving DecidableEq, Repr

namespace RecordEdit

def toEdit : RecordEdit → Edit
  | insert record value => .insertRecord record value
  | erase record => .eraseRecord record

/-- What the edit does to a plain map of records. -/
def mirror (records : RecordContents) : RecordEdit → RecordContents
  | insert record value => records.insert record value
  | erase record => records.erase record

end RecordEdit

/-- The store that the edits make of an empty one. -/
def afterRecordEdits (edits : List RecordEdit) : Store :=
  afterEdits (edits.map RecordEdit.toEdit)

/-- The plain map that the edits make of an empty one. -/
def recordsAfter (edits : List RecordEdit) : RecordContents :=
  edits.foldl RecordEdit.mirror ∅

/-- The records of the stored triples, as the full listing has them. -/
def storedRecords (store : Store) : List Record :=
  store.triples.map fun triple => store.record triple.toKey

/-- A stored triple has the terms of the record. -/
def Stores (store : Store) (record : Record) : Prop :=
  ∃ triple ∈ store.triples, store.record triple.toKey = record

/-! ## Keys and records -/

variable {store : Store} {record other : Record} {key otherKey : Key}

theorem mem_storedRecords_iff : record ∈ store.storedRecords ↔ store.Stores record :=
  List.mem_map

theorem key?_eq_some_iff :
    store.key? record = some key ↔
      store.entityId? record.subject = some key.subject ∧
        store.predicateId? record.predicate = some key.predicate ∧
          store.entityId? record.object = some key.object := by
  rcases key with ⟨subject, predicate, object⟩
  simp only [key?, Option.bind_eq_bind, Option.bind_eq_some_iff, Option.pure_def,
    Option.some.injEq, Key.mk.injEq]
  constructor
  · rintro ⟨_, subjectKnown, _, predicateKnown, _, objectKnown, rfl, rfl, rfl⟩
    exact ⟨subjectKnown, predicateKnown, objectKnown⟩
  · rintro ⟨subjectKnown, predicateKnown, objectKnown⟩
    exact ⟨_, subjectKnown, _, predicateKnown, _, objectKnown, rfl, rfl, rfl⟩

/-- Interned records have the key that interning gives for them. -/
theorem key?_intern (store : Store) (record : Record) :
    (store.intern record).2.key? record = some (store.intern record).1 := by
  rw [key?_eq_some_iff]
  refine ⟨?_, Lexicon.id?_intern _ _, Lexicon.id?_intern _ _⟩
  exact Lexicon.id?_intern_of_id? (Lexicon.id?_intern store.entityTerms record.subject)

theorem key?_intern_of_key? (known : store.key? other = some key) :
    (store.intern record).2.key? other = some key := by
  rw [key?_eq_some_iff] at known ⊢
  rcases known with ⟨subjectKnown, predicateKnown, objectKnown⟩
  exact ⟨Lexicon.id?_intern_of_id? (Lexicon.id?_intern_of_id? subjectKnown),
    Lexicon.id?_intern_of_id? predicateKnown,
    Lexicon.id?_intern_of_id? (Lexicon.id?_intern_of_id? objectKnown)⟩

/-- Each lexicon of the store numbers every term once. -/
structure Faithful (store : Store) : Prop where
  entities : store.entityTerms.Faithful
  predicates : store.predicateTerms.Faithful

namespace Faithful

theorem record_eq (faithful : store.Faithful) (known : store.key? record = some key) :
    store.record key = record := by
  rw [key?_eq_some_iff] at known
  rcases known with ⟨subjectKnown, predicateKnown, objectKnown⟩
  have subject : store.entity? key.subject = some record.subject :=
    (faithful.entities _ _).mp subjectKnown
  have predicate : store.predicate? key.predicate = some record.predicate :=
    (faithful.predicates _ _).mp predicateKnown
  have object : store.entity? key.object = some record.object :=
    (faithful.entities _ _).mp objectKnown
  simp [Store.record, termOf, subject, predicate, object]

/-- Two records never have one key. -/
theorem key_eq_iff
    (faithful : store.Faithful)
    (known : store.key? record = some key)
    (otherKnown : store.key? other = some otherKey) :
    key = otherKey ↔ record = other := by
  constructor
  · intro sameKey
    rw [← faithful.record_eq known, ← faithful.record_eq otherKnown, sameKey]
  · intro sameRecord
    rw [← sameRecord, known] at otherKnown
    exact Option.some.inj otherKnown

theorem intern (faithful : store.Faithful) (record : Record) :
    (store.intern record).2.Faithful where
  entities := (faithful.entities.intern _).intern _
  predicates := faithful.predicates.intern _

end Faithful

theorem SameTerms.key?_eq {after : Store} (same : SameTerms store after) (record : Record) :
    after.key? record = store.key? record := by
  unfold key? entityId? predicateId?
  rw [same.entities, same.predicates]

@[simp] theorem key?_erase (key : Key) (record : Record) :
    (store.erase key).2.key? record = store.key? record :=
  (store.sameTerms_erase key).key?_eq record

theorem Faithful.erase (faithful : store.Faithful) (key : Key) :
    (store.erase key).2.Faithful where
  entities := (store.sameTerms_erase key).entities ▸ faithful.entities
  predicates := (store.sameTerms_erase key).predicates ▸ faithful.predicates

/-! ## Stores that encode records -/

/-- The keys of the store and the records of the map stand for each other, with the same
payloads. -/
structure Encodes (store : Store) (contents : Contents) (records : RecordContents) : Prop where
  represents : store.Represents contents
  faithful : store.Faithful
  /-- Every stored key has a record. -/
  named : ∀ key ∈ contents, ∃ record, store.key? record = some key
  /-- Every record of the map has a key. -/
  known : ∀ record ∈ records, ∃ key, store.key? record = some key
  value_eq : ∀ record key, store.key? record = some key → contents[key]? = records[record]?

variable {contents : Contents} {records : RecordContents}

namespace Encodes

theorem empty : Store.empty.Encodes ∅ ∅ where
  represents := represents_empty
  faithful := ⟨Lexicon.faithful_empty, Lexicon.faithful_empty⟩
  named := by simp
  known := by simp
  value_eq := by simp

theorem mem_iff
    (encodes : store.Encodes contents records)
    (known : store.key? record = some key) :
    key ∈ contents ↔ record ∈ records := by
  rw [← Std.ExtTreeMap.isSome_getElem?_iff_mem, ← Std.ExtTreeMap.isSome_getElem?_iff_mem,
    encodes.value_eq record key known]

theorem key?_record (encodes : store.Encodes contents records) (member : key ∈ contents) :
    store.key? (store.record key) = some key := by
  rcases encodes.named key member with ⟨record, known⟩
  rw [encodes.faithful.record_eq known]
  exact known

theorem not_mem_of_key?_eq_none
    (encodes : store.Encodes contents records)
    (unknown : store.key? record = none) :
    record ∉ records := by
  intro member
  rcases encodes.known record member with ⟨key, known⟩
  rw [unknown] at known
  cases known

/-! ## One edit -/

/-- New terms make up no stored record, so the map stays as it is. -/
theorem intern (encodes : store.Encodes contents records) (record : Record) :
    (store.intern record).2.Encodes contents records where
  represents := encodes.represents.intern record
  faithful := encodes.faithful.intern record
  named := by
    intro key member
    rcases encodes.named key member with ⟨other, known⟩
    exact ⟨other, key?_intern_of_key? known⟩
  known := by
    intro other member
    rcases encodes.known other member with ⟨key, known⟩
    exact ⟨key, key?_intern_of_key? known⟩
  value_eq := by
    intro other key knownAfter
    cases knownBefore : store.key? other with
    | some oldKey =>
        have same : oldKey = key := by
          rw [key?_intern_of_key? knownBefore] at knownAfter
          exact Option.some.inj knownAfter
        rw [← same]
        exact encodes.value_eq other oldKey knownBefore
    | none =>
        -- A record whose key is new is not stored under another name either.
        have missing : key ∉ contents := by
          intro member
          rcases encodes.named key member with ⟨name, named⟩
          have sameRecord : name = other :=
            ((encodes.faithful.intern record).key_eq_iff
              (key?_intern_of_key? named) knownAfter).mp rfl
          rw [sameRecord, knownBefore] at named
          cases named
        rw [Std.ExtTreeMap.getElem?_eq_none missing,
          Std.ExtTreeMap.getElem?_eq_none (encodes.not_mem_of_key?_eq_none knownBefore)]

theorem insert
    (encodes : store.Encodes contents records)
    (known : store.key? record = some key)
    (value : String) :
    (store.insert { key with value }).Encodes (contents.insert key value)
      (records.insert record value) where
  represents := encodes.represents.insert { key with value }
  faithful := { encodes.faithful with }
  named := by
    intro other member
    rcases Std.ExtTreeMap.mem_insert.mp member with same | old
    · exact ⟨record, known.trans (by rw [Std.LawfulEqCmp.eq_of_compare same])⟩
    · exact encodes.named other old
  known := by
    intro other member
    rcases Std.ExtTreeMap.mem_insert.mp member with same | old
    · exact ⟨key, by rw [← Std.LawfulEqCmp.eq_of_compare same]; exact known⟩
    · exact encodes.known other old
  value_eq := by
    intro other otherKey otherKnown
    rw [Std.ExtTreeMap.getElem?_insert, Std.ExtTreeMap.getElem?_insert]
    refine if_congr ?_ rfl (encodes.value_eq other otherKey otherKnown)
    simpa using encodes.faithful.key_eq_iff known otherKnown

theorem erase
    (encodes : store.Encodes contents records)
    (known : store.key? record = some key) :
    (store.erase key).2.Encodes (contents.erase key) (records.erase record) where
  represents := encodes.represents.erase key
  faithful := encodes.faithful.erase key
  named := by
    intro other member
    rcases encodes.named other (Std.ExtTreeMap.mem_of_mem_erase member) with ⟨name, named⟩
    exact ⟨name, (key?_erase key name).trans named⟩
  known := by
    intro other member
    rcases encodes.known other (Std.ExtTreeMap.mem_of_mem_erase member) with ⟨otherKey, found⟩
    exact ⟨otherKey, (key?_erase key other).trans found⟩
  value_eq := by
    intro other otherKey otherKnown
    rw [key?_erase] at otherKnown
    rw [Std.ExtTreeMap.getElem?_erase, Std.ExtTreeMap.getElem?_erase]
    refine if_congr ?_ rfl (encodes.value_eq other otherKey otherKnown)
    simpa using encodes.faithful.key_eq_iff known otherKnown

theorem apply (encodes : store.Encodes contents records) (edit : RecordEdit) :
    (edit.toEdit.apply store).Encodes (edit.toEdit.mirror store contents)
      (edit.mirror records) := by
  cases edit with
  | insert record value =>
      exact (encodes.intern record).insert (key?_intern store record) value
  | erase record =>
      simp only [RecordEdit.toEdit, RecordEdit.mirror, Edit.apply, Edit.mirror, eraseRecord]
      cases known : store.key? record with
      | some key => exact encodes.erase known
      | none =>
          rw [Map.erase_eq_self (encodes.not_mem_of_key?_eq_none known)]
          exact encodes

/-- Erasing reports whether the map has the record. -/
theorem eraseRecord_fst (encodes : store.Encodes contents records) (record : Record) :
    (store.eraseRecord record).1 = records.contains record := by
  unfold eraseRecord
  cases known : store.key? record with
  | none =>
      have missing := encodes.not_mem_of_key?_eq_none known
      rw [Std.ExtTreeMap.mem_iff_contains, Bool.not_eq_true] at missing
      exact missing.symm
  | some key =>
      rw [encodes.represents.erase_fst, Bool.eq_iff_iff, Std.ExtTreeMap.contains_iff_mem,
        Std.ExtTreeMap.contains_iff_mem]
      exact encodes.mem_iff known

/-! ## A run of edits -/

theorem run (encodes : store.Encodes contents records) (edits : List RecordEdit) :
    (store.run (edits.map RecordEdit.toEdit)).Encodes
      (store.mirror contents (edits.map RecordEdit.toEdit))
      (edits.foldl RecordEdit.mirror records) := by
  induction edits generalizing store contents records with
  | nil => exact encodes
  | cons edit rest inductionHypothesis => exact inductionHypothesis (encodes.apply edit)

/-! ## What a store lists -/

/-- The records of the stored keys are those of the map, with the same payloads. -/
theorem perm_toList (encodes : store.Encodes contents records) :
    (contents.toList.map fun entry => (store.record entry.1, entry.2)).Perm
      records.toList := by
  have listedNodup :
      (contents.toList.map fun entry => (store.record entry.1, entry.2)).Nodup := by
    rw [List.Nodup, List.pairwise_map]
    refine (Map.distinct_names contents).imp_of_mem ?_
    intro left right leftMember rightMember different same
    have sameRecord : store.record left.1 = store.record right.1 := congrArg Prod.fst same
    have leftKey := encodes.key?_record (Map.mem_of_mem_toList leftMember)
    rw [sameRecord, encodes.key?_record (Map.mem_of_mem_toList rightMember)] at leftKey
    exact different (Option.some.inj leftKey).symm
  rw [List.perm_ext_iff_of_nodup listedNodup (Map.nodup_toList records)]
  intro entry
  rcases entry with ⟨record, value⟩
  rw [List.mem_map]
  constructor
  · rintro ⟨⟨key, _⟩, member, same⟩
    cases same
    have known := encodes.key?_record (Map.mem_of_mem_toList member)
    rw [Std.ExtTreeMap.mem_toList_iff_getElem?_eq_some] at member ⊢
    rw [← encodes.value_eq _ key known]
    exact member
  · intro member
    rcases encodes.known record (Map.mem_of_mem_toList member) with ⟨key, known⟩
    refine ⟨(key, value), ?_, by rw [encodes.faithful.record_eq known]⟩
    rw [Std.ExtTreeMap.mem_toList_iff_getElem?_eq_some] at member ⊢
    rw [encodes.value_eq record key known]
    exact member

/-- The full listing names the records of the map, each once. -/
theorem perm_triples (encodes : store.Encodes contents records) :
    (store.triples.map fun triple => (store.record triple.toKey, triple.value)).Perm
      records.toList := by
  have listed := encodes.represents.lists_triples.perm_toList
  rw [List.filter_eq_self.mpr (by simp [IdPattern.Matches])] at listed
  have named := listed.map fun entry => (store.record entry.1, entry.2)
  rw [List.map_map] at named
  exact named.trans encodes.perm_toList

theorem perm_storedRecords (encodes : store.Encodes contents records) :
    store.storedRecords.Perm records.keys := by
  have named := encodes.perm_triples.map Prod.fst
  rwa [List.map_map, Std.ExtTreeMap.map_fst_toList_eq_keys] at named

theorem nodup_storedRecords (encodes : store.Encodes contents records) :
    store.storedRecords.Nodup :=
  encodes.perm_storedRecords.nodup_iff.mpr Std.ExtTreeMap.nodup_keys

theorem stores_iff (encodes : store.Encodes contents records) (record : Record) :
    store.Stores record ↔ record ∈ records := by
  rw [← Std.ExtTreeMap.mem_keys, ← encodes.perm_storedRecords.mem_iff, mem_storedRecords_iff]

theorem getElem?_eq_some_iff
    (encodes : store.Encodes contents records)
    (record : Record)
    (value : String) :
    records[record]? = some value ↔
      ∃ triple ∈ store.triples, store.record triple.toKey = record ∧ triple.value = value := by
  rw [← Std.ExtTreeMap.mem_toList_iff_getElem?_eq_some, ← encodes.perm_triples.mem_iff,
    List.mem_map]
  simp only [Prod.mk.injEq]

theorem size_eq (encodes : store.Encodes contents records) : store.size = records.size := by
  have lengths := encodes.perm_toList.length_eq
  rw [List.length_map, Std.ExtTreeMap.length_toList, Std.ExtTreeMap.length_toList] at lengths
  exact encodes.represents.count.trans lengths

end Encodes

theorem encodes_afterRecordEdits (edits : List RecordEdit) :
    (afterRecordEdits edits).Encodes (contentsAfter (edits.map RecordEdit.toEdit))
      (recordsAfter edits) :=
  Encodes.empty.run edits

/-! ## Records of a file -/

theorem foldl_insertRecord (store : Store) (listed : List Record) (value : String) :
    listed.foldl (fun store record => (store.insertRecord record value).2) store =
      store.run ((listed.map fun record => .insert record value).map RecordEdit.toEdit) := by
  induction listed generalizing store with
  | nil => rfl
  | cons record rest inductionHypothesis => exact inductionHypothesis _

theorem ofRecords_eq (listed : List Record) :
    ofRecords listed =
      afterRecordEdits (listed.map fun record => .insert record filePayload) :=
  foldl_insertRecord empty listed filePayload

theorem mem_foldl_mirror_insert
    (records : RecordContents)
    (listed : List Record)
    (value : String)
    (record : Record) :
    record ∈ (listed.map fun record => RecordEdit.insert record value).foldl
        RecordEdit.mirror records ↔
      record ∈ listed ∨ record ∈ records := by
  induction listed generalizing records with
  | nil => simp
  | cons first rest inductionHypothesis =>
      rw [List.map_cons, List.foldl_cons, inductionHypothesis, RecordEdit.mirror,
        Std.ExtTreeMap.mem_insert, List.mem_cons, Std.LawfulEqCmp.compare_eq_iff_eq,
        or_left_comm, or_assoc, eq_comm (a := first)]

/-- A store made from a file lists the records of the file. -/
theorem stores_ofRecords_iff (listed : List Record) (record : Record) :
    (ofRecords listed).Stores record ↔ record ∈ listed := by
  rw [ofRecords_eq, (encodes_afterRecordEdits _).stores_iff, recordsAfter,
    mem_foldl_mirror_insert]
  simp

theorem faithful_ofRecords (listed : List Record) : (ofRecords listed).Faithful := by
  rw [ofRecords_eq]
  exact (encodes_afterRecordEdits _).faithful

theorem exists_key?_ofRecords {listed : List Record} (member : record ∈ listed) :
    ∃ key, (ofRecords listed).key? record = some key := by
  have encodes := encodes_afterRecordEdits
    (listed.map fun record => .insert record filePayload)
  rw [← ofRecords_eq] at encodes
  exact encodes.known record
    ((encodes.stores_iff record).mp ((stores_ofRecords_iff listed record).mpr member))

end Store

end TripleStore
