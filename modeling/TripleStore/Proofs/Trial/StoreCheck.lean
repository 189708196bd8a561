import TripleStore.Proofs.Store.Encoding
import TripleStore.Proofs.Store.Sharing
import TripleStore.Trial.Audit

/-!
Contract: the check of a whole store finds something exactly if the store and the map differ.

Owns:
- for each part of the check, why it finds nothing in a store that encodes the map;
- that the scan of a store finds every other map to differ;
- how what is found is reported, and what the check of a store reports after any edits.

Does not own: the check of the answer to a query (`TripleStore.Proofs.Trial.QueryCheck`).
-/

namespace TripleStore

namespace Trial

variable {store : Store} {contents : Contents} {records : RecordContents} {model : Model}

@[simp] theorem reportUnless_eq_nil_iff
    {condition : Prop}
    [Decidable condition]
    {finding : Finding} :
    reportUnless condition finding = [] ↔ condition := by
  unfold reportUnless
  split <;> simp_all

/-! ## Payloads and leaves -/

theorem recordFindings_eq_nil
    (encodes : store.Encodes contents records)
    {record : Record}
    {value : String}
    (listed : (record, value) ∈ records.toList) :
    recordFindings store record value = [] := by
  have member : record ∈ records := Map.mem_of_mem_toList listed
  obtain ⟨key, known⟩ := encodes.known record member
  rw [Std.ExtTreeMap.mem_toList_iff_getElem?_eq_some] at listed
  have probed : ∀ order, store.probe order key = some value := by
    intro order
    rw [encodes.represents.probe_eq, encodes.value_eq record key known, listed]
  have shares := encodes.represents.sharesLeaves_of_mem ((encodes.mem_iff known).mpr member)
  simp [recordFindings, known, orderFindings, probed, shares]

/-! ## The scan -/

/-- The map that is left of a scan, and that nothing comes twice where the records
differ. -/
theorem scan_eq
    {seen : Model}
    {triples : List Triple}
    (fresh : ∀ triple ∈ triples, store.record triple.toKey ∉ seen)
    (distinct : (triples.map fun triple => store.record triple.toKey).Nodup) :
    scan store seen triples =
      (seen.insertMany (triples.map fun triple => (store.record triple.toKey, triple.value)),
        []) := by
  induction triples generalizing seen with
  | nil => simp [scan]
  | cons triple rest inductionHypothesis =>
      rw [List.map_cons, List.nodup_cons] at distinct
      obtain ⟨freshFirst, freshRest⟩ := List.forall_mem_cons.mp fresh
      have freshAfter : ∀ other ∈ rest, store.record other.toKey ∉
          seen.insert (store.record triple.toKey) triple.value := by
        intro other member inserted
        rcases Std.ExtTreeMap.mem_insert.mp inserted with same | old
        · apply distinct.1
          rw [Std.LawfulEqCmp.eq_of_compare same]
          exact List.mem_map_of_mem member
        · exact freshRest other member old
      rw [scan, inductionHypothesis freshAfter distinct.2, List.map_cons,
        Std.ExtTreeMap.insertMany_cons]
      simp [freshFirst]

theorem scan_triples (encodes : store.Encodes contents records) :
    scan store ∅ store.triples = (records, []) := by
  have fresh : ∀ triple ∈ store.triples, store.record triple.toKey ∉ (∅ : Model) := by simp
  rw [scan_eq fresh encodes.nodup_storedRecords, ← Std.ExtTreeMap.ofList_eq_insertMany_empty,
    Map.ofList_eq_of_perm_toList encodes.perm_triples]

theorem scanFindings_eq_nil_iff (encodes : store.Encodes contents records) :
    scanFindings store model = [] ↔ records = model := by
  unfold scanFindings
  rw [scan_triples encodes]
  simp

/-! ## The lexicons -/

theorem lexiconFindings_eq_nil
    {space : IdSpace}
    {lexicon : Lexicon space}
    (faithful : lexicon.Faithful)
    (name : String) :
    lexiconFindings lexicon name = [] := by
  unfold lexiconFindings
  rw [List.flatMap_eq_nil_iff]
  intro entry member
  obtain ⟨id, term⟩ := entry
  rw [reportUnless_eq_nil_iff, faithful]
  exact Lexicon.mem_toList_iff.mp member

/-! ## The whole check -/

/-- The check finds nothing exactly in the map that the store encodes. -/
theorem storeFindings_eq_nil_iff (encodes : store.Encodes contents records) :
    storeFindings store model = [] ↔ records = model := by
  simp only [storeFindings, List.append_eq_nil_iff, reportUnless_eq_nil_iff,
    scanFindings_eq_nil_iff encodes]
  constructor
  · -- The scan alone tells any two maps apart.
    rintro ⟨⟨⟨_, scanned⟩, _⟩, _⟩
    exact scanned
  · rintro rfl
    have found : (records.toList.flatMap fun entry => recordFindings store entry.1 entry.2) =
        [] := by
      rw [List.flatMap_eq_nil_iff]
      intro entry listed
      exact recordFindings_eq_nil encodes listed
    exact ⟨⟨⟨⟨encodes.size_eq, found⟩, rfl⟩,
      lexiconFindings_eq_nil encodes.faithful.entities "entity"⟩,
      lexiconFindings_eq_nil encodes.faithful.predicates "predicate"⟩

/-! ## Reports -/

/-- What was found is put behind the violations so far, with the index of the check. -/
theorem Audit.exists_appended (audit : Audit) (findings : List Finding) (index : Nat) :
    ∃ appended,
      (audit.report index findings).violations = audit.violations ++ appended ∧
        (appended = [] ↔ findings = []) ∧
        ∀ violation ∈ appended, violation.index = index := by
  refine ⟨findings.map (·.at index), rfl, List.map_eq_nil_iff, ?_⟩
  intro violation member
  obtain ⟨finding, _, rfl⟩ := List.mem_map.mp member
  rfl

/-- After any edits by terms, the check of the store appends a violation exactly if the map
is another one than the map of the stored records to their payloads. Whatever it appends
has the index of the check and comes behind the violations so far. -/
theorem checkStore_appends_nothing_iff
    (edits : List Store.RecordEdit)
    (audit : Audit)
    (model : Model)
    (index : Nat) :
    let store := Store.afterRecordEdits edits
    let records := Store.recordsAfter edits
    (∀ record value, records[record]? = some value ↔
        ∃ triple ∈ store.triples,
          store.record triple.toKey = record ∧ triple.value = value) ∧
      ∃ appended,
        (audit.checkStore store model index).violations = audit.violations ++ appended ∧
          (appended = [] ↔ model = records) ∧
          ∀ violation ∈ appended, violation.index = index := by
  intro store records
  have encodes := Store.encodes_afterRecordEdits edits
  refine ⟨encodes.getElem?_eq_some_iff, ?_⟩
  obtain ⟨appended, follows, nothing, indexed⟩ :=
    audit.exists_appended (storeFindings store model) index
  refine ⟨appended, follows, ?_, indexed⟩
  rw [nothing, storeFindings_eq_nil_iff encodes, eq_comm]

end Trial

end TripleStore
