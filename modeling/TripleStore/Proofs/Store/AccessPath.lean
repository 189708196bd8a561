import TripleStore.Proofs.PairIndex.Listing
import TripleStore.Proofs.Store.Refinement
import TripleStore.Store.Select

/-!
Contract: every access path lists exactly the triples that match its pattern.

Owns:
- `Lists`, by which a list of triples is the part of a map that a pattern selects;
- that each kind of walk through a pair index lists such a part;
- the eight access paths of a store as parts of what it stores.

Does not own: patterns over terms (`TripleStore.Query`).
-/

namespace TripleStore

/-- The key and the payload of a triple. -/
def Triple.entry (triple : Triple) : Key × String :=
  (triple.toKey, triple.value)

theorem Triple.entry_injective {left right : Triple} (same : left.entry = right.entry) :
    left = right := by
  cases left
  cases right
  simp_all [entry]

/-- The triples are the keys that match the pattern, each once, with the payloads that
are looked up for them. -/
structure Lists
    (lookup : Key → Option String)
    (pattern : IdPattern)
    (listed : List Triple) : Prop where
  nodup_keys : (listed.map Triple.toKey).Nodup
  mem_iff : ∀ triple, triple ∈ listed ↔
    pattern.Matches triple.toKey ∧ lookup triple.toKey = some triple.value

namespace Lists

variable {lookup : Key → Option String} {pattern : IdPattern} {listed : List Triple}

/-- Entries that are shown as triples with different keys list what they show. -/
theorem of_map
    {Entry : Type}
    {entries : List Entry}
    {shown : Entry → Triple}
    (distinct : entries.Pairwise fun left right => (shown left).toKey ≠ (shown right).toKey)
    (sound : ∀ entry ∈ entries,
      pattern.Matches (shown entry).toKey ∧
        lookup (shown entry).toKey = some (shown entry).value)
    (complete : ∀ triple : Triple,
      pattern.Matches triple.toKey → lookup triple.toKey = some triple.value →
        ∃ entry ∈ entries, shown entry = triple) :
    Lists lookup pattern (entries.map shown) where
  nodup_keys := by
    rw [List.Nodup, List.map_map, List.pairwise_map]
    exact distinct
  mem_iff := by
    intro triple
    rw [List.mem_map]
    constructor
    · intro shownMember
      rcases shownMember with ⟨entry, member, rfl⟩
      exact sound entry member
    · intro stored
      exact complete triple stored.1 stored.2

theorem nodup (lists : Lists lookup pattern listed) : listed.Nodup := by
  have distinct := List.pairwise_map.mp lists.nodup_keys
  refine distinct.imp ?_
  intro left right different same
  exact different (congrArg Triple.toKey same)

/-- What matches one pattern is found among what matches every key. -/
theorem perm_filter
    {all : List Triple}
    (lists : Lists lookup pattern listed)
    (listsAll : Lists lookup ⟨none, none, none⟩ all) :
    listed.Perm (all.filter fun triple => pattern.Matches triple.toKey) := by
  rw [List.perm_ext_iff_of_nodup lists.nodup (listsAll.nodup.filter _)]
  intro triple
  rw [List.mem_filter, lists.mem_iff, listsAll.mem_iff]
  simp [IdPattern.Matches, and_comm]

/-- The entries of the triples are the selected entries of the map. -/
theorem perm_toList
    {contents : Contents}
    (lists : Lists (contents[·]?) pattern listed) :
    (listed.map Triple.entry).Perm
      (contents.toList.filter fun entry => pattern.Matches entry.1) := by
  have listedNodup : (listed.map Triple.entry).Nodup :=
    List.pairwise_map.mpr (lists.nodup.imp fun different same =>
      different (Triple.entry_injective same))
  rw [List.perm_ext_iff_of_nodup listedNodup ((Map.nodup_toList contents).filter _)]
  intro entry
  rcases entry with ⟨key, value⟩
  rw [List.mem_filter, Std.ExtTreeMap.mem_toList_iff_getElem?_eq_some, List.mem_map]
  constructor
  · intro shown
    rcases shown with ⟨triple, member, same⟩
    cases same
    have selected := (lists.mem_iff triple).mp member
    exact ⟨selected.2, by simpa using selected.1⟩
  · intro stored
    refine ⟨{ key with value }, (lists.mem_iff _).mpr ⟨?_, stored.1⟩, rfl⟩
    simpa using stored.2

end Lists

/-! ## Walks through one index -/

namespace PairIndex

variable {first second third inner : IdSpace}
variable {index : PairIndex first second third} {layout : Layout first second third}
variable {contents : Contents} {pattern : IdPattern}

theorem Holds.lists_entries
    (holds : index.Holds layout contents)
    (firstId : Id first)
    (secondId : Id second)
    (matches_iff : ∀ key, pattern.Matches key ↔
      ∃ thirdId, layout.key firstId secondId thirdId = key) :
    Lists (contents[·]?) pattern
      ((index.entries firstId secondId).map fun (thirdId, value) =>
        { layout.key firstId secondId thirdId with value }) := by
  apply Lists.of_map
  · refine (index.distinct_entries firstId secondId).imp ?_
    intro left right different same
    exact different (layout.injective same).2.2
  · intro entry member
    rcases entry with ⟨thirdId, value⟩
    refine ⟨(matches_iff _).mpr ⟨thirdId, rfl⟩, ?_⟩
    rw [← holds.value?_eq]
    exact (index.mem_entries _ _ _ _).mp member
  · intro triple selected found
    rcases triple with ⟨key, value⟩
    rcases (matches_iff _).mp selected with ⟨thirdId, rfl⟩
    rw [← holds.value?_eq] at found
    exact ⟨(thirdId, value), (index.mem_entries _ _ _ _).mpr found, rfl⟩

/-- A row of either parent map, whose other identifiers make up keys with the third
ones. -/
theorem lists_entriesBelow
    (row : Option (Std.ExtTreeMap (Id inner) Nat))
    (key : Id inner → Id third → Key)
    (injective : ∀ {innerId otherInner thirdId otherThird},
      key innerId thirdId = key otherInner otherThird →
        innerId = otherInner ∧ thirdId = otherThird)
    (value_eq : ∀ innerId thirdId,
      ((row.bind fun slots => slots[innerId]?).bind fun slot =>
        index.valueAt? slot thirdId) = contents[key innerId thirdId]?)
    (matches_iff : ∀ other, pattern.Matches other ↔
      ∃ innerId thirdId, key innerId thirdId = other) :
    Lists (contents[·]?) pattern
      ((index.entriesBelow row).map fun (innerId, thirdId, value) =>
        { key innerId thirdId with value }) := by
  apply Lists.of_map
  · refine (index.distinct_entriesBelow row).imp ?_
    intro left right different same
    exact different (injective same)
  · intro entry member
    rcases entry with ⟨innerId, thirdId, value⟩
    refine ⟨(matches_iff _).mpr ⟨innerId, thirdId, rfl⟩, ?_⟩
    rw [← value_eq]
    exact (index.mem_entriesBelow _ _ _ _).mp member
  · intro triple selected found
    rcases triple with ⟨other, value⟩
    rcases (matches_iff _).mp selected with ⟨innerId, thirdId, rfl⟩
    rw [← value_eq] at found
    exact ⟨(innerId, thirdId, value), (index.mem_entriesBelow _ _ _ _).mpr found, rfl⟩

theorem Holds.lists_entriesOfFirst
    (holds : index.Holds layout contents)
    (firstId : Id first)
    (matches_iff : ∀ key, pattern.Matches key ↔
      ∃ secondId thirdId, layout.key firstId secondId thirdId = key) :
    Lists (contents[·]?) pattern
      ((index.entriesOfFirst firstId).map fun (secondId, thirdId, value) =>
        { layout.key firstId secondId thirdId with value }) := by
  apply lists_entriesBelow index.forward[firstId]? (layout.key firstId)
  · exact fun same => (layout.injective same).2
  · exact holds.value?_eq firstId
  · exact matches_iff

theorem Holds.lists_entriesOfSecond
    (holds : index.Holds layout contents)
    (secondId : Id second)
    (matches_iff : ∀ key, pattern.Matches key ↔
      ∃ firstId thirdId, layout.key firstId secondId thirdId = key) :
    Lists (contents[·]?) pattern
      ((index.entriesOfSecond secondId).map fun (firstId, thirdId, value) =>
        { layout.key firstId secondId thirdId with value }) := by
  apply lists_entriesBelow index.backward[secondId]?
    (fun firstId thirdId => layout.key firstId secondId thirdId)
  · exact fun same => ⟨(layout.injective same).1, (layout.injective same).2.2⟩
  · intro firstId thirdId
    rw [← holds.value?_eq]
    exact holds.coherent.bind_backwardSlot? firstId secondId thirdId
  · exact matches_iff

end PairIndex

/-! ## The paths of a store -/

namespace Store

variable {store : Store} {contents : Contents}

theorem Represents.lists_selectKey (represents : store.Represents contents) (key : Key) :
    Lists (contents[·]?) ⟨some key.subject, some key.predicate, some key.object⟩
      (store.selectKey key) := by
  have found : store.objects.value? key.subject key.predicate key.object = contents[key]? :=
    represents.objects.value?_eq _ _ _
  unfold selectKey
  rw [found]
  apply Lists.of_map
  · cases contents[key]? <;> simp
  · intro value member
    exact ⟨by simp [IdPattern.Matches], by simpa using member⟩
  · intro triple selected stored
    rcases triple with ⟨other, value⟩
    have same : other = key := by
      cases other
      cases key
      simp_all [IdPattern.Matches]
    subst same
    exact ⟨value, by simpa using stored, rfl⟩

theorem Represents.lists_selectSubject
    (represents : store.Represents contents)
    (subject : EntityId) :
    Lists (contents[·]?) ⟨some subject, none, none⟩ (store.selectSubject subject) := by
  apply represents.objects.lists_entriesOfFirst
  rintro ⟨keySubject, predicate, object⟩
  simp [IdPattern.Matches, Layout.objects, eq_comm]

/-- Subjects differ between the parts of the full listing, so no key comes twice. -/
theorem Represents.lists_triples (represents : store.Represents contents) :
    Lists (contents[·]?) ⟨none, none, none⟩ store.triples where
  nodup_keys := by
    unfold triples
    rw [List.map_flatMap, List.Nodup, List.pairwise_flatMap]
    constructor
    · intro subject _
      exact (represents.lists_selectSubject subject).nodup_keys
    · refine store.objects.nodup_firsts.imp ?_
      intro leftSubject rightSubject different leftKey leftListed rightKey rightListed same
      rcases List.mem_map.mp leftListed with ⟨left, leftMember, rfl⟩
      rcases List.mem_map.mp rightListed with ⟨right, rightMember, rfl⟩
      have leftSelected := ((represents.lists_selectSubject _).mem_iff _).mp leftMember
      have rightSelected := ((represents.lists_selectSubject _).mem_iff _).mp rightMember
      have leftEq : left.subject = leftSubject := leftSelected.1.1 _ rfl
      have rightEq : right.subject = rightSubject := rightSelected.1.1 _ rfl
      exact different (by rw [← leftEq, ← rightEq, same])
  mem_iff := by
    intro triple
    unfold triples
    rw [List.mem_flatMap]
    constructor
    · intro listed
      rcases listed with ⟨subject, _, member⟩
      have selected := ((represents.lists_selectSubject subject).mem_iff triple).mp member
      exact ⟨by simp [IdPattern.Matches], selected.2⟩
    · intro stored
      have inFirst : store.objects.value? triple.subject triple.predicate triple.object =
          some triple.value := (represents.objects.value?_eq _ _ _).trans stored.2
      refine ⟨triple.subject, PairIndex.mem_firsts_of_value? _ inFirst, ?_⟩
      exact ((represents.lists_selectSubject _).mem_iff _).mpr
        ⟨by simp [IdPattern.Matches], stored.2⟩

/-- The path that fits a pattern lists what matches it. -/
theorem Represents.lists_select
    (represents : store.Represents contents) :
    ∀ pattern : IdPattern, Lists (contents[·]?) pattern (store.select pattern)
  | ⟨some subject, some predicate, some object⟩ =>
      represents.lists_selectKey { subject, predicate, object }
  | ⟨some subject, some predicate, none⟩ => by
      apply represents.objects.lists_entries
      rintro ⟨keySubject, keyPredicate, object⟩
      simp [IdPattern.Matches, Layout.objects, eq_comm]
  | ⟨some subject, none, some object⟩ => by
      apply represents.predicates.lists_entries
      rintro ⟨keySubject, predicate, keyObject⟩
      simp [IdPattern.Matches, Layout.predicates, eq_comm]
  | ⟨none, some predicate, some object⟩ => by
      apply represents.subjects.lists_entries
      rintro ⟨subject, keyPredicate, keyObject⟩
      simp [IdPattern.Matches, Layout.subjects, eq_comm]
  | ⟨some subject, none, none⟩ => represents.lists_selectSubject subject
  | ⟨none, some predicate, none⟩ => by
      apply represents.objects.lists_entriesOfSecond
      rintro ⟨subject, keyPredicate, object⟩
      simp [IdPattern.Matches, Layout.objects, eq_comm]
  | ⟨none, none, some object⟩ => by
      apply represents.subjects.lists_entriesOfSecond
      rintro ⟨subject, predicate, keyObject⟩
      simp [IdPattern.Matches, Layout.subjects, eq_comm]
  | ⟨none, none, none⟩ => represents.lists_triples

/-- The listed triples are the stored ones that match the pattern, each key once and with
the payload at the end of every order, and thus a part of the full listing. -/
structure Exact (store : Store) (pattern : IdPattern) (listed : List Triple) : Prop where
  lists : ∀ order, Lists (store.probe order) pattern listed
  filters : listed.Perm (store.triples.filter fun triple => pattern.Matches triple.toKey)

theorem Represents.exact_select
    (represents : store.Represents contents)
    (pattern : IdPattern) :
    store.Exact pattern (store.select pattern) where
  lists := by
    intro order
    have lookups : store.probe order = (contents[·]?) := by
      funext key
      exact represents.probe_eq order key
    rw [lookups]
    exact represents.lists_select pattern
  filters := (represents.lists_select pattern).perm_filter represents.lists_triples

theorem Represents.length_triples (represents : store.Represents contents) :
    store.triples.length = store.size := by
  have listed := represents.lists_triples.perm_toList.length_eq
  rw [List.length_map] at listed
  have everyKey : contents.toList.filter (fun entry =>
      decide (IdPattern.Matches ⟨none, none, none⟩ entry.1)) = contents.toList := by
    simp [IdPattern.Matches]
  rw [listed, everyKey, Std.ExtTreeMap.length_toList]
  exact represents.count.symm

/-- After any run of edits each of the eight access paths is exact for the pattern that
it serves, and the path without a bound role lists as many triples as are counted. -/
theorem afterEdits_accessPaths_exact
    (edits : List Edit)
    (subject : EntityId)
    (predicate : PredicateId)
    (object : EntityId) :
    let store := afterEdits edits
    store.Exact ⟨some subject, some predicate, some object⟩
        (store.selectKey { subject, predicate, object }) ∧
      store.Exact ⟨some subject, some predicate, none⟩
        (store.selectSubjectPredicate subject predicate) ∧
      store.Exact ⟨some subject, none, some object⟩
        (store.selectSubjectObject subject object) ∧
      store.Exact ⟨some subject, none, none⟩ (store.selectSubject subject) ∧
      store.Exact ⟨none, some predicate, some object⟩
        (store.selectPredicateObject predicate object) ∧
      store.Exact ⟨none, some predicate, none⟩ (store.selectPredicate predicate) ∧
      store.Exact ⟨none, none, some object⟩ (store.selectObject object) ∧
      store.Exact ⟨none, none, none⟩ store.triples ∧
      store.triples.length = store.size := by
  have represents := represents_afterEdits edits
  exact ⟨represents.exact_select _, represents.exact_select _, represents.exact_select _,
    represents.exact_select _, represents.exact_select _, represents.exact_select _,
    represents.exact_select _, represents.exact_select _, represents.length_triples⟩

end Store

end TripleStore
