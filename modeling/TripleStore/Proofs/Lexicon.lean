import TripleStore.Lexicon

/-!
Contract: lexicons that number every term once.

Owns:
- `Lexicon.Faithful`, by which terms and identifiers lead to each other;
- that interning keeps a lexicon faithful, keeps the identifiers that it has handed out,
  and gives the term one;
- `Lexicon.NumbersInOrder`, by which the numbers follow the first uses of the terms, and
  that interning keeps it.

Does not own: numbering a term a second time, after which its older identifier no longer
comes back.
-/

namespace TripleStore.Lexicon

variable {space : IdSpace} {lexicon : Lexicon space} {term other : String} {id : Id space}

/-- A term has an identifier exactly if the identifier stands for the term. -/
def Faithful (lexicon : Lexicon space) : Prop :=
  ∀ term id, lexicon.id? term = some id ↔ lexicon.term? id = some term

theorem term?_nextId (lexicon : Lexicon space) : lexicon.term? lexicon.nextId = none := by
  simp [term?, nextId, lexicon.counter_eq]

theorem faithful_empty : (empty : Lexicon space).Faithful := by
  intro term id
  simp [empty, id?, term?]

theorem intern_of_id? (known : lexicon.id? term = some id) :
    lexicon.intern term = (id, lexicon) := by
  unfold intern
  rw [known]

theorem intern_of_id?_eq_none (unknown : lexicon.id? term = none) :
    lexicon.intern term = lexicon.append term := by
  unfold intern
  rw [unknown]

/-- Interned terms have the identifier that interning gives for them. -/
theorem id?_intern (lexicon : Lexicon space) (term : String) :
    (lexicon.intern term).2.id? term = some (lexicon.intern term).1 := by
  cases found : lexicon.id? term with
  | none =>
      rw [intern_of_id?_eq_none found, id?_append, if_pos rfl]
      rfl
  | some id =>
      rw [intern_of_id? found]
      exact found

/-- No other term gets an identifier, and none loses its own. -/
theorem id?_intern_of_ne (different : term ≠ other) :
    (lexicon.intern term).2.id? other = lexicon.id? other := by
  cases found : lexicon.id? term with
  | none => rw [intern_of_id?_eq_none found, id?_append, if_neg different]
  | some id => rw [intern_of_id? found]

theorem id?_intern_of_id? (known : lexicon.id? other = some id) :
    (lexicon.intern term).2.id? other = some id := by
  by_cases same : term = other
  · subst same
    rw [intern_of_id? known]
    exact known
  · rw [id?_intern_of_ne same]
    exact known

theorem Faithful.intern (faithful : lexicon.Faithful) (term : String) :
    (lexicon.intern term).2.Faithful := by
  cases found : lexicon.id? term with
  | some id =>
      rw [intern_of_id? found]
      exact faithful
  | none =>
      intro other id
      rw [intern_of_id?_eq_none found, id?_append, term?_append]
      by_cases sameTerm : term = other <;> by_cases sameId : id = lexicon.nextId
      · simp [sameTerm, sameId]
      · -- The term has no identifier but the new one.
        have noneBefore : lexicon.term? id ≠ some other := by
          intro stands
          rw [← faithful, ← sameTerm, found] at stands
          cases stands
        simp [sameTerm, sameId, Ne.symm sameId, noneBefore]
      · -- The new identifier stood for nothing before.
        have noneBefore : lexicon.id? other ≠ some lexicon.nextId := by
          intro known
          rw [faithful, term?_nextId] at known
          cases known
        simp [sameTerm, sameId, noneBefore]
      · rw [if_neg sameTerm, if_neg sameId]
        exact faithful other id

/-- The counter stands behind the last term, so that no term is left out of the listing. -/
theorem getElem?_toList (lexicon : Lexicon space) (index : Nat) :
    lexicon.toList[index]? = (lexicon.term? ⟨index⟩).map fun term => (⟨index⟩, term) := by
  rw [toList, List.zip_eq_zipWith, List.getElem?_zipWith, List.getElem?_map, lexicon.counter_eq,
    term?, ← Array.getElem?_toList]
  by_cases below : index < lexicon.terms.size
  · rw [List.getElem?_range below]
    cases lexicon.terms.toList[index]? <;> rfl
  · have beyond : lexicon.terms.toList[index]? = none :=
      List.getElem?_eq_none (Nat.le_of_not_lt below)
    rw [beyond]
    cases ((List.range lexicon.terms.size)[index]?).map Id.mk <;> rfl

theorem mem_toList_iff : (id, term) ∈ lexicon.toList ↔ lexicon.term? id = some term := by
  rw [List.mem_iff_getElem?]
  simp only [getElem?_toList, Option.map_eq_some_iff, Prod.mk.injEq]
  constructor
  · rintro ⟨_, _, found, rfl, rfl⟩
    exact found
  · intro found
    exact ⟨id.index, term, found, rfl, rfl⟩

theorem isSome_term?_iff : (lexicon.term? id).isSome = true ↔ id.index < lexicon.size := by
  simp [term?, size]

theorem exists_term?_iff :
    (∃ index, lexicon.term? ⟨index⟩ = some term) ↔ term ∈ lexicon.terms.toList := by
  simp only [term?, List.mem_iff_getElem?, Array.getElem?_toList]

theorem mem_terms_of_id? (faithful : lexicon.Faithful) (known : lexicon.id? term = some id) :
    term ∈ lexicon.terms.toList :=
  exists_term?_iff.mp ⟨id.index, (faithful term id).mp known⟩

/-- No term is numbered twice. -/
theorem Faithful.nodup_terms (faithful : lexicon.Faithful) : lexicon.terms.toList.Nodup := by
  rw [List.Nodup, List.pairwise_iff_getElem]
  intro first second firstLt secondLt isBefore same
  have firstStands : lexicon.term? ⟨first⟩ = some lexicon.terms.toList[first] := by
    rw [term?, ← Array.getElem?_toList, List.getElem?_eq_getElem firstLt]
  have secondStands : lexicon.term? ⟨second⟩ = some lexicon.terms.toList[second] := by
    rw [term?, ← Array.getElem?_toList, List.getElem?_eq_getElem secondLt]
  rw [← faithful] at firstStands secondStands
  rw [same, secondStands, Option.some.injEq, Id.mk.injEq] at firstStands
  omega

theorem mem_terms_intern (member : other ∈ (lexicon.intern term).2.terms.toList) :
    other = term ∨ other ∈ lexicon.terms.toList := by
  cases found : lexicon.id? term with
  | some id =>
      rw [intern_of_id? found] at member
      exact Or.inr member
  | none =>
      rw [intern_of_id?_eq_none found, append, Array.toList_push, List.mem_append,
        List.mem_singleton] at member
      exact member.symm

/-! ## Numbers by first use -/

/-- The terms that were used are numbered from zero, each once, in the order in which they
were first used. -/
structure NumbersInOrder (lexicon : Lexicon space) (uses : List String) : Prop where
  terms_eq : lexicon.terms.toList = uses.eraseDups
  faithful : lexicon.Faithful
  /-- The terms with identifiers are those that were used. -/
  isSome_id?_iff : ∀ term, (lexicon.id? term).isSome = true ↔ term ∈ uses
  /-- The identifiers of terms are those below the size. -/
  isSome_term?_iff : ∀ id, (lexicon.term? id).isSome = true ↔ id.index < lexicon.size

namespace NumbersInOrder

variable {uses : List String}

/-- The terms in their order, and the way back from each, say all. -/
theorem of_terms_eq
    (terms_eq : lexicon.terms.toList = uses.eraseDups)
    (faithful : lexicon.Faithful) :
    lexicon.NumbersInOrder uses where
  terms_eq := terms_eq
  faithful := faithful
  isSome_id?_iff := by
    intro term
    have listed : term ∈ uses ↔ ∃ index, lexicon.term? ⟨index⟩ = some term := by
      rw [exists_term?_iff, terms_eq, List.mem_eraseDups]
    rw [listed, Option.isSome_iff_exists]
    constructor
    · rintro ⟨id, known⟩
      exact ⟨id.index, (faithful term id).mp known⟩
    · rintro ⟨index, stands⟩
      exact ⟨⟨index⟩, (faithful term ⟨index⟩).mpr stands⟩
  isSome_term?_iff := fun _ => Lexicon.isSome_term?_iff

theorem empty : (Lexicon.empty : Lexicon space).NumbersInOrder [] :=
  of_terms_eq rfl faithful_empty

/-- A term that is used again keeps its number, and a new one gets the next. -/
theorem intern (numbers : lexicon.NumbersInOrder uses) (term : String) :
    (lexicon.intern term).2.NumbersInOrder (uses ++ [term]) := by
  apply of_terms_eq ?_ (numbers.faithful.intern term)
  have used := numbers.isSome_id?_iff term
  rw [List.eraseDups_append, ← numbers.terms_eq]
  cases found : lexicon.id? term with
  | some id =>
      have member : term ∈ uses := used.mp (by rw [found]; rfl)
      rw [intern_of_id? found]
      simp [List.removeAll, member]
  | none =>
      have missing : term ∉ uses := by
        rw [← used, found]
        exact Bool.false_ne_true
      rw [intern_of_id?_eq_none found]
      simp [List.removeAll, missing, append, List.eraseDups_cons]

end NumbersInOrder

end TripleStore.Lexicon
