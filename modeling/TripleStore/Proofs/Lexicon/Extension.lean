import Mathlib.Data.List.Induction
import Mathlib.Data.List.Nodup
import Mathlib.Order.Bounds.Basic
import TripleStore.Proofs.Lexicon

/-!
Contract: lexicons that may number a term again.

Owns:
- `Extension`, the two ways of handing a term to a lexicon, and runs of them;
- the numbered terms of a run, in the order of their numbers, as one plain list;
- `Lexicon.Assigns`, by which a lexicon numbers the terms of a list in their order and
  finds the newest number of each, and that every extension keeps it;
- what a lexicon then answers, and when a run numbers every term once.

Does not own: lexicons to which every term is handed by interning, and that are faithful
(`TripleStore.Proofs.Lexicon`).
-/

namespace TripleStore.Lexicon

variable {space : IdSpace} {lexicon : Lexicon space} {terms : List String}
variable {term other : String} {id : Id space}

/-! ## Runs -/

/-- A term that is handed to a lexicon. -/
inductive Extension where
  /-- Number the term, even if it has a number. -/
  | append (term : String)
  | intern (term : String)
deriving DecidableEq, Repr

namespace Extension

def apply (lexicon : Lexicon space) : Extension → Lexicon space
  | append term => (lexicon.append term).2
  | intern term => (lexicon.intern term).2

/-- What the extension does to a plain list of the numbered terms. -/
def mirror (terms : List String) : Extension → List String
  | append term => terms ++ [term]
  | intern term => if term ∈ terms then terms else terms ++ [term]

end Extension

/-- The lexicon that the extensions make of an empty one. -/
def afterExtensions (extensions : List Extension) : Lexicon space :=
  extensions.foldl Extension.apply empty

/-- The terms that the extensions number, in the order of their numbers. -/
def termsAfter (extensions : List Extension) : List String :=
  extensions.foldl Extension.mirror []

theorem afterExtensions_snoc (extensions : List Extension) (last : Extension) :
    afterExtensions (extensions ++ [last]) =
      last.apply (afterExtensions extensions : Lexicon space) := by
  simp [afterExtensions]

theorem termsAfter_snoc (extensions : List Extension) (last : Extension) :
    termsAfter (extensions ++ [last]) = last.mirror (termsAfter extensions) := by
  simp [termsAfter]

/-! ## The newest number of a term -/

/-- The numbers of a term: its positions in the list. -/
def positions (terms : List String) (term : String) : Set Nat :=
  {index | terms[index]? = some term}

theorem not_isGreatest_of_not_mem (missing : term ∉ terms) (index : Nat) :
    ¬IsGreatest (positions terms term) index := by
  intro newest
  exact missing (List.mem_of_getElem? newest.1)

/-- The position behind all others is the newest of its term. -/
theorem isGreatest_snoc_self (terms : List String) (term : String) :
    IsGreatest (positions (terms ++ [term]) term) terms.length := by
  constructor
  · exact List.getElem?_concat_length
  · intro index found
    have below : index < (terms ++ [term]).length :=
      (List.getElem?_eq_some_iff.mp found).1
    rw [List.length_append, List.length_singleton] at below
    exact Nat.lt_succ_iff.mp below

theorem positions_snoc_of_ne (different : term ≠ other) :
    positions (terms ++ [term]) other = positions terms other := by
  ext index
  simp only [positions, Set.mem_ofPred_eq, List.getElem?_append]
  split
  · rfl
  · have beyond : terms[index]? = none := List.getElem?_eq_none (by omega)
    rw [beyond]
    cases index - terms.length <;> simp [different]

/-! ## Lists of numbered terms -/

/-- The lexicon numbers the terms of the list in their order. A term that is listed more
than once is found under its newest number. -/
structure Assigns (lexicon : Lexicon space) (terms : List String) : Prop where
  terms_eq : lexicon.terms.toList = terms
  id?_eq_some_iff : ∀ term id,
    lexicon.id? term = some id ↔ IsGreatest (positions terms term) id.index
  id?_eq_none_iff : ∀ term, lexicon.id? term = none ↔ term ∉ terms

namespace Assigns

theorem empty : (Lexicon.empty : Lexicon space).Assigns [] where
  terms_eq := rfl
  id?_eq_some_iff := by
    intro term id
    have unknown : (Lexicon.empty : Lexicon space).id? term = none := by simp [Lexicon.empty, id?]
    simp [unknown, not_isGreatest_of_not_mem]
  id?_eq_none_iff := by simp [Lexicon.empty, id?]

theorem size_eq (assigns : lexicon.Assigns terms) : lexicon.size = terms.length := by
  rw [← assigns.terms_eq, Array.length_toList]
  rfl

theorem nextId_eq (assigns : lexicon.Assigns terms) : lexicon.nextId = ⟨terms.length⟩ :=
  congrArg Id.mk (lexicon.index_nextId.trans assigns.size_eq)

theorem term?_eq (assigns : lexicon.Assigns terms) (id : Id space) :
    lexicon.term? id = terms[id.index]? := by
  rw [← assigns.terms_eq, Array.getElem?_toList]
  rfl

theorem getElem?_toList (assigns : lexicon.Assigns terms) (index : Nat) :
    lexicon.toList[index]? = terms[index]?.map fun term => (⟨index⟩, term) := by
  rw [Lexicon.getElem?_toList, assigns.term?_eq]

theorem append (assigns : lexicon.Assigns terms) (term : String) :
    (lexicon.append term).2.Assigns (terms ++ [term]) where
  terms_eq := by simp [Lexicon.append, assigns.terms_eq]
  id?_eq_some_iff := by
    intro other id
    rw [id?_append]
    by_cases same : term = other
    · rw [if_pos same, ← same, assigns.nextId_eq, Option.some.injEq]
      have newest := isGreatest_snoc_self terms term
      constructor
      · rintro rfl
        exact newest
      · intro alsoNewest
        exact congrArg Id.mk (newest.unique alsoNewest)
    · rw [if_neg same, positions_snoc_of_ne same]
      exact assigns.id?_eq_some_iff other id
  id?_eq_none_iff := by
    intro other
    rw [id?_append]
    by_cases same : term = other
    · simp [same]
    · simp [same, Ne.symm same, assigns.id?_eq_none_iff]

theorem intern_of_isGreatest
    (assigns : lexicon.Assigns terms)
    (newest : IsGreatest (positions terms term) id.index) :
    lexicon.intern term = (id, lexicon) :=
  intern_of_id? ((assigns.id?_eq_some_iff term id).mpr newest)

theorem intern_of_not_mem (assigns : lexicon.Assigns terms) (missing : term ∉ terms) :
    lexicon.intern term = lexicon.append term :=
  intern_of_id?_eq_none ((assigns.id?_eq_none_iff term).mpr missing)

theorem intern (assigns : lexicon.Assigns terms) (term : String) :
    (lexicon.intern term).2.Assigns (Extension.mirror terms (.intern term)) := by
  rw [Extension.mirror]
  cases found : lexicon.id? term with
  | none =>
      have missing := (assigns.id?_eq_none_iff term).mp found
      rw [if_neg missing, assigns.intern_of_not_mem missing]
      exact assigns.append term
  | some id =>
      have member : term ∈ terms := by
        by_contra missing
        rw [← assigns.id?_eq_none_iff, found] at missing
        cases missing
      rw [if_pos member, intern_of_id? found]
      exact assigns

theorem apply (assigns : lexicon.Assigns terms) (extension : Extension) :
    (extension.apply lexicon).Assigns (extension.mirror terms) := by
  cases extension with
  | append term => exact assigns.append term
  | intern term => exact assigns.intern term

theorem run (assigns : lexicon.Assigns terms) (extensions : List Extension) :
    (extensions.foldl Extension.apply lexicon).Assigns
      (extensions.foldl Extension.mirror terms) := by
  induction extensions generalizing lexicon terms with
  | nil => exact assigns
  | cons extension rest inductionHypothesis =>
      exact inductionHypothesis (assigns.apply extension)

end Assigns

theorem assigns_afterExtensions (extensions : List Extension) :
    (afterExtensions extensions : Lexicon space).Assigns (termsAfter extensions) :=
  Assigns.empty.run extensions

/-! ## Runs that number every term once -/

/-- No term is appended that has a number by then. -/
def AppendsNewTerms (extensions : List Extension) : Prop :=
  ∀ earlier term later, extensions = earlier ++ .append term :: later →
    term ∉ termsAfter earlier

theorem appendsNewTerms_nil : AppendsNewTerms [] := by
  intro earlier term later split
  cases earlier <;> cases split

theorem appendsNewTerms_snoc_iff {extensions : List Extension} {last : Extension} :
    AppendsNewTerms (extensions ++ [last]) ↔
      AppendsNewTerms extensions ∧
        ∀ term, last = .append term → term ∉ termsAfter extensions := by
  constructor
  · intro appendsNew
    constructor
    · rintro earlier term later rfl
      exact appendsNew earlier term (later ++ [last]) (by simp)
    · rintro term rfl
      exact appendsNew extensions term [] rfl
  · rintro ⟨appendsNew, lastIsNew⟩ earlier term later split
    rcases List.eq_nil_or_concat later with rfl | ⟨front, final, rfl⟩
    · obtain ⟨rfl, same⟩ := List.append_inj' split rfl
      exact lastIsNew term (List.cons.inj same).1
    · have shorter : extensions = earlier ++ .append term :: front := by
        rw [List.concat_eq_append, ← List.cons_append, ← List.append_assoc] at split
        exact (List.append_inj' split rfl).1
      exact appendsNew earlier term front shorter

theorem nodup_termsAfter_iff (extensions : List Extension) :
    (termsAfter extensions).Nodup ↔ AppendsNewTerms extensions := by
  induction extensions using List.reverseRecOn with
  | nil => exact ⟨fun _ => appendsNewTerms_nil, fun _ => List.nodup_nil⟩
  | append_singleton extensions last inductionHypothesis =>
      rw [termsAfter_snoc, appendsNewTerms_snoc_iff, ← inductionHypothesis]
      cases last with
      | append term =>
          rw [Extension.mirror, ← List.concat_eq_append, List.nodup_concat]
          simp [and_comm]
      | intern term =>
          rw [Extension.mirror]
          by_cases member : term ∈ termsAfter extensions
          · simp [member]
          · rw [if_neg member, ← List.concat_eq_append, List.nodup_concat]
            simp [member]

/-! ## What a lexicon answers -/

/-- After any run the numbers are those of the positions in the list of numbered terms. A
term is found under its newest number, appending gives the next number whatever the term,
and interning gives a new number only to a term that has none. The list repeats a term
exactly if a term was appended that had a number. -/
theorem afterExtensions_finds_newest (extensions : List Extension) :
    let lexicon : Lexicon space := afterExtensions extensions
    let terms := termsAfter extensions
    lexicon.nextId.index = terms.length ∧
      lexicon.size = terms.length ∧
      (∀ id, lexicon.term? id = terms[id.index]?) ∧
      (∀ term id,
        lexicon.id? term = some id ↔ IsGreatest {index | terms[index]? = some term} id.index) ∧
      (∀ term, lexicon.id? term = none ↔ term ∉ terms) ∧
      (∀ index, lexicon.toList[index]? = terms[index]?.map fun term => (Id.mk index, term)) ∧
      (∀ term, lexicon.append term =
          (⟨terms.length⟩, afterExtensions (extensions ++ [.append term])) ∧
        termsAfter (extensions ++ [.append term]) = terms ++ [term]) ∧
      (∀ term id, IsGreatest {index | terms[index]? = some term} id.index →
        lexicon.intern term = (id, lexicon)) ∧
      (∀ term, term ∉ terms → lexicon.intern term = lexicon.append term) ∧
      (terms.Nodup ↔ ∀ earlier term later, extensions = earlier ++ .append term :: later →
        (afterExtensions earlier : Lexicon space).id? term = none) := by
  intro lexicon terms
  have assigns : lexicon.Assigns terms := assigns_afterExtensions extensions
  refine ⟨congrArg Id.index assigns.nextId_eq, assigns.size_eq, assigns.term?_eq,
    assigns.id?_eq_some_iff, assigns.id?_eq_none_iff, assigns.getElem?_toList, ?appending,
    fun _ _ => assigns.intern_of_isGreatest, fun _ => assigns.intern_of_not_mem, ?repeats⟩
  case appending =>
    intro term
    rw [afterExtensions_snoc, termsAfter_snoc, ← assigns.nextId_eq]
    exact ⟨rfl, rfl⟩
  case repeats =>
    rw [nodup_termsAfter_iff, AppendsNewTerms]
    simp only [(assigns_afterExtensions _).id?_eq_none_iff]

end TripleStore.Lexicon
