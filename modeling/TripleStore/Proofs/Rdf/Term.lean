import Mathlib.Tactic.SplitIfs
import TripleStore.Rdf.Term

/-!
Contract: what is written of terms tells them apart.

Owns:
- `Term.IsLegible`, by which no part of a term could be taken for the sign that ends it;
- that a legible term, written in full before a blank, can be read off again, with what
  follows it;
- that of legible subjects no two have one text.

Does not own: which terms a document can hold (`TripleStore.Proofs.Turtle.Graph`).
-/

namespace TripleStore.Rdf

/-! ## Legible terms -/

/-- The IRI holds no angle bracket, and does not start like a label. The letter of its
scheme, with which every IRI starts, is no underscore. -/
structure IsLegibleIri (iri : List Char) : Prop where
  notLabel : iri.head? ≠ some '_'
  opening_notMem : '<' ∉ iri
  closing_notMem : '>' ∉ iri

def Tag.IsLegible : Tag → Prop
  | plain => True
  | language tag => ' ' ∉ tag
  | datatype iri => IsLegibleIri iri

namespace Term

/-- A subject is no literal. -/
def IsSubject : Term → Prop
  | literal _ _ => False
  | _ => True

/-- The lexical form of a literal may hold whatever it likes. -/
def IsLegible : Term → Prop
  | iri text => IsLegibleIri text
  | blank label => ' ' ∉ label
  | literal _ tag => tag.IsLegible
  | quoted subject predicate object =>
      subject.IsSubject ∧ subject.IsLegible ∧ IsLegibleIri predicate ∧ object.IsLegible

structure IsLegibleSubject (node : Term) : Prop where
  isSubject : node.IsSubject
  isLegible : node.IsLegible

end Term

structure Triple.IsLegible (triple : Triple) : Prop where
  subject : triple.subject.IsLegibleSubject
  predicate : IsLegibleIri triple.predicate
  object : triple.object.IsLegible

/-! ## Texts that a sign ends -/

/-- A text that does not hold the sign is read off up to it. -/
theorem eq_of_append_cons_eq
    {sign : Char}
    {left right leftRest rightRest : List Char}
    (notInLeft : sign ∉ left)
    (notInRight : sign ∉ right)
    (same : left ++ sign :: leftRest = right ++ sign :: rightRest) :
    left = right ∧ leftRest = rightRest := by
  induction left generalizing right with
  | nil =>
      cases right with
      | nil => exact ⟨rfl, (List.cons.inj same).2⟩
      | cons first others =>
          have isSign : sign = first := (List.cons.inj same).1
          exact absurd (isSign ▸ List.mem_cons_self) notInRight
  | cons first others inductionHypothesis =>
      cases right with
      | nil =>
          have isSign : first = sign := (List.cons.inj same).1
          exact absurd (isSign ▸ List.mem_cons_self) notInLeft
      | cons otherFirst otherOthers =>
          obtain ⟨rfl, sameRest⟩ := List.cons.inj same
          rw [List.mem_cons, not_or] at notInLeft notInRight
          obtain ⟨rfl, sameBehind⟩ := inductionHypothesis notInLeft.2 notInRight.2 sameRest
          exact ⟨rfl, sameBehind⟩

theorem writeIri_append (iri rest : List Char) :
    writeIri iri ++ rest = '<' :: (iri ++ '>' :: rest) := by
  simp [writeIri]

theorem writeIri_inj
    {left right leftRest rightRest : List Char}
    (leftLegible : IsLegibleIri left)
    (rightLegible : IsLegibleIri right)
    (same : writeIri left ++ leftRest = writeIri right ++ rightRest) :
    left = right ∧ leftRest = rightRest := by
  rw [writeIri_append, writeIri_append] at same
  exact eq_of_append_cons_eq leftLegible.closing_notMem rightLegible.closing_notMem
    (List.cons.inj same).2

/-- A bracket is followed by an IRI or by a second bracket, never by both. -/
theorem writeIri_ne_quotation
    {iri rest otherRest : List Char}
    (legible : IsLegibleIri iri) :
    writeIri iri ++ rest ≠ '<' :: '<' :: otherRest := by
  intro same
  rw [writeIri_append, List.cons.injEq] at same
  cases iri with
  | nil => exact absurd (List.cons.inj same.2).1 (by decide)
  | cons first others =>
      have isOpening : first = '<' := (List.cons.inj same.2).1
      exact legible.opening_notMem (isOpening ▸ List.mem_cons_self)

/-! ## Escapes -/

/-- The character that the start of an escaped text stands for, and what follows it. -/
def unescape : List Char → Option (Char × List Char)
  | '\\' :: 'n' :: rest => some ('\n', rest)
  | '\\' :: 'r' :: rest => some ('\r', rest)
  | '\\' :: character :: rest => some (character, rest)
  | character :: rest => some (character, rest)
  | [] => none

theorem unescape_escape (character : Char) (rest : List Char) :
    unescape (escape character ++ rest) = some (character, rest) := by
  unfold escape
  split_ifs with isNewline isReturn isQuote isBackslash
  · rw [isNewline]
    rfl
  · rw [isReturn]
    rfl
  · rw [isQuote]
    rfl
  · rw [isBackslash]
    rfl
  · rw [List.singleton_append, unescape]
    all_goals simp [isBackslash]

theorem escape_append_ne_quote (character : Char) (rest otherRest : List Char) :
    escape character ++ rest ≠ '"' :: otherRest := by
  unfold escape
  split_ifs with isNewline isReturn isQuote isBackslash <;> simp_all

/-- The first quote that is not escaped ends a lexical form. -/
theorem flatMap_escape_inj
    {left right leftRest rightRest : List Char}
    (same : left.flatMap escape ++ '"' :: leftRest = right.flatMap escape ++ '"' :: rightRest) :
    left = right ∧ leftRest = rightRest := by
  induction left generalizing right with
  | nil =>
      cases right with
      | nil => exact ⟨rfl, (List.cons.inj same).2⟩
      | cons first others =>
          rw [List.flatMap_cons, List.append_assoc] at same
          exact absurd same.symm (escape_append_ne_quote first _ _)
  | cons first others inductionHypothesis =>
      rw [List.flatMap_cons, List.append_assoc] at same
      cases right with
      | nil => exact absurd same (escape_append_ne_quote first _ _)
      | cons otherFirst otherOthers =>
          rw [List.flatMap_cons, List.append_assoc] at same
          have read := unescape_escape first (others.flatMap escape ++ '"' :: leftRest)
          rw [same, unescape_escape, Option.some.injEq, Prod.mk.injEq] at read
          obtain ⟨rfl, sameRest⟩ := read
          obtain ⟨rfl, sameBehind⟩ := inductionHypothesis sameRest.symm
          exact ⟨rfl, sameBehind⟩

/-! ## Tags -/

theorem Tag.write_inj
    {left right : Tag}
    {leftRest rightRest : List Char}
    (leftLegible : left.IsLegible)
    (rightLegible : right.IsLegible)
    (same : left.write ++ ' ' :: leftRest = right.write ++ ' ' :: rightRest) :
    left = right ∧ leftRest = rightRest := by
  cases left with
  | plain =>
      cases right with
      | plain => exact ⟨rfl, (List.cons.inj same).2⟩
      | language tag => exact absurd (List.cons.inj same).1 (by decide)
      | datatype iri => exact absurd (List.cons.inj same).1 (by decide)
  | language tag =>
      cases right with
      | plain => exact absurd (List.cons.inj same).1 (by decide)
      | language otherTag =>
          obtain ⟨rfl, sameRest⟩ :=
            eq_of_append_cons_eq leftLegible rightLegible (List.cons.inj same).2
          exact ⟨rfl, sameRest⟩
      | datatype iri => exact absurd (List.cons.inj same).1 (by decide)
  | datatype iri =>
      cases right with
      | plain => exact absurd (List.cons.inj same).1 (by decide)
      | language tag => exact absurd (List.cons.inj same).1 (by decide)
      | datatype otherIri =>
          have behindSigns := (List.cons.inj (List.cons.inj same).2).2
          obtain ⟨rfl, sameRest⟩ := writeIri_inj leftLegible rightLegible behindSigns
          exact ⟨rfl, (List.cons.inj sameRest).2⟩

/-! ## Terms -/

namespace Term

theorem write_literal_append (lexical : List Char) (tag : Tag) (rest : List Char) :
    (literal lexical tag).write ++ rest =
      '"' :: (lexical.flatMap escape ++ '"' :: (tag.write ++ rest)) := by
  simp [write]

theorem write_quoted_append (subject object : Term) (predicate rest : List Char) :
    (quoted subject predicate object).write ++ rest =
      '<' :: '<' :: ' ' :: (subject.write ++ ' ' :: (writeIri predicate ++
        ' ' :: (object.write ++ ' ' :: '>' :: '>' :: rest))) := by
  simp [write]

/-- Read off a legible term that is written before a blank. Each kind of term starts with a
sign of its own, except that an IRI and a quoted triple differ in the second one. -/
theorem write_inj
    {left right : Term}
    {leftRest rightRest : List Char}
    (leftLegible : left.IsLegible)
    (rightLegible : right.IsLegible)
    (same : left.write ++ ' ' :: leftRest = right.write ++ ' ' :: rightRest) :
    left = right ∧ leftRest = rightRest := by
  induction left generalizing right leftRest rightRest with
  | iri text =>
      cases right with
      | iri otherText =>
          obtain ⟨rfl, sameRest⟩ := writeIri_inj leftLegible rightLegible same
          exact ⟨rfl, (List.cons.inj sameRest).2⟩
      | blank label => exact absurd (List.cons.inj same).1 (by decide)
      | literal lexical tag => exact absurd (List.cons.inj same).1 (by decide)
      | quoted subject predicate object =>
          rw [write_quoted_append] at same
          exact absurd same (writeIri_ne_quotation leftLegible)
  | blank label =>
      cases right with
      | iri text => exact absurd (List.cons.inj same).1 (by decide)
      | blank otherLabel =>
          have behindSigns := (List.cons.inj (List.cons.inj same).2).2
          obtain ⟨rfl, sameRest⟩ := eq_of_append_cons_eq leftLegible rightLegible behindSigns
          exact ⟨rfl, sameRest⟩
      | literal lexical tag => exact absurd (List.cons.inj same).1 (by decide)
      | quoted subject predicate object => exact absurd (List.cons.inj same).1 (by decide)
  | literal lexical tag =>
      cases right with
      | iri text => exact absurd (List.cons.inj same).1 (by decide)
      | blank label => exact absurd (List.cons.inj same).1 (by decide)
      | literal otherLexical otherTag =>
          rw [write_literal_append, write_literal_append] at same
          obtain ⟨rfl, sameBehind⟩ := flatMap_escape_inj (List.cons.inj same).2
          obtain ⟨rfl, sameRest⟩ := Tag.write_inj leftLegible rightLegible sameBehind
          exact ⟨rfl, sameRest⟩
      | quoted subject predicate object => exact absurd (List.cons.inj same).1 (by decide)
  | quoted subject predicate object ofSubject ofObject =>
      cases right with
      | iri text =>
          rw [write_quoted_append] at same
          exact absurd same.symm (writeIri_ne_quotation rightLegible)
      | blank label => exact absurd (List.cons.inj same).1 (by decide)
      | literal lexical tag => exact absurd (List.cons.inj same).1 (by decide)
      | quoted otherSubject otherPredicate otherObject =>
          obtain ⟨_, subjectLegible, predicateLegible, objectLegible⟩ := leftLegible
          obtain ⟨_, otherSubjectLegible, otherPredicateLegible, otherObjectLegible⟩ :=
            rightLegible
          rw [write_quoted_append, write_quoted_append] at same
          simp only [List.cons.injEq, true_and] at same
          -- A blank stands behind each of the three parts, so they are read off one by one.
          obtain ⟨rfl, behindSubject⟩ := ofSubject subjectLegible otherSubjectLegible same
          obtain ⟨rfl, behindPredicate⟩ :=
            writeIri_inj predicateLegible otherPredicateLegible behindSubject
          obtain ⟨rfl, behindObject⟩ :=
            ofObject objectLegible otherObjectLegible (List.cons.inj behindPredicate).2
          simp only [List.cons.injEq, true_and] at behindObject
          exact ⟨rfl, behindObject⟩

/-! ## Subjects -/

theorem write_inj_of_eq
    {left right : Term}
    (leftLegible : left.IsLegible)
    (rightLegible : right.IsLegible)
    (same : left.write = right.write) :
    left = right :=
  (write_inj leftLegible rightLegible (congrArg (· ++ [' ']) same)).1

/-- The text of an IRI is no label and no quoted triple, so a subject is told by its text. -/
theorem text_inj
    {left right : Term}
    (leftLegible : left.IsLegibleSubject)
    (rightLegible : right.IsLegibleSubject)
    (same : left.text = right.text) :
    left = right := by
  obtain ⟨leftSubject, leftLegible⟩ := leftLegible
  obtain ⟨rightSubject, rightLegible⟩ := rightLegible
  have iri_ne_write : ∀ {text : List Char} {other : Term}, IsLegibleIri text →
      other.write.head? = some '_' ∨ other.write.head? = some '<' → text ≠ other.write := by
    intro text other legible starts isText
    rw [← isText] at starts
    rcases starts with isLabel | isQuotation
    · exact legible.notLabel isLabel
    · exact legible.opening_notMem (List.mem_of_mem_head? isQuotation)
  cases left with
  | literal lexical tag => exact leftSubject.elim
  | iri text =>
      cases right with
      | literal lexical tag => exact rightSubject.elim
      | iri otherText => exact congrArg iri same
      | blank label => exact absurd same (iri_ne_write leftLegible (Or.inl rfl))
      | quoted subject predicate object =>
          exact absurd same (iri_ne_write leftLegible (Or.inr rfl))
  | blank label =>
      cases right with
      | literal lexical tag => exact rightSubject.elim
      | iri text => exact absurd same.symm (iri_ne_write rightLegible (Or.inl rfl))
      | blank otherLabel => exact write_inj_of_eq leftLegible rightLegible same
      | quoted subject predicate object =>
          exact write_inj_of_eq leftLegible rightLegible same
  | quoted subject predicate object =>
      cases right with
      | literal lexical tag => exact rightSubject.elim
      | iri text => exact absurd same.symm (iri_ne_write rightLegible (Or.inr rfl))
      | blank label => exact write_inj_of_eq leftLegible rightLegible same
      | quoted otherSubject otherPredicate otherObject =>
          exact write_inj_of_eq leftLegible rightLegible same

end Term

end TripleStore.Rdf
