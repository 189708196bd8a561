import TripleStore.Proofs.Turtle.Token
import TripleStore.Turtle.Graph

/-!
Contract: the triples of a Turtle document are legible.

Owns:
- `Builds`, what reading gives whenever it succeeds, and its rules;
- legible trees and scopes, and that nesting, abbreviations and bases keep them so;
- that every triple of a document has a subject and nodes that are legible.

Does not own: the tokens of a document (`TripleStore.Proofs.Turtle.Token`), and what is
written of legible terms (`TripleStore.Proofs.Rdf.Term`).
-/

namespace TripleStore.Turtle

open TripleStore.Rdf (IsAbsolute IsLegibleIri Term)

/-! ## Trees -/

inductive Tree.IsLegible : Tree → Prop
  | leaf {token : Token} (legible : token.IsLegible) : IsLegible (.leaf token)
  | group
      {bracket : Bracket}
      {inside : List Tree}
      (legible : ∀ tree ∈ inside, IsLegible tree) :
      IsLegible (.group bracket inside)

theorem Tree.IsLegible.token {token : Token} (legible : IsLegible (.leaf token)) :
    token.IsLegible := by
  cases legible with
  | leaf legible => exact legible

theorem Tree.IsLegible.inside
    {bracket : Bracket}
    {inside : List Tree}
    (legible : IsLegible (.group bracket inside)) :
    ∀ tree ∈ inside, tree.IsLegible := by
  cases legible with
  | group legible => exact legible

/-- A bracket that closes makes one tree of what stands in it, so the trees in front of each
open bracket are carried along. -/
theorem forall_isLegible_nest
    {enclosing : List OpenBracket}
    {before found : List Tree}
    {tokens : List Token}
    (nested : nest enclosing before tokens = some found)
    (enclosingLegible : ∀ outer ∈ enclosing, ∀ tree ∈ outer.before, tree.IsLegible)
    (beforeLegible : ∀ tree ∈ before, tree.IsLegible)
    (tokensLegible : ∀ token ∈ tokens, token.IsLegible) :
    ∀ tree ∈ found, tree.IsLegible := by
  fun_induction nest enclosing before tokens with
  | case1 =>
      cases nested
      simpa using beforeLegible
  | case2 => cases nested
  | case3 enclosing before bracket rest _ inductionHypothesis =>
      rw [List.forall_mem_cons] at tokensLegible
      refine inductionHypothesis nested ?_ (by simp) tokensLegible.2
      rw [List.forall_mem_cons]
      exact ⟨beforeLegible, enclosingLegible⟩
  | case4 => cases nested
  | case5 => cases nested
  | case6 before rest innermost outer inductionHypothesis =>
      rw [List.forall_mem_cons] at enclosingLegible tokensLegible
      refine inductionHypothesis nested enclosingLegible.2 ?_ tokensLegible.2
      rw [List.forall_mem_cons]
      exact ⟨.group (by simpa using beforeLegible), enclosingLegible.1⟩
  | case7 => cases nested
  | case8 enclosing before token rest _ _ inductionHypothesis =>
      rw [List.forall_mem_cons] at tokensLegible
      refine inductionHypothesis nested enclosingLegible ?_ tokensLegible.2
      rw [List.forall_mem_cons]
      exact ⟨.leaf tokensLegible.1, beforeLegible⟩

/-! ## Building -/

/-- Every result of the building has the property, however many labels are made up
before. -/
def Builds {Result : Type} (building : Building Result) (Property : Result → Prop) : Prop :=
  ∀ count result next, building count = some (result, next) → Property result

namespace Builds

variable {First Second : Type} {Property : First → Prop} {Goal : Second → Prop}

theorem pure {value : First} (holds : Property value) :
    Builds (Pure.pure value : Building First) Property := by
  intro count result next built
  cases built
  exact holds

theorem bind
    {building : Building First}
    {next : First → Building Second}
    (first : Builds building Property)
    (second : ∀ value, Property value → Builds (next value) Goal) :
    Builds (building >>= next) Goal := by
  intro count result last built
  obtain ⟨⟨value, between⟩, builtFirst, builtSecond⟩ := Option.bind_eq_some_iff.mp built
  exact second value (first count value between builtFirst) between result last builtSecond

theorem found {result : Option First} (holds : ∀ value ∈ result, Property value) :
    Builds (Turtle.found result) Property := by
  intro count value next built
  obtain ⟨same, isFound, isSame⟩ := Option.map_eq_some_iff.mp built
  cases isSame
  exact holds value isFound

theorem none : Builds (Turtle.found (none : Option First)) Property :=
  found fun _ isNone => nomatch isNone

end Builds

/-! ## Scopes -/

/-- The base is read from an IRI that is absolute, and abbreviations stand for such IRIs. -/
structure Scope.IsLegible (scope : Scope) : Prop where
  base : ∀ reference ∈ scope.base, ∃ iri, IsAbsolute iri ∧ reference = .ofText iri
  abbreviations : ∀ entry ∈ scope.abbreviations, IsAbsolute entry.2

theorem Scope.isLegible_start : Scope.start.IsLegible where
  base := fun _ isBase => nomatch isBase
  abbreviations := by simp [start]

namespace Scope.IsLegible

variable {scope : Scope}

theorem iri?
    (scopeLegible : scope.IsLegible)
    {name : Name}
    {iri : List Char}
    (nameLegible : name.IsLegible)
    (found : scope.iri? name = some iri) :
    IsAbsolute iri := by
  cases name with
  | reference text => exact Rdf.isAbsolute_of_resolveIri? scopeLegible.base found
  | abbreviated abbreviation localPart =>
      obtain ⟨stem, isStem, rfl⟩ := Option.map_eq_some_iff.mp found
      obtain ⟨before, behind, whole, _⟩ := List.lookup_eq_some_iff.mp isStem
      have member : (abbreviation, stem) ∈ scope.abbreviations := by simp [whole]
      exact (scopeLegible.abbreviations _ member).append nameLegible

theorem tag?
    (scopeLegible : scope.IsLegible)
    {tag : Tag}
    {result : Rdf.Tag}
    (tagLegible : tag.IsLegible)
    (found : scope.tag? tag = some result) :
    result.IsLegible := by
  cases tag with
  | plain =>
      cases found
      exact trivial
  | language text =>
      cases found
      exact tagLegible
  | datatype name =>
      obtain ⟨iri, isIri, rfl⟩ := Option.map_eq_some_iff.mp found
      exact (scopeLegible.iri? tagLegible isIri).legible

theorem builds_reference (scopeLegible : scope.IsLegible) (text : List Char) :
    Builds (found (scope.iri? (.reference text))) IsAbsolute := by
  have nameLegible : (Name.reference text).IsLegible := trivial
  exact .found fun iri isIri => scopeLegible.iri? nameLegible isIri

theorem builds_abbreviate
    (scopeLegible : scope.IsLegible)
    (abbreviation text : List Char) :
    Builds (scope.abbreviate abbreviation text) Scope.IsLegible := by
  refine (scopeLegible.builds_reference text).bind ?_
  intro iri absolute
  refine .pure ⟨scopeLegible.base, ?_⟩
  rw [List.forall_mem_cons]
  exact ⟨absolute, scopeLegible.abbreviations⟩

theorem builds_rebase (scopeLegible : scope.IsLegible) (text : List Char) :
    Builds (scope.rebase text) Scope.IsLegible := by
  refine (scopeLegible.builds_reference text).bind ?_
  intro iri absolute
  refine .pure ⟨?_, scopeLegible.abbreviations⟩
  intro reference isBase
  cases isBase
  exact ⟨iri, absolute, rfl⟩

end Scope.IsLegible

/-! ## Labels -/

theorem blank_notMem_madeUpLabel (number : Nat) : ' ' ∉ madeUpLabel number := by
  have notDigit : Char.isDigit ' ' = false := by decide
  have notInDigits : ' ' ∉ Nat.toDigits 10 number := by
    intro member
    have isDigit := Nat.isDigit_of_mem_toDigits (by decide) (by decide) member
    rw [notDigit] at isDigit
    cases isDigit
  simp [madeUpLabel, labelStem, notInDigits]

theorem blank_notMem_ownLabel {label : List Char} (notInLabel : ' ' ∉ label) :
    ' ' ∉ ownLabel label := by
  unfold ownLabel
  split
  · simpa [labelMark] using notInLabel
  · exact notInLabel

/-! ## Nodes and what is said of them -/

/-- A node with the triples that describe it. -/
structure IsLegibleNode (described : Term × List Rdf.Triple) : Prop where
  node : described.1.IsLegible
  triples : ∀ triple ∈ described.2, triple.IsLegible

theorem isLegibleIri_vocabulary
    {name : String}
    (noOpening : '<' ∉ name.toList)
    (noClosing : '>' ∉ name.toList) :
    IsLegibleIri (vocabulary name) := by
  rw [vocabulary, String.toList_append]
  constructor
  · simp
  · simp [noOpening]
  · simp [noClosing]

theorem builds_freshNode : Builds freshNode Term.IsLegibleSubject := by
  intro count node next built
  cases built
  exact ⟨trivial, blank_notMem_madeUpLabel _⟩

theorem builds_notLiteral {node : Term} (legible : node.IsLegible) :
    Builds (notLiteral node) Term.IsLegibleSubject := by
  cases node with
  | literal lexical tag => exact .none
  | iri text => exact .pure ⟨trivial, legible⟩
  | blank label => exact .pure ⟨trivial, legible⟩
  | quoted subject predicate object => exact .pure ⟨trivial, legible⟩

variable {scope : Scope}

theorem builds_leafNode
    (scopeLegible : scope.IsLegible)
    (admitsComments : Bool)
    {token : Token}
    (legible : token.IsLegible) :
    Builds (leafNode scope admitsComments token) Term.IsLegible := by
  unfold leafNode
  split
  · refine .found fun node isNode => ?_
    obtain ⟨iri, isIri, rfl⟩ := Option.map_eq_some_iff.mp isNode
    exact (scopeLegible.iri? legible isIri).legible
  · exact .pure (blank_notMem_ownLabel legible)
  · split
    · exact .none
    · exact fun count node next built => (builds_freshNode count node next built).isLegible
  · refine .found fun node isNode => ?_
    obtain ⟨tag, isTag, rfl⟩ := Option.map_eq_some_iff.mp isNode
    exact scopeLegible.tag? legible isTag
  · exact .none

theorem builds_predicate
    (scopeLegible : scope.IsLegible)
    {token : Token}
    (legible : token.IsLegible) :
    Builds (predicate scope token) IsLegibleIri := by
  unfold predicate
  split
  · exact .found fun iri isIri => (scopeLegible.iri? legible isIri).legible
  · exact .pure (isLegibleIri_vocabulary (by decide) (by decide))
  · exact .none

mutual

theorem builds_quotedTriple
    (scopeLegible : scope.IsLegible)
    (inside : List Tree)
    (legible : ∀ tree ∈ inside, tree.IsLegible) :
    Builds (quotedTriple scope inside) Term.IsLegible := by
  unfold quotedTriple
  split
  · next subject token object =>
      simp only [List.forall_mem_cons] at legible
      obtain ⟨subjectLegible, tokenLegible, objectLegible, _⟩ := legible
      refine (builds_quotedNode scopeLegible subject subjectLegible).bind
        fun node nodeLegible => ?_
      refine (builds_notLiteral nodeLegible).bind fun subject subjectLegible => ?_
      refine (builds_predicate scopeLegible tokenLegible.token).bind
        fun predicate predicateLegible => ?_
      refine (builds_quotedNode scopeLegible object objectLegible).bind
        fun object objectLegible => ?_
      exact .pure
        ⟨subjectLegible.isSubject, subjectLegible.isLegible, predicateLegible, objectLegible⟩
  · exact .none

theorem builds_quotedNode
    (scopeLegible : scope.IsLegible)
    (tree : Tree)
    (legible : tree.IsLegible) :
    Builds (quotedNode scope tree) Term.IsLegible := by
  unfold quotedNode
  split
  · exact builds_leafNode scopeLegible true legible.token
  · next inside => exact builds_quotedTriple scopeLegible inside legible.inside
  · exact .none

end

mutual

theorem builds_node
    (scopeLegible : scope.IsLegible)
    (tree : Tree)
    (legible : tree.IsLegible) :
    Builds (node scope tree) IsLegibleNode := by
  unfold node
  split
  · refine (builds_leafNode scopeLegible false legible.token).bind fun node nodeLegible => ?_
    exact .pure ⟨nodeLegible, by simp⟩
  · next items => exact builds_cells scopeLegible items legible.inside
  · next inside =>
      refine builds_freshNode.bind fun subject subjectLegible => ?_
      refine (builds_description scopeLegible subjectLegible true inside legible.inside).bind
        fun triples triplesLegible => ?_
      exact .pure ⟨subjectLegible.isLegible, triplesLegible⟩
  · next inside =>
      refine (builds_quotedTriple scopeLegible inside legible.inside).bind
        fun node nodeLegible => ?_
      exact .pure ⟨nodeLegible, by simp⟩
  · exact .none
termination_by sizeOf tree

theorem builds_cells
    (scopeLegible : scope.IsLegible)
    (items : List Tree)
    (legible : ∀ tree ∈ items, tree.IsLegible) :
    Builds (cells scope items) IsLegibleNode := by
  cases items with
  | nil =>
      unfold cells
      exact .pure ⟨isLegibleIri_vocabulary (by decide) (by decide), by simp⟩
  | cons item rest =>
      rw [List.forall_mem_cons] at legible
      unfold cells
      refine builds_freshNode.bind fun cell cellLegible => ?_
      refine (builds_node scopeLegible item legible.1).bind fun first firstLegible => ?_
      refine (builds_cells scopeLegible rest legible.2).bind fun next nextLegible => ?_
      refine .pure ⟨cellLegible.isLegible, ?_⟩
      simp only [List.forall_mem_append, List.forall_mem_cons]
      have isFirst : IsLegibleIri (vocabulary "first") :=
        isLegibleIri_vocabulary (by decide) (by decide)
      have isRest : IsLegibleIri (vocabulary "rest") :=
        isLegibleIri_vocabulary (by decide) (by decide)
      exact ⟨firstLegible.triples, ⟨cellLegible, isFirst, firstLegible.node⟩,
        ⟨cellLegible, isRest, nextLegible.node⟩, nextLegible.triples⟩
termination_by sizeOf items

theorem builds_description
    (scopeLegible : scope.IsLegible)
    {subject : Term}
    (subjectLegible : Term.IsLegibleSubject subject)
    (isLenient : Bool)
    (said : List Tree)
    (legible : ∀ tree ∈ said, tree.IsLegible) :
    Builds (description scope subject isLenient said) fun triples =>
      ∀ triple ∈ triples, triple.IsLegible := by
  unfold description
  split
  · next token rest =>
      rw [List.forall_mem_cons] at legible
      refine (builds_predicate scopeLegible legible.1.token).bind
        fun predicate predicateLegible => ?_
      exact builds_objects scopeLegible subjectLegible isLenient predicateLegible rest legible.2
  · exact .none
termination_by sizeOf said

theorem builds_objects
    (scopeLegible : scope.IsLegible)
    {subject : Term}
    (subjectLegible : Term.IsLegibleSubject subject)
    (isLenient : Bool)
    {predicate : List Char}
    (predicateLegible : IsLegibleIri predicate)
    (said : List Tree)
    (legible : ∀ tree ∈ said, tree.IsLegible) :
    Builds (objects scope subject isLenient predicate said) fun triples =>
      ∀ triple ∈ triples, triple.IsLegible := by
  unfold objects
  split
  · next object inside rest =>
      simp only [List.forall_mem_cons] at legible
      obtain ⟨treeLegible, remarkLegible, restLegible⟩ := legible
      refine (builds_node scopeLegible object treeLegible).bind fun object objectLegible => ?_
      -- A remark is about the triple that it stands behind.
      have quotedLegible : Term.IsLegibleSubject (.quoted subject predicate object.1) :=
        ⟨trivial, subjectLegible.isSubject, subjectLegible.isLegible, predicateLegible,
          objectLegible.node⟩
      refine (builds_description scopeLegible quotedLegible false inside remarkLegible.inside).bind
        fun about aboutLegible => ?_
      have behind :=
        builds_afterObject scopeLegible subjectLegible isLenient predicateLegible rest restLegible
      refine behind.bind fun others othersLegible => ?_
      refine .pure ?_
      simp only [List.forall_mem_append, List.forall_mem_cons]
      exact ⟨objectLegible.triples,
        ⟨subjectLegible, predicateLegible, objectLegible.node⟩, aboutLegible, othersLegible⟩
  · next object rest _ =>
      rw [List.forall_mem_cons] at legible
      refine (builds_node scopeLegible object legible.1).bind fun object objectLegible => ?_
      have behind :=
        builds_afterObject scopeLegible subjectLegible isLenient predicateLegible rest legible.2
      refine behind.bind fun others othersLegible => ?_
      refine .pure ?_
      simp only [List.forall_mem_append, List.forall_mem_cons]
      exact ⟨objectLegible.triples,
        ⟨subjectLegible, predicateLegible, objectLegible.node⟩, othersLegible⟩
  · exact .none
termination_by sizeOf said

theorem builds_afterObject
    (scopeLegible : scope.IsLegible)
    {subject : Term}
    (subjectLegible : Term.IsLegibleSubject subject)
    (isLenient : Bool)
    {current : List Char}
    (currentLegible : IsLegibleIri current)
    (said : List Tree)
    (legible : ∀ tree ∈ said, tree.IsLegible) :
    Builds (afterObject scope subject isLenient current said) fun triples =>
      ∀ triple ∈ triples, triple.IsLegible := by
  unfold afterObject
  split
  · exact .pure (by simp)
  · next rest =>
      rw [List.forall_mem_cons] at legible
      exact builds_objects scopeLegible subjectLegible isLenient currentLegible rest legible.2
  · next rest =>
      rw [List.forall_mem_cons] at legible
      exact builds_afterSemicolon scopeLegible subjectLegible isLenient rest legible.2
  · next token rest _ _ =>
      rw [List.forall_mem_cons] at legible
      split
      · refine (builds_predicate scopeLegible legible.1.token).bind
          fun predicate predicateLegible => ?_
        exact builds_objects scopeLegible subjectLegible isLenient predicateLegible rest legible.2
      · exact .none
  · exact .none
termination_by sizeOf said

theorem builds_afterSemicolon
    (scopeLegible : scope.IsLegible)
    {subject : Term}
    (subjectLegible : Term.IsLegibleSubject subject)
    (isLenient : Bool)
    (said : List Tree)
    (legible : ∀ tree ∈ said, tree.IsLegible) :
    Builds (afterSemicolon scope subject isLenient said) fun triples =>
      ∀ triple ∈ triples, triple.IsLegible := by
  unfold afterSemicolon
  split
  · exact .pure (by simp)
  · next rest =>
      rw [List.forall_mem_cons] at legible
      exact builds_afterSemicolon scopeLegible subjectLegible isLenient rest legible.2
  · next token rest _ =>
      rw [List.forall_mem_cons] at legible
      refine (builds_predicate scopeLegible legible.1.token).bind
        fun predicate predicateLegible => ?_
      exact builds_objects scopeLegible subjectLegible isLenient predicateLegible rest legible.2
  · exact .none
termination_by sizeOf said

end

/-! ## Documents -/

theorem builds_statement
    (scopeLegible : scope.IsLegible)
    (said : List Tree)
    (legible : ∀ tree ∈ said, tree.IsLegible) :
    Builds (statement scope said) fun triples => ∀ triple ∈ triples, triple.IsLegible := by
  unfold statement
  split
  · rw [List.forall_mem_singleton] at legible
    refine (builds_node scopeLegible _ legible).bind fun described describedLegible => ?_
    exact .pure describedLegible.triples
  · next subject rest _ =>
      rw [List.forall_mem_cons] at legible
      refine (builds_node scopeLegible subject legible.1).bind fun described describedLegible => ?_
      refine (builds_notLiteral describedLegible.node).bind fun node nodeLegible => ?_
      refine (builds_description scopeLegible nodeLegible false rest legible.2).bind
        fun triples triplesLegible => ?_
      refine .pure ?_
      rw [List.forall_mem_append]
      exact ⟨describedLegible.triples, triplesLegible⟩
  · exact .none

/-- What a directive changes, it changes for the rest of the document. -/
theorem builds_statements
    (scopeLegible : scope.IsLegible)
    (document : List Tree)
    (legible : ∀ tree ∈ document, tree.IsLegible) :
    Builds (statements scope document) fun triples => ∀ triple ∈ triples, triple.IsLegible := by
  fun_induction statements scope document with
  | case1 => exact .pure (by simp)
  | case2 scope abbreviation text rest inductionHypothesis =>
      simp only [List.forall_mem_cons] at legible
      refine (scopeLegible.builds_abbreviate abbreviation text).bind fun scope scopeLegible => ?_
      exact inductionHypothesis scope scopeLegible legible.2.2.2.2
  | case3 scope abbreviation text rest inductionHypothesis =>
      simp only [List.forall_mem_cons] at legible
      refine (scopeLegible.builds_abbreviate abbreviation text).bind fun scope scopeLegible => ?_
      exact inductionHypothesis scope scopeLegible legible.2.2.2
  | case4 scope text rest inductionHypothesis =>
      simp only [List.forall_mem_cons] at legible
      refine (scopeLegible.builds_rebase text).bind fun scope scopeLegible => ?_
      exact inductionHypothesis scope scopeLegible legible.2.2.2
  | case5 scope text rest inductionHypothesis =>
      simp only [List.forall_mem_cons] at legible
      refine (scopeLegible.builds_rebase text).bind fun scope scopeLegible => ?_
      exact inductionHypothesis scope scopeLegible legible.2.2
  | case6 => exact .none
  | case7 scope first rest _ _ _ _ said dot others behind inductionHypothesis =>
      have saidLegible : ∀ tree ∈ said, tree.IsLegible := fun tree member =>
        legible tree (List.takeWhile_sublist _ |>.mem member)
      have othersLegible : ∀ tree ∈ others, tree.IsLegible := fun tree member =>
        legible tree (List.mem_of_mem_drop (behind ▸ List.mem_cons_of_mem dot member))
      refine (builds_statement scopeLegible said saidLegible).bind fun triples triplesLegible => ?_
      refine (inductionHypothesis scopeLegible othersLegible).bind
        fun others othersLegible => ?_
      refine .pure ?_
      rw [List.forall_mem_append]
      exact ⟨triplesLegible, othersLegible⟩

theorem forall_isLegible_triples
    {input : Text.Scalars}
    {triples : List Rdf.Triple}
    (found : triples? input = some triples) :
    ∀ triple ∈ triples, triple.IsLegible := by
  simp only [triples?, Option.bind_eq_bind, Option.bind_eq_some_iff, Option.pure_def,
    Option.some.injEq] at found
  obtain ⟨words, areWords, document, isDocument, ⟨result, count⟩, built, rfl⟩ := found
  have wordsLegible := forall_isLegible_tokens areWords
  have documentLegible := forall_isLegible_nest isDocument (by simp) (by simp) wordsLegible
  exact builds_statements Scope.isLegible_start document documentLegible 0 result count built

end TripleStore.Turtle
