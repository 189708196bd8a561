import TripleStore.Proofs.Query.Tokens
import TripleStore.Query.Parser

/-!
Contract: the sequences of kinds of tokens that a query is derived from.

Owns:
- the kinds that each part of a query is written with, and `SelectQuery.Derives`, by
  which they make up a whole query;
- that each reader takes off the kinds of its part, and takes off no others;
- that a text is a query exactly if its tokens derive it.

Does not own: the characters of a token (`TripleStore.Proofs.Query.Lexeme`).
-/

namespace TripleStore.Query

/-! ## Derivations -/

def Slot.kind : Slot → TokenKind
  | placeholder name => .variableName name.name
  | literal term => .literal term

def Pattern.kinds (pattern : Pattern) : List TokenKind :=
  [pattern.subject.kind, pattern.predicate.kind, pattern.object.kind]

/-- The kinds of the whole clause, with what stands behind the last slot. -/
def Pattern.clauseKinds (pattern : Pattern) (dots : List TokenKind) : List TokenKind :=
  [.keyword .WHERE, .leftBrace] ++ pattern.kinds ++ dots ++ [.rightBrace]

/-- Listed variables are separated by single commas. -/
def Projection.kinds : Projection → List TokenKind
  | .all => [.star]
  | .listed chosen => (chosen.map fun wanted => .variableName wanted.name).intersperse .comma

namespace Modifier

def kinds : Modifier → List TokenKind
  | distinct => [.keyword .DISTINCT]
  | all => [.keyword .ALL]
  | limit count => [.keyword .LIMIT, .number count]
  | offset count => [.keyword .OFFSET, .number count]
  | groupBy name => [.keyword .GROUP, .keyword .BY, .variableName name.name]

/-- The modifiers that stand before the projection. -/
def Leads (modifier : Modifier) : Prop :=
  modifier = distinct ∨ modifier = all

instance (modifier : Modifier) : Decidable modifier.Leads := by
  unfold Leads
  infer_instance

end Modifier

/-- The kinds, the end of input left out, are a sentence of the grammar for the query.
At most one modifier leads and is then the first one, the others trail in their order,
and the dot behind the last slot is optional. -/
inductive SelectQuery.Derives : SelectQuery → List TokenKind → Prop where
  | sentence
      (projection : Projection)
      (pattern : Pattern)
      (leading trailing : List Modifier)
      (dots : List TokenKind)
      (listsSome : projection ≠ .listed [])
      (leads : leading = [] ∨ leading = [.distinct] ∨ leading = [.all])
      (trails : ∀ modifier ∈ trailing, ¬modifier.Leads)
      (atMostOne : dots = [] ∨ dots = [.dot]) :
      Derives { projection, pattern, modifiers := leading ++ trailing }
        ([.keyword .SELECT] ++ leading.flatMap Modifier.kinds ++ projection.kinds ++
          pattern.clauseKinds dots ++ trailing.flatMap Modifier.kinds)

/-! ## Reading off kinds -/

/-- The tokens start with ones of these kinds, and the rest comes behind them. -/
def Reads (kinds : List TokenKind) (tokens rest : List Token) : Prop :=
  ∃ read, tokens = read ++ rest ∧ read.map Token.kind = kinds

variable {kind : TokenKind} {kinds : List TokenKind} {token : Token} {tokens rest : List Token}

@[simp] theorem reads_nil : Reads [] tokens rest ↔ tokens = rest := by
  simp [Reads]

@[simp] theorem not_reads_cons_nil : ¬Reads (kind :: kinds) [] rest := by
  rintro ⟨read, whole, readKinds⟩
  simp_all

@[simp] theorem reads_cons_cons :
    Reads (kind :: kinds) (token :: tokens) rest ↔ token.kind = kind ∧ Reads kinds tokens rest := by
  constructor
  · rintro ⟨read, whole, readKinds⟩
    cases read with
    | nil => simp at readKinds
    | cons first others =>
        rw [List.cons_append, List.cons.injEq] at whole
        rw [List.map_cons, List.cons.injEq] at readKinds
        exact ⟨whole.1 ▸ readKinds.1, others, whole.2, readKinds.2⟩
  · rintro ⟨rfl, others, rfl, rfl⟩
    exact ⟨token :: others, rfl, rfl⟩

theorem reads_cons_iff :
    Reads (kind :: kinds) tokens rest ↔
      ∃ offset others, tokens = { kind, offset } :: others ∧ Reads kinds others rest := by
  cases tokens with
  | nil => simp
  | cons token others =>
      rcases token with ⟨found, offset⟩
      simp only [reads_cons_cons, List.cons.injEq, Token.mk.injEq]
      constructor
      · rintro ⟨rfl, reads⟩
        exact ⟨offset, others, ⟨⟨rfl, rfl⟩, rfl⟩, reads⟩
      · rintro ⟨_, _, ⟨⟨rfl, rfl⟩, rfl⟩, reads⟩
        exact ⟨rfl, reads⟩

theorem reads_append (front back : List TokenKind) :
    Reads (front ++ back) tokens rest ↔
      ∃ middle, Reads front tokens middle ∧ Reads back middle rest := by
  induction front generalizing tokens with
  | nil => simp
  | cons kind front inductionHypothesis =>
      cases tokens with
      | nil => simp
      | cons token tokens => simp [inductionHypothesis, and_assoc]

theorem Reads.append
    {front back : List TokenKind}
    {middle : List Token}
    (readsFront : Reads front tokens middle)
    (readsBack : Reads back middle rest) :
    Reads (front ++ back) tokens rest :=
  (reads_append front back).mpr ⟨middle, readsFront, readsBack⟩

theorem reads_cons :
    Reads (kind :: kinds) tokens rest ↔
      ∃ middle, Reads [kind] tokens middle ∧ Reads kinds middle rest :=
  reads_append [kind] kinds

theorem Reads.map_kind (reads : Reads kinds tokens rest) :
    tokens.map Token.kind = kinds ++ rest.map Token.kind := by
  rcases reads with ⟨read, rfl, rfl⟩
  exact List.map_append

/-! ## Readers -/

@[simp] theorem refuse_ne_ok {Result : Type} (expected : Expectation) (result : Result) :
    refuse expected tokens ≠ .ok result := by
  simp [refuse]

/-- A list that was read behind its first element. -/
theorem prepend_eq_ok_iff
    {Element : Type}
    {first : Element}
    {others : Except ParseError (List Element × List Token)}
    {elements : List Element} :
    (do
        let (more, remaining) ← others
        return (first :: more, remaining)) = .ok (elements, rest) ↔
      ∃ more, others = .ok (more, rest) ∧ elements = first :: more := by
  simp only [bind_eq_ok_iff, pure, Except.pure, Except.ok.injEq, Prod.mk.injEq, Prod.exists]
  constructor
  · intro accepted
    rcases accepted with ⟨more, remaining, read, rfl, rfl⟩
    exact ⟨more, read, rfl⟩
  · intro read
    rcases read with ⟨more, read, rfl⟩
    exact ⟨more, rest, read, rfl, rfl⟩

theorem expectKind_eq_ok_iff (expected : Expectation) :
    expectKind kind expected tokens = .ok rest ↔ Reads [kind] tokens rest := by
  unfold expectKind
  cases tokens with
  | nil => simp
  | cons token tokens =>
      by_cases fits : token.kind = kind <;> simp [fits]

theorem readVariable_eq_ok_iff (expected : Expectation) (wanted : Variable) :
    readVariable expected tokens = .ok (wanted, rest) ↔
      Reads [.variableName wanted.name] tokens rest := by
  unfold readVariable
  split
  · next name offset others =>
      rcases wanted with ⟨wanted⟩
      simp
  · next noVariable =>
      simp only [refuse_ne_ok, false_iff, reads_cons_iff]
      rintro ⟨offset, others, rfl, _⟩
      exact noVariable _ _ _ rfl

theorem readSlot_eq_ok_iff (slot : Slot) :
    readSlot tokens = .ok (slot, rest) ↔ Reads [slot.kind] tokens rest := by
  unfold readSlot
  split
  · next name offset others =>
      rcases slot with ⟨⟨wanted⟩⟩ | term <;> simp [Slot.kind]
  · next content offset others =>
      rcases slot with ⟨⟨wanted⟩⟩ | term <;> simp [Slot.kind]
  · next noVariable noLiteral =>
      simp only [refuse_ne_ok, false_iff, reads_cons_iff]
      rintro ⟨offset, others, rfl, _⟩
      cases slot with
      | placeholder name => exact noVariable _ _ _ rfl
      | literal term => exact noLiteral _ _ _ rfl

/-- The kinds of more variables, a comma before each. -/
def moreKinds (chosen : List Variable) : List TokenKind :=
  chosen.flatMap fun wanted => [.comma, .variableName wanted.name]

theorem Projection.kinds_listed_cons (first : Variable) (others : List Variable) :
    (Projection.listed (first :: others)).kinds =
      .variableName first.name :: moreKinds others := by
  unfold Projection.kinds moreKinds
  induction others generalizing first with
  | nil => rfl
  | cons second others inductionHypothesis =>
      simp only [List.map_cons, List.intersperse_cons_cons] at inductionHypothesis ⊢
      simp [inductionHypothesis]

/-- Variables are taken off until no comma follows. -/
theorem readMoreVariables_eq_ok_iff (chosen : List Variable) :
    readMoreVariables tokens = .ok (chosen, rest) ↔
      Reads (moreKinds chosen) tokens rest ∧ (currentToken rest).kind ≠ .comma := by
  constructor
  · intro accepted
    fun_induction readMoreVariables tokens generalizing chosen with
    | case1 commaOffset name offset others inductionHypothesis =>
        rcases prepend_eq_ok_iff.mp accepted with ⟨behind, read, rfl⟩
        simpa [moreKinds] using inductionHypothesis behind read
    | case2 => simp at accepted
    | case3 tokens noVariable noComma =>
        cases accepted
        refine ⟨reads_nil.mpr rfl, ?_⟩
        rcases rest with _ | ⟨⟨kind, offset⟩, others⟩
        · simp [currentToken]
        · rintro rfl
          exact noComma _ _ rfl
  · rintro ⟨reads, noComma⟩
    induction chosen generalizing tokens with
    | nil =>
        rw [moreKinds, List.flatMap_nil, reads_nil] at reads
        subst reads
        unfold readMoreVariables
        split
        · simp [currentToken] at noComma
        · simp [currentToken] at noComma
        · rfl
    | cons first others inductionHypothesis =>
        simp only [moreKinds, List.flatMap_cons, List.cons_append, List.nil_append,
          reads_cons_iff] at reads
        rcases reads with ⟨_, _, rfl, _, behind, rfl, reads⟩
        rw [readMoreVariables, inductionHypothesis reads]
        rfl

theorem readProjection_eq_ok_iff
    (noComma : (currentToken rest).kind ≠ .comma)
    (projection : Projection) :
    readProjection tokens = .ok (projection, rest) ↔
      projection ≠ .listed [] ∧ Reads projection.kinds tokens rest := by
  unfold readProjection
  split
  · next offset others =>
      rcases projection with _ | _ | ⟨first, chosen⟩
      · simp [Projection.kinds]
      · simp [Projection.kinds]
      · rw [Projection.kinds_listed_cons]
        simp
  · next noStar =>
      simp only [bind_eq_ok_iff, pure, Except.pure, Except.ok.injEq, Prod.mk.injEq,
        Prod.exists, readVariable_eq_ok_iff, readMoreVariables_eq_ok_iff]
      constructor
      · rintro ⟨first, middle, readsFirst, others, remaining, ⟨readsOthers, _⟩, rfl, rfl⟩
        refine ⟨by simp, ?_⟩
        rw [Projection.kinds_listed_cons]
        exact reads_cons.mpr ⟨middle, readsFirst, readsOthers⟩
      · rintro ⟨listsSome, reads⟩
        rcases projection with _ | _ | ⟨first, others⟩
        · rcases reads_cons_iff.mp reads with ⟨_, _, rfl, _⟩
          exact absurd rfl (noStar _ _)
        · exact absurd rfl listsSome
        · rw [Projection.kinds_listed_cons] at reads
          rcases reads_cons.mp reads with ⟨middle, readsFirst, readsOthers⟩
          exact ⟨first, middle, readsFirst, others, rest, ⟨readsOthers, noComma⟩, rfl, rfl⟩

/-- The dot before the closing brace is optional. -/
theorem reads_skipDot :
    Reads [.rightBrace] (skipDot tokens) rest ↔
      ∃ dots, (dots = [] ∨ dots = [.dot]) ∧ Reads (dots ++ [.rightBrace]) tokens rest := by
  unfold skipDot
  split
  · next offset others => simp
  · next noDot =>
      constructor
      · intro reads
        exact ⟨[], Or.inl rfl, reads⟩
      · rintro ⟨dots, rfl | rfl, reads⟩
        · exact reads
        · rcases reads_cons_iff.mp reads with ⟨_, _, rfl, _⟩
          exact absurd rfl (noDot _ _)

theorem readWhere_eq_ok_iff (pattern : Pattern) :
    readWhere tokens = .ok (pattern, rest) ↔
      ∃ dots, (dots = [] ∨ dots = [.dot]) ∧ Reads (pattern.clauseKinds dots) tokens rest := by
  have spelledOut : ∀ dots : List TokenKind,
      pattern.clauseKinds dots =
        .keyword .WHERE :: .leftBrace :: pattern.subject.kind :: pattern.predicate.kind ::
          pattern.object.kind :: (dots ++ [.rightBrace]) := by
    simp [Pattern.clauseKinds, Pattern.kinds]
  unfold readWhere
  simp only [bind_eq_ok_iff, pure, Except.pure, Except.ok.injEq, Prod.mk.injEq, Prod.exists,
    expectKind_eq_ok_iff, readSlot_eq_ok_iff, reads_skipDot, spelledOut]
  constructor
  · rintro ⟨_, word, _, brace, subject, _, readsSubject, predicate, _, readsPredicate,
      object, _, readsObject, _, ⟨dots, atMostOne, readsEnd⟩, rfl, rfl⟩
    refine ⟨dots, atMostOne, ?_⟩
    exact reads_cons.mpr ⟨_, word, reads_cons.mpr ⟨_, brace, reads_cons.mpr ⟨_, readsSubject,
      reads_cons.mpr ⟨_, readsPredicate, reads_cons.mpr ⟨_, readsObject, readsEnd⟩⟩⟩⟩⟩
  · rintro ⟨dots, atMostOne, reads⟩
    rcases reads_cons.mp reads with ⟨_, word, reads⟩
    rcases reads_cons.mp reads with ⟨_, brace, reads⟩
    rcases reads_cons.mp reads with ⟨_, readsSubject, reads⟩
    rcases reads_cons.mp reads with ⟨_, readsPredicate, reads⟩
    rcases reads_cons.mp reads with ⟨_, readsObject, readsEnd⟩
    exact ⟨_, word, _, brace, _, _, readsSubject, _, _, readsPredicate, _, _, readsObject, _,
      ⟨dots, atMostOne, readsEnd⟩, rfl, rfl⟩

theorem readLeadingModifier_eq_iff
    (noDistinct : (currentToken rest).kind ≠ .keyword .DISTINCT)
    (noAll : (currentToken rest).kind ≠ .keyword .ALL)
    (leading : List Modifier) :
    readLeadingModifier tokens = (leading, rest) ↔
      (leading = [] ∨ leading = [.distinct] ∨ leading = [.all]) ∧
        Reads (leading.flatMap Modifier.kinds) tokens rest := by
  unfold readLeadingModifier
  split
  · next offset others =>
      constructor
      · rintro ⟨⟩
        simp [Modifier.kinds]
      · rintro ⟨rfl | rfl | rfl, reads⟩
        · rw [List.flatMap_nil, reads_nil] at reads
          subst reads
          exact absurd rfl noDistinct
        · simpa [Modifier.kinds] using reads
        · simp [Modifier.kinds] at reads
  · next offset others =>
      constructor
      · rintro ⟨⟩
        simp [Modifier.kinds]
      · rintro ⟨rfl | rfl | rfl, reads⟩
        · rw [List.flatMap_nil, reads_nil] at reads
          subst reads
          exact absurd rfl noAll
        · simp [Modifier.kinds] at reads
        · simpa [Modifier.kinds] using reads
  · next notDistinct notAll =>
      constructor
      · rintro ⟨⟩
        simp
      · rintro ⟨rfl | rfl | rfl, reads⟩
        · simpa using reads
        · rcases reads_cons_iff.mp reads with ⟨_, _, rfl, _⟩
          exact absurd rfl (notDistinct _ _)
        · rcases reads_cons_iff.mp reads with ⟨_, _, rfl, _⟩
          exact absurd rfl (notAll _ _)

/-- The words that a trailing modifier starts with. -/
def trailingWords : List TokenKind :=
  [.keyword .LIMIT, .keyword .OFFSET, .keyword .GROUP]

/-- The modifiers are all the trailing ones that the tokens start with. -/
structure Trailing (modifiers : List Modifier) (tokens rest : List Token) : Prop where
  trails : ∀ modifier ∈ modifiers, ¬modifier.Leads
  reads : Reads (modifiers.flatMap Modifier.kinds) tokens rest
  complete : (currentToken rest).kind ∉ trailingWords

theorem Trailing.cons
    {first : Modifier}
    {others : List Modifier}
    {middle : List Token}
    (trailsFirst : ¬first.Leads)
    (readsFirst : Reads first.kinds tokens middle)
    (trailing : Trailing others middle rest) :
    Trailing (first :: others) tokens rest where
  trails := List.forall_mem_cons.mpr ⟨trailsFirst, trailing.trails⟩
  reads := readsFirst.append trailing.reads
  complete := trailing.complete

theorem trailing_of_readModifiers
    {modifiers : List Modifier}
    (accepted : readModifiers tokens = .ok (modifiers, rest)) :
    Trailing modifiers tokens rest := by
  fun_induction readModifiers tokens generalizing modifiers with
  | case1 wordOffset count offset others inductionHypothesis =>
      rcases prepend_eq_ok_iff.mp accepted with ⟨behind, read, rfl⟩
      exact (inductionHypothesis read).cons (by simp [Modifier.Leads]) (by simp [Modifier.kinds])
  | case2 => simp at accepted
  | case3 wordOffset count offset others inductionHypothesis =>
      rcases prepend_eq_ok_iff.mp accepted with ⟨behind, read, rfl⟩
      exact (inductionHypothesis read).cons (by simp [Modifier.Leads]) (by simp [Modifier.kinds])
  | case4 => simp at accepted
  | case5 wordOffset byOffset name offset others inductionHypothesis =>
      rcases prepend_eq_ok_iff.mp accepted with ⟨behind, read, rfl⟩
      exact (inductionHypothesis read).cons (by simp [Modifier.Leads]) (by simp [Modifier.kinds])
  | case6 => simp at accepted
  | case7 => simp at accepted
  | case8 tokens _ noLimit _ noOffset _ _ noGroup =>
      cases accepted
      refine ⟨by simp, reads_nil.mpr rfl, ?_⟩
      rcases rest with _ | ⟨⟨kind, offset⟩, others⟩
      · simp [currentToken, trailingWords]
      · simp only [currentToken, trailingWords, List.mem_cons, List.not_mem_nil, or_false]
        rintro (rfl | rfl | rfl)
        · exact noLimit _ _ rfl
        · exact noOffset _ _ rfl
        · exact noGroup _ _ rfl

theorem readModifiers_of_trailing
    {modifiers : List Modifier}
    (trailing : Trailing modifiers tokens rest) :
    readModifiers tokens = .ok (modifiers, rest) := by
  induction modifiers generalizing tokens with
  | nil =>
      have whole := reads_nil.mp trailing.reads
      have complete := trailing.complete
      subst whole
      fun_cases readModifiers tokens <;>
        first | rfl | simp [currentToken, trailingWords] at complete
  | cons first others inductionHypothesis =>
      rcases (reads_append _ _).mp trailing.reads with ⟨middle, readsFirst, readsOthers⟩
      rcases List.forall_mem_cons.mp trailing.trails with ⟨trailsFirst, trailsOthers⟩
      have readOthers := inductionHypothesis ⟨trailsOthers, readsOthers, trailing.complete⟩
      cases first with
      | distinct => exact absurd (Or.inl rfl) trailsFirst
      | all => exact absurd (Or.inr rfl) trailsFirst
      | limit count =>
          simp only [Modifier.kinds, reads_cons_iff, reads_nil] at readsFirst
          rcases readsFirst with ⟨_, _, rfl, _, _, rfl, rfl⟩
          rw [readModifiers, readOthers]
          rfl
      | offset count =>
          simp only [Modifier.kinds, reads_cons_iff, reads_nil] at readsFirst
          rcases readsFirst with ⟨_, _, rfl, _, _, rfl, rfl⟩
          rw [readModifiers, readOthers]
          rfl
      | groupBy name =>
          simp only [Modifier.kinds, reads_cons_iff, reads_nil] at readsFirst
          rcases readsFirst with ⟨_, _, rfl, _, _, rfl, _, _, rfl, rfl⟩
          rw [readModifiers, readOthers]
          rfl

/-! ## Whole queries -/

theorem Reads.currentToken_kind (reads : Reads (kind :: kinds) tokens rest) :
    (currentToken tokens).kind = kind := by
  rcases reads_cons_iff.mp reads with ⟨offset, others, rfl, _⟩
  rfl

/-- A projection starts with a star or a variable, so no word that leads. -/
theorem Projection.currentToken_of_reads
    {projection : Projection}
    (listsSome : projection ≠ .listed [])
    (reads : Reads projection.kinds tokens rest)
    (word : Keyword) :
    (currentToken tokens).kind ≠ .keyword word := by
  rcases projection with _ | _ | ⟨first, others⟩
  · rw [reads.currentToken_kind]
    simp
  · exact absurd rfl listsSome
  · rw [Projection.kinds_listed_cons] at reads
    rw [reads.currentToken_kind]
    simp

theorem derives_of_parseTokens
    {query : SelectQuery}
    (accepted : parseTokens tokens = .ok query) :
    ∃ kinds rest, query.Derives kinds ∧ Reads kinds tokens rest ∧
      (currentToken rest).kind = .endOfInput := by
  unfold parseTokens at accepted
  simp only [bind_eq_ok_iff, Prod.exists, expectKind_eq_ok_iff, readWhere_eq_ok_iff] at accepted
  rcases accepted with ⟨afterSelect, readsSelect, projection, afterProjection, projected, pattern,
    afterPattern, ⟨dots, atMostOne, readsWhere⟩, trailing, remaining, trailed, finished⟩
  split at finished
  · next ends =>
      cases finished
      have atWhere : (currentToken afterProjection).kind = .keyword .WHERE :=
        readsWhere.currentToken_kind
      rcases (readProjection_eq_ok_iff (by simp [atWhere]) projection).mp projected with
        ⟨listsSome, readsProjection⟩
      have noWord := Projection.currentToken_of_reads listsSome readsProjection
      rcases (readLeadingModifier_eq_iff (noWord _) (noWord _) _).mp rfl with
        ⟨leads, readsLeading⟩
      have trailingPart := trailing_of_readModifiers trailed
      have readsFront := (readsSelect.append readsLeading).append readsProjection
      exact ⟨_, remaining, .sentence projection pattern _ trailing dots listsSome leads
        trailingPart.trails atMostOne, (readsFront.append readsWhere).append trailingPart.reads,
        ends⟩
  · simp at finished

theorem parseTokens_of_derives
    {query : SelectQuery}
    (derives : query.Derives kinds)
    (reads : Reads kinds tokens rest)
    (ends : (currentToken rest).kind = .endOfInput) :
    parseTokens tokens = .ok query := by
  rcases derives with
    ⟨projection, pattern, leading, trailing, dots, listsSome, leads, trails, atMostOne⟩
  rcases (reads_append _ _).mp reads with ⟨afterPattern, reads, readsTrailing⟩
  rcases (reads_append _ _).mp reads with ⟨afterProjection, reads, readsWhere⟩
  rcases (reads_append _ _).mp reads with ⟨afterLeading, reads, readsProjection⟩
  rcases (reads_append _ _).mp reads with ⟨afterSelect, readsSelect, readsLeading⟩
  have noWord := Projection.currentToken_of_reads listsSome readsProjection
  have atWhere : (currentToken afterProjection).kind = .keyword .WHERE :=
    readsWhere.currentToken_kind
  have selected := (expectKind_eq_ok_iff .selectKeyword).mpr readsSelect
  have led := (readLeadingModifier_eq_iff (noWord _) (noWord _) leading).mpr ⟨leads, readsLeading⟩
  have projected := (readProjection_eq_ok_iff (by simp [atWhere]) projection).mpr
    ⟨listsSome, readsProjection⟩
  have matched := (readWhere_eq_ok_iff pattern).mpr ⟨dots, atMostOne, readsWhere⟩
  have trailed := readModifiers_of_trailing
    ⟨trails, readsTrailing, by simp [ends, trailingWords]⟩
  unfold parseTokens
  simp only [selected, led, projected, matched, trailed, bind, Except.bind, if_pos ends]
  rfl

/-- The kinds that are part of every query, and the dot. -/
def frameKinds : List TokenKind :=
  [.keyword .SELECT, .keyword .WHERE, .leftBrace, .dot, .rightBrace]

/-- All kinds of a sentence have a property if those of its parts do. -/
theorem SelectQuery.Derives.forall_mem_iff
    {query : SelectQuery}
    (derives : query.Derives kinds)
    {Property : TokenKind → Prop}
    (ofFrame : ∀ kind ∈ frameKinds, Property kind) :
    (∀ kind ∈ kinds, Property kind) ↔
      (∀ kind ∈ query.projection.kinds, Property kind) ∧
        (∀ kind ∈ query.pattern.kinds, Property kind) ∧
          ∀ modifier ∈ query.modifiers, ∀ kind ∈ modifier.kinds, Property kind := by
  rcases derives with ⟨projection, pattern, leading, trailing, dots, _, _, _, atMostOne⟩
  have ofDots : ∀ kind ∈ dots, Property kind := by
    rcases atMostOne with rfl | rfl
    · simp
    · simpa using ofFrame .dot (by decide)
  have select : Property (.keyword .SELECT) := ofFrame _ (by decide)
  have word : Property (.keyword .WHERE) := ofFrame _ (by decide)
  have left : Property .leftBrace := ofFrame _ (by decide)
  have right : Property .rightBrace := ofFrame _ (by decide)
  have nothing : ∀ kind ∈ ([] : List TokenKind), Property kind := by simp
  simp only [Pattern.clauseKinds, List.forall_mem_append, List.forall_mem_cons,
    List.forall_mem_flatMap]
  constructor
  · intro all
    rcases all with ⟨⟨⟨⟨_, ofLeading⟩, ofProjection⟩, ⟨⟨_, ofPattern⟩, _⟩, _⟩, ofTrailing⟩
    exact ⟨ofProjection, ofPattern, ofLeading, ofTrailing⟩
  · intro parts
    rcases parts with ⟨ofProjection, ofPattern, ofLeading, ofTrailing⟩
    exact ⟨⟨⟨⟨⟨select, nothing⟩, ofLeading⟩, ofProjection⟩,
      ⟨⟨⟨word, left, nothing⟩, ofPattern⟩, ofDots⟩, right, nothing⟩, ofTrailing⟩

theorem Slot.kind_ne_endOfInput (slot : Slot) : slot.kind ≠ .endOfInput := by
  cases slot <;> simp [Slot.kind]

theorem Projection.endOfInput_notMem (projection : Projection) :
    .endOfInput ∉ projection.kinds := by
  rcases projection with _ | _ | ⟨first, others⟩
  · simp [Projection.kinds]
  · simp [Projection.kinds]
  · simp [Projection.kinds_listed_cons, moreKinds]

/-- The end of input is no part of a sentence. -/
theorem SelectQuery.Derives.endOfInput_notMem
    {query : SelectQuery}
    (derives : query.Derives kinds) :
    .endOfInput ∉ kinds := by
  have different : ∀ kind ∈ kinds, kind ≠ .endOfInput := by
    rw [derives.forall_mem_iff (by decide)]
    refine ⟨?_, ?_, ?_⟩
    · rintro kind member rfl
      exact query.projection.endOfInput_notMem member
    · simp [Pattern.kinds, Slot.kind_ne_endOfInput]
    · intro modifier _
      cases modifier <;> simp [Modifier.kinds]
  intro member
  exact different _ member rfl

/-- Where a sentence is read off and the end of input comes next, nothing comes behind it. -/
theorem Reads.map_kind_of_laidOut
    {Follows : List Char → Prop}
    {offset : Nat}
    {characters : List Char}
    (laidOut : LaidOut Follows offset tokens characters)
    (reads : Reads kinds tokens rest)
    (noEnd : .endOfInput ∉ kinds)
    (ends : (currentToken rest).kind = .endOfInput) :
    tokens.map Token.kind = kinds ++ [.endOfInput] := by
  rcases laidOut.exists_kinds with ⟨found, sameKinds, spelled⟩
  have whole := reads.map_kind.symm.trans sameKinds
  rw [reads.map_kind, List.append_cancel_left_eq]
  rcases List.append_eq_append_iff.mp whole with ⟨more, rfl, behind⟩ | ⟨more, rfl, behind⟩
  · cases more with
    | nil => exact behind
    | cons first others =>
        rcases List.map_eq_cons_iff.mp behind with ⟨token, _, rfl, rfl, _⟩
        rcases spelled token.kind (by simp) with ⟨spelling, isSpelled⟩
        rw [show token.kind = .endOfInput from ends] at isSpelled
        cases isSpelled
  · cases more with
    | nil => exact behind.symm
    | cons first others =>
        rw [List.cons_append, List.cons.injEq] at behind
        exact absurd (by simp [behind.1]) noEnd

theorem derives_of_parse
    {text : String}
    {query : SelectQuery}
    (accepted : parse text = .ok query) :
    ∃ tokens kinds, tokenize text = .ok tokens ∧ query.Derives kinds ∧
      tokens.map Token.kind = kinds ++ [.endOfInput] := by
  rcases bind_eq_ok_iff.mp accepted with ⟨tokens, tokenized, acceptedTokens⟩
  rcases derives_of_parseTokens acceptedTokens with ⟨kinds, rest, derives, reads, ends⟩
  exact ⟨tokens, kinds, tokenized, derives,
    reads.map_kind_of_laidOut (laidOut_of_tokensFrom tokenized) derives.endOfInput_notMem ends⟩

theorem parse_of_derives
    {text : String}
    {query : SelectQuery}
    (tokenized : tokenize text = .ok tokens)
    (derives : query.Derives kinds)
    (sameKinds : tokens.map Token.kind = kinds ++ [.endOfInput]) :
    parse text = .ok query := by
  rcases List.map_eq_append_iff.mp sameKinds with ⟨read, behind, rfl, readKinds, behindKinds⟩
  rcases List.map_eq_singleton_iff.mp behindKinds with ⟨last, rfl, isEnd⟩
  exact bind_eq_ok_iff.mpr
    ⟨_, tokenized, parseTokens_of_derives derives ⟨read, rfl, readKinds⟩ isEnd⟩

/-- A text is a query exactly if it is cut into tokens that derive the query. -/
theorem parse_eq_ok_iff_derives (text : String) (query : SelectQuery) :
    parse text = .ok query ↔
      ∃ tokens kinds, tokenize text = .ok tokens ∧ query.Derives kinds ∧
        tokens.map Token.kind = kinds ++ [.endOfInput] := by
  constructor
  · exact derives_of_parse
  · intro derived
    rcases derived with ⟨tokens, kinds, tokenized, derives, sameKinds⟩
    exact parse_of_derives tokenized derives sameKinds

end TripleStore.Query
