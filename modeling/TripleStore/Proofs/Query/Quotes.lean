import Mathlib.Algebra.GroupWithZero.Nat
import TripleStore.Proofs.Query.LongestMatch
import TripleStore.Proofs.Query.Writing

/-!
Contract: how many single quotes the text of a query holds.

Owns:
- `TokenKind.quoteRoom`, the single quotes of a kind whose literal is put between two;
- that a spelling holds no more of them, and as many only where no literal holds one;
- the same of whole texts, and that a query has them in its pattern alone.

Does not own: texts in which literals are put between double quotes.
-/

namespace TripleStore.Query

/-- The literal, if the kind is one, holds no single quote. -/
def TokenKind.Plain (kind : TokenKind) : Prop :=
  ∀ content, kind = .literal content → '\x27' ∉ content.toList

/-- The single quotes that the kind is written with if its literal, whatever it holds, is put
between two of them. -/
def TokenKind.quoteRoom : TokenKind → Nat
  | literal content => content.toList.count '\x27' + 2
  | _ => 0

/-- The room of kinds that come one behind the other. -/
def quoteRoom (kinds : List TokenKind) : Nat :=
  (kinds.map TokenKind.quoteRoom).sum

@[simp] theorem quoteRoom_nil : quoteRoom [] = 0 := rfl

@[simp] theorem quoteRoom_cons (kind : TokenKind) (kinds : List TokenKind) :
    quoteRoom (kind :: kinds) = kind.quoteRoom + quoteRoom kinds := by
  simp [quoteRoom]

@[simp] theorem quoteRoom_append (left right : List TokenKind) :
    quoteRoom (left ++ right) = quoteRoom left + quoteRoom right := by
  simp [quoteRoom]

/-! ## Spellings -/

theorem IsBare.count_eq_zero {spelling : List Char} (isBare : IsBare spelling) :
    spelling.count '\x27' = 0 := by
  rw [List.count_eq_zero]
  intro member
  cases spelling with
  | nil => cases member
  | cons first others =>
      rcases List.mem_cons.mp member with rfl | later
      · exact absurd (isBare.noQuote _ rfl) (by decide)
      · exact absurd (isBare.goesOn _ later) (by decide)

theorem TokenKind.Spelled.count_le
    {kind : TokenKind}
    {spelling : List Char}
    (spelled : kind.Spelled spelling) :
    spelling.count '\x27' ≤ kind.quoteRoom ∧
      (spelling.count '\x27' = kind.quoteRoom → kind.Plain) := by
  rcases spelled.literal_or_isBare with ⟨quote, content, quotes, absent, rfl, rfl⟩ | isBare
  · simp only [quoteRoom, String.toList_ofList]
    rcases isQuote_iff.mp quotes with rfl | rfl
    · refine ⟨by simp, fun _ other same => ?_⟩
      cases same
      rwa [String.toList_ofList]
    · have between : ('"' :: (content ++ ['"'])).count '\x27' = content.count '\x27' := by
        simp
      rw [between]
      exact ⟨Nat.le_add_right _ _, fun same => absurd same (by omega)⟩
  · rw [isBare.count_eq_zero]
    refine ⟨Nat.zero_le _, ?_⟩
    rintro none content rfl
    cases none

/-! ## Texts -/

theorem AreBlank.count_eq_zero {blanks : List Char} (areBlank : AreBlank blanks) :
    blanks.count '\x27' = 0 := by
  rw [List.count_eq_zero]
  intro member
  exact absurd (areBlank _ member) (by decide)

/-- A text holds no more single quotes than its tokens have room for. If it holds as many,
every literal is put between two of them. -/
theorem LaidOut.count_le
    {Follows : List Char → Prop}
    {offset : Nat}
    {tokens : List Token}
    {characters : List Char}
    (laidOut : LaidOut Follows offset tokens characters) :
    characters.count '\x27' ≤ quoteRoom (tokens.map Token.kind) ∧
      (characters.count '\x27' = quoteRoom (tokens.map Token.kind) →
        ∀ token ∈ tokens, token.kind.Plain) := by
  induction laidOut with
  | finish offset blanks areBlank =>
      rw [areBlank.count_eq_zero]
      refine ⟨Nat.zero_le _, fun _ token member content isLiteral => ?_⟩
      rw [List.mem_singleton.mp member] at isLiteral
      cases isLiteral
  | token offset blanks kind spelling tokens rest areBlank spelled follows others
      inductionHypothesis =>
      obtain ⟨spellingFits, spellingFull⟩ := spelled.count_le
      obtain ⟨restFits, restFull⟩ := inductionHypothesis
      rw [List.count_append, List.count_append, areBlank.count_eq_zero, List.map_cons,
        quoteRoom_cons]
      dsimp only
      refine ⟨by omega, fun full => List.forall_mem_cons.mpr ⟨?_, ?_⟩⟩
      · exact spellingFull (by omega)
      · exact restFull (by omega)

/-! ## Queries -/

theorem Modifier.quoteRoom_kinds (modifiers : List Modifier) :
    quoteRoom (modifiers.flatMap Modifier.kinds) = 0 := by
  induction modifiers with
  | nil => rfl
  | cons modifier others inductionHypothesis =>
      rw [List.flatMap_cons, quoteRoom_append, inductionHypothesis]
      cases modifier <;> rfl

theorem Projection.quoteRoom_kinds (projection : Projection) :
    quoteRoom projection.kinds = 0 := by
  rcases projection with _ | _ | ⟨first, others⟩
  · rfl
  · rfl
  · rw [Projection.kinds_listed_cons]
    induction others with
    | nil => rfl
    | cons second rest inductionHypothesis =>
        simpa [moreKinds, TokenKind.quoteRoom] using inductionHypothesis

/-- Only the slots of a query have room for single quotes. -/
theorem SelectQuery.Derives.quoteRoom_eq
    {query : SelectQuery}
    {kinds : List TokenKind}
    (derives : query.Derives kinds) :
    quoteRoom kinds = quoteRoom query.pattern.kinds := by
  rcases derives with ⟨projection, pattern, leading, trailing, dots, _, _, _, atMostOne⟩
  have ofDots : quoteRoom dots = 0 := by
    rcases atMostOne with rfl | rfl <;> rfl
  simp [Pattern.clauseKinds, TokenKind.quoteRoom, Modifier.quoteRoom_kinds,
    Projection.quoteRoom_kinds, ofDots]

/-- A text that has a single quote on either side of each literal of the query that it is
read as, and those that the literals hold, is read as one whose literals hold none. -/
theorem plain_of_parse
    {text : String}
    {query : SelectQuery}
    (accepted : parse text = .ok query)
    (full : quoteRoom query.pattern.kinds ≤ text.toList.count '\x27') :
    ∀ kind ∈ query.pattern.kinds, kind.Plain := by
  obtain ⟨tokens, kinds, tokenized, derives, sameKinds⟩ := derives_of_parse accepted
  obtain ⟨fits, allPlain⟩ := (laidOut_of_tokensFrom tokenized).count_le
  rw [sameKinds, quoteRoom_append, derives.quoteRoom_eq] at fits allPlain
  have plainTokens := allPlain (Nat.le_antisymm fits full)
  have plainKinds : ∀ kind ∈ kinds, kind.Plain := by
    intro kind member
    have inTokens : kind ∈ tokens.map Token.kind := by simp [sameKinds, member]
    obtain ⟨token, listed, rfl⟩ := List.mem_map.mp inTokens
    exact plainTokens token listed
  rw [derives.forall_mem_iff] at plainKinds
  · exact plainKinds.2.1
  · simp [frameKinds, TokenKind.Plain]

end TripleStore.Query
