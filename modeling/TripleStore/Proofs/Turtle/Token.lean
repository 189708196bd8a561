import TripleStore.Proofs.Rdf.Iri
import TripleStore.Turtle.Lexer

/-!
Contract: what the tokens of a Turtle document can hold.

Owns:
- `Token.IsLegible`, by which no part of a token could be taken for a sign around it;
- that every token of a document is legible.

Does not own: the nodes that tokens stand for (`TripleStore.Proofs.Turtle.Graph`).
-/

namespace TripleStore.Turtle

open TripleStore.Rdf (IsInside isInside_of_class)
open TripleStore.Text (Scalar Scalars)

/-! ## Legible tokens -/

/-- The local part goes behind an IRI as it is. A reference may hold what it likes until it
is resolved. -/
def Name.IsLegible : Name → Prop
  | reference _ => True
  | abbreviated _ localPart => ∀ character ∈ localPart, IsInside character

def Tag.IsLegible : Tag → Prop
  | plain => True
  | language tag => ' ' ∉ tag
  | datatype name => name.IsLegible

def Token.IsLegible : Token → Prop
  | .name spelling => spelling.IsLegible
  | .label text => ' ' ∉ text
  | .literal _ tag => tag.IsLegible
  | _ => True

variable {input rest : Scalars}

/-! ## Names -/

theorem blank_notMem_nameRun (input : Scalars) : ' ' ∉ nameRun input := by
  have notInName : isNameCharacter ' ' = false := by decide
  fun_induction nameRun input with
  | case1 next rest _ inductionHypothesis => simpa using inductionHypothesis
  | case2 => exact List.not_mem_nil
  | case3 character rest _ isName inductionHypothesis =>
      rw [List.mem_cons, not_or]
      refine ⟨?_, inductionHypothesis⟩
      rintro rfl
      rw [notInName] at isName
      cases isName
  | case4 => exact List.not_mem_nil
  | case5 => exact List.not_mem_nil

theorem blank_notMem_nameAt
    {starts : Char → Bool}
    (notStart : starts ' ' = false)
    (input : Scalars) :
    ' ' ∉ nameAt starts input := by
  unfold nameAt
  split
  · next character rest =>
      split
      · next isStart =>
          rw [List.mem_cons, not_or]
          refine ⟨?_, blank_notMem_nameRun rest⟩
          rintro rfl
          rw [notStart] at isStart
          cases isStart
      · exact List.not_mem_nil
  · exact List.not_mem_nil

theorem isInside_of_localCharacter?
    {scalar : Scalar}
    {character : Char}
    (found : localCharacter? scalar = some character) :
    IsInside character := by
  cases scalar with
  | char value =>
      obtain ⟨inLocal, same⟩ := Option.ite_none_right_eq_some.mp found
      cases same
      exact @isInside_of_class (fun value => isNameCharacter value || value == ':') (by decide) _
        inLocal
  | stray byte =>
      obtain ⟨rfl, isDot⟩ := Option.ite_none_right_eq_some.mp found
      cases isDot
      decide

theorem forall_isInside_localRun
    {piece : Piece (List Char)}
    (found : localRun input = some piece) :
    ∀ character ∈ piece.value, IsInside character := by
  fun_induction localRun input generalizing piece with
  | case1 high low rest isHex inductionHypothesis =>
      obtain ⟨behind, run, rfl⟩ := Option.map_eq_some_iff.mp found
      have percent : IsInside '%' := by decide
      rw [Bool.and_eq_true] at isHex
      simp only [Piece.extend, List.forall_mem_append, List.forall_mem_cons]
      exact ⟨⟨percent, Rdf.isInside_of_isHexDigit isHex.1, Rdf.isInside_of_isHexDigit isHex.2,
        by simp⟩, inductionHypothesis run⟩
  | case2 => cases found
  | case3 character rest isEscape inductionHypothesis =>
      obtain ⟨behind, run, rfl⟩ := Option.map_eq_some_iff.mp found
      simp only [Piece.extend, List.forall_mem_append, List.forall_mem_singleton]
      exact ⟨isInside_of_class (by decide) isEscape, inductionHypothesis run⟩
  | case4 => cases found
  | case5 first rest _ _ character isLocal inductionHypothesis =>
      obtain ⟨behind, run, rfl⟩ := Option.map_eq_some_iff.mp found
      simp only [Piece.extend, List.forall_mem_append, List.forall_mem_singleton]
      exact ⟨isInside_of_localCharacter? isLocal, inductionHypothesis run⟩
  | case6 => cases found
  | case7 first rest _ _ _ _ _ inductionHypothesis =>
      obtain ⟨behind, run, rfl⟩ := Option.map_eq_some_iff.mp found
      have dot : IsInside '.' := by decide
      simp only [Piece.extend, List.forall_mem_append, List.forall_mem_singleton]
      exact ⟨dot, inductionHypothesis run⟩
  | case8 =>
      cases found
      simp [Piece.nothing]
  | case9 =>
      cases found
      simp [Piece.nothing]

theorem forall_isInside_localName
    {piece : Piece (List Char)}
    (found : localName input = some piece) :
    ∀ character ∈ piece.value, IsInside character := by
  unfold localName at found
  split at found
  · split at found
    · exact forall_isInside_localRun found
    · cases found
      simp [Piece.nothing]
  · cases found
    simp [Piece.nothing]

theorem isLegible_abbreviatedName
    {piece : Piece Name}
    (found : abbreviatedName input = some piece) :
    piece.value.IsLegible := by
  unfold abbreviatedName at found
  dsimp only at found
  split at found
  · obtain ⟨localPart, isLocal, rfl⟩ := Option.map_eq_some_iff.mp found
    exact forall_isInside_localName isLocal
  · cases found

theorem isLegible_iriName
    {piece : Piece Name}
    (found : iriName input = some piece) :
    piece.value.IsLegible := by
  unfold iriName at found
  split at found
  · obtain ⟨body, _, rfl⟩ := Option.map_eq_some_iff.mp found
    exact trivial
  · exact isLegible_abbreviatedName found

/-! ## Literals -/

/-- Between its hyphens a tag is made up of letters and digits. -/
theorem blank_notMem_of_isWellFormed
    {tag : List Char}
    (wellFormed : Rdf.LanguageTag.isWellFormed tag = true) :
    ' ' ∉ tag := by
  have notInPart : Char.isAlphanum ' ' = false := by decide
  have noException : ∀ text ∈ Rdf.LanguageTag.exceptional, ' ' ∉ text.toList := by decide
  rcases Bool.or_eq_true_iff.mp wellFormed with isException | isRegular
  · obtain ⟨text, isText, same⟩ := List.any_eq_true.mp isException
    exact eq_of_beq same ▸ noException text isText
  · have parts : ∀ part ∈ Text.pieces '-' tag, ∀ character ∈ part, character ≠ ' ' := by
      rintro part isPart character member rfl
      have allParts := (Bool.and_eq_true_iff.mp isRegular).1
      have isAlphanumeric := List.all_eq_true.mp
        (Bool.and_eq_true_iff.mp (List.all_eq_true.mp allParts part isPart)).2 ' ' member
      rw [notInPart] at isAlphanumeric
      cases isAlphanumeric
    have noBlank := Rdf.forall_mem_of_pieces (by decide) parts
    exact fun member => noBlank ' ' member rfl

theorem isLegible_languageTag
    {piece : Piece Tag}
    (found : languageTag input = some piece) :
    piece.value.IsLegible := by
  unfold languageTag at found
  dsimp only at found
  obtain ⟨wellFormed, same⟩ := Option.ite_none_right_eq_some.mp found
  cases same
  exact blank_notMem_of_isWellFormed wellFormed

theorem isLegible_literalTag
    {piece : Piece Tag}
    (found : literalTag input = some piece) :
    piece.value.IsLegible := by
  unfold literalTag at found
  split at found
  · obtain ⟨language, isLanguage, rfl⟩ := Option.map_eq_some_iff.mp found
    have tagLegible := isLegible_languageTag isLanguage
    exact tagLegible
  · obtain ⟨name, isName, rfl⟩ := Option.map_eq_some_iff.mp found
    exact isLegible_iriName isName
  · cases found
  · cases found
    exact trivial

theorem isLegible_quotedLiteral
    {quote : Char}
    {piece : Piece Token}
    (found : quotedLiteral quote rest = some piece) :
    piece.value.IsLegible := by
  unfold quotedLiteral at found
  split at found
  · obtain ⟨tag, isTag, rfl⟩ := Option.map_eq_some_iff.mp found
    exact isLegible_literalTag isTag
  · cases found

theorem isLegible_numericLiteral
    {piece : Piece Token}
    (found : numericLiteral input = some piece) :
    piece.value.IsLegible := by
  simp only [numericLiteral, Option.bind_eq_bind, Option.bind_eq_some_iff, Option.pure_def,
    Option.some.injEq] at found
  obtain ⟨exponent, _, tag, isTag, rfl⟩ := found
  -- Every type of a number is a reference to one of the types that schemas have.
  unfold numberType at isTag
  split_ifs at isTag <;> cases isTag <;> exact trivial

/-! ## Words -/

theorem isLegible_word
    {place : Place}
    {piece : Piece Token}
    (found : word place input = some piece) :
    piece.value.IsLegible := by
  simp only [word, Option.orElse_eq_orElse, Option.orElse_eq_or, Option.or_eq_some_iff] at found
  rcases found with isDirective | ⟨_, isTruth | ⟨_, isName | ⟨_, isType⟩⟩⟩
  · obtain ⟨directive, _, rfl⟩ := Option.map_eq_some_iff.mp isDirective
    exact trivial
  · obtain ⟨_, isWord⟩ := Option.ite_none_right_eq_some.mp isTruth
    obtain ⟨text, _, rfl⟩ := Option.map_eq_some_iff.mp isWord
    exact trivial
  · obtain ⟨name, isLegible, rfl⟩ := Option.map_eq_some_iff.mp isName
    exact isLegible_abbreviatedName isLegible
  · obtain ⟨_, same⟩ := Option.ite_none_right_eq_some.mp isType
    cases same
    exact trivial

/-! ## Tokens -/

theorem isLegible_token
    {place : Place}
    {piece : Piece Token}
    (found : token place input = some piece) :
    piece.value.IsLegible := by
  -- A sign is legible by itself, so the cases below are those of the tokens that say more.
  have sign : ∀ {value : Token} {places : Nat},
      some { value, places : Piece Token } = some piece → value.IsLegible →
        piece.value.IsLegible := by
    intro value places same legible
    cases same
    exact legible
  unfold token at found
  split at found
  case h_5 =>
    obtain ⟨name, isName, rfl⟩ := Option.map_eq_some_iff.mp found
    have nameLegible := isLegible_iriName isName
    exact nameLegible
  case h_6 =>
    split at found
    · exact sign found trivial
    · exact sign found trivial
  case h_12 rest =>
    split at found
    · cases found
    · exact sign found (blank_notMem_nameAt (by decide) rest)
  case h_13 =>
    obtain ⟨directive, _, rfl⟩ := Option.map_eq_some_iff.mp found
    exact trivial
  case h_14 =>
    obtain ⟨literal, isLiteral, rfl⟩ := Option.map_eq_some_iff.mp found
    have literalLegible := isLegible_quotedLiteral isLiteral
    exact literalLegible
  case h_15 =>
    obtain ⟨literal, isLiteral, rfl⟩ := Option.map_eq_some_iff.mp found
    have literalLegible := isLegible_quotedLiteral isLiteral
    exact literalLegible
  case h_16 =>
    split at found
    · exact isLegible_numericLiteral found
    · exact sign found trivial
  case h_17 =>
    split at found
    · exact isLegible_numericLiteral found
    · exact isLegible_word found
  case h_18 => cases found
  all_goals exact sign found trivial

theorem forall_isLegible_tokens
    {place : Place}
    {tokensFound : List Token}
    (found : tokens place input = some tokensFound) :
    ∀ token ∈ tokensFound, token.IsLegible := by
  fun_induction tokens place input generalizing tokensFound with
  | case1 =>
      cases found
      simp
  | case2 => cases found
  | case3 place input first others _ piece isPiece inductionHypothesis =>
      obtain ⟨behind, areTokens, rfl⟩ := Option.map_eq_some_iff.mp found
      rw [List.forall_mem_cons]
      exact ⟨isLegible_token isPiece, inductionHypothesis areTokens⟩

end TripleStore.Turtle
